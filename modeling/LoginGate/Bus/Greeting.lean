import LoginGate.Bus.Body
import LoginGate.Bus.Name

namespace LoginGate

/-!
# The answer to a greeting

A client greets the bus first, and the bus answers by the unique name that the
client has from then on. The name is checked: it comes as one text, which may
stand in parentheses, and it is in order as a unique name.
-/

/-- What is wrong with the answer to a greeting. -/
inductive GreetingFault where
  /-- The body has this signature and is no single text. -/
  | signature (found : String)
  | text (fault : WireFault)
  | name (fault : BusNameFault)
  deriving Repr, DecidableEq

/-- The text of a fault. -/
def GreetingFault.message : GreetingFault → String
  | .signature found =>
      "Signature mismatch: got `" ++ found ++ "`, expected `s`"
  | .text fault =>
      fault.message
  | .name fault =>
      "Invalid unique bus name: " ++ fault.message

/-- Whether a signature stands for one text, within any number of parentheses. -/
def isTextSignature (signature : String) : Bool :=
  let depth := (signature.length - 1) / 2
  signature.toList = List.replicate depth '(' ++ ['s'] ++ List.replicate depth ')'

/-- The name that the bus gives to a client. -/
def MessageBody.givenName (body : MessageBody) : Except GreetingFault String := do
  if isTextSignature body.signature then
    let name ← body.readText.mapError .text
    match uniqueNameFault? name with
    | some fault =>
        throw (.name fault)
    | none =>
        return name
  else
    throw (.signature body.signature)

end LoginGate
