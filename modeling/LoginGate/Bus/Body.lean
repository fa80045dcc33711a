import LoginGate.Bus.Library
import LoginGate.Bus.Reading

namespace LoginGate

/-!
# Bodies of messages from the bus

A body is a sequence of bytes under a type signature. The gate reads two kinds
of values in it: a truth value, which is a word that is zero or one, and a text.
-/

/-- The bytes of a message's body and how to read them. -/
structure MessageBody where
  signature : String
  bytes : List UInt8
  order : ByteOrder
  deriving Repr, DecidableEq

namespace MessageBody

/--
The body with a text behind it. Words stand at multiples of four bytes, so
zeros fill the gap in front of the length.
-/
def appendText (body : MessageBody) (text : String) : MessageBody :=
  let content := text.toUTF8.toList
  { body with
    bytes := body.bytes ++ List.replicate (gapLength wordLength body.bytes.length) 0 ++
      body.order.wordBytes content.length ++ content ++ [0] }

/-- The truth value at the start of a body. -/
def readBoolean? (body : MessageBody) : Option Bool :=
  match Reading.word.runOn body.order body.bytes with
  | .ok 0 =>
      some false
  | .ok 1 =>
      some true
  | _ =>
      none

/-- The text at the start of a body, whatever the signature and whatever stands behind. -/
def readText (body : MessageBody) : Except WireFault String :=
  Reading.text.runOn body.order body.bytes

/--
What a client hands over of a method return with this body. A body that is nothing
has no signature, and only one that is a truth value is read as such.
-/
def methodReturn (body : MessageBody) : MethodReturn where
  signature := if body.signature = "" then none else some body.signature
  truth := if body.signature = booleanSignature then body.readBoolean? else none

/-- What an error with this body says about itself. -/
def detail (body : MessageBody) : String :=
  body.readText.toOption.getD "no details"

end MessageBody

end LoginGate
