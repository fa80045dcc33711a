import LoginGate.Bus.Body
import LoginGate.Bus.Header

namespace LoginGate

/-!
# Messages that come in

Of a message that comes in, a client looks at the kind, the body with its
signature, and the name of the error if it reports one. A message that
gives no signature has the empty one; of two fields with one number the first counts.
-/

/-- A message from the other end of a connection. -/
structure IncomingMessage where
  kind : MessageKind
  /-- The name of the error that the message reports, if it has one. -/
  errorName : Option String
  body : MessageBody
  deriving Repr, DecidableEq

/-- The name that the first field for one gives to an error. -/
def HeaderField.errorName? (fields : List HeaderField) : Option String :=
  fields.findSome? fun
    | .errorName name =>
        some name
    | _ =>
        none

/-- The signature of a body that the first field for one gives. -/
def HeaderField.signature? (fields : List HeaderField) : Option String :=
  fields.findSome? fun
    | .signature found =>
        some found
    | _ =>
        none

/-- A whole message. -/
def Reading.incomingMessage : Reading IncomingMessage := do
  let header ← header
  let fields ← fields header.fieldsLength
  moveTo header.bodyStart
  let content ← bytes header.bodyLength
  return {
    kind := header.kind
    errorName := HeaderField.errorName? fields
    body := ⟨(HeaderField.signature? fields).getD "", content, header.order⟩ }

end LoginGate
