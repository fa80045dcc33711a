import LoginGate.Bus.Value

namespace LoginGate

/-!
# Headers of messages

A message starts with a mark for the order of its bytes, its kind, its flags
and the version of the format, which take a byte each, and three words: the
length of the body, the serial number, and the length of the fields that
follow. Each field starts at a multiple of eight bytes and has a number, the
signature of its value, and the value. The body stands behind the fields, again
at a multiple of eight bytes.
-/

/-- What a message is for. -/
inductive MessageKind where
  | call
  | methodReturn
  | error
  | signal
  deriving Repr, DecidableEq

namespace MessageKind

/-- The word for a kind. -/
def name : MessageKind → String
  | .call =>
      "MethodCall"
  | .methodReturn =>
      "MethodReturn"
  | .error =>
      "Error"
  | .signal =>
      "Signal"

/-- The kind that a number stands for. -/
def ofNumber? (number : UInt8) : Option MessageKind :=
  if number = 1 then
    some .call
  else if number = 2 then
    some .methodReturn
  else if number = 3 then
    some .error
  else if number = 4 then
    some .signal
  else
    none

end MessageKind

/-- How many bytes come before the fields of a header. -/
def headerLength : Nat :=
  16

/-- The body starts at a multiple of so many bytes. -/
def bodyAlignment : Nat :=
  8

/-- The most bytes of a message: 128 MiB. -/
def mostMessageLength : Nat :=
  128 * 1024 * 1024

/-- The start of a message. -/
structure MessageHeader where
  order : ByteOrder
  kind : MessageKind
  bodyLength : Nat
  fieldsLength : Nat
  deriving Repr, DecidableEq

namespace MessageHeader

/-- Where the fields end. -/
def fieldsStop (header : MessageHeader) : Nat :=
  headerLength + header.fieldsLength

/-- Where the body starts. -/
def bodyStart (header : MessageHeader) : Nat :=
  header.fieldsStop + gapLength bodyAlignment header.fieldsStop

/-- The length of the whole message. -/
def messageLength (header : MessageHeader) : Nat :=
  header.bodyStart + header.bodyLength

end MessageHeader

/-- A field of a header, as far as a client that waits for an answer looks at it. -/
inductive HeaderField where
  | errorName (name : String)
  | signature (found : String)
  | other
  deriving Repr, DecidableEq

/--
The field with a number and a value. Of the names only the destination is
looked at.
-/
def HeaderField.ofValue (number : UInt8) (value : WireValue) : Except WireFault HeaderField :=
  match number.toNat, value with
  | 1, .path _ =>
      .ok .other
  | 2, .text _ =>
      .ok .other
  | 3, .text _ =>
      .ok .other
  | 4, .text name =>
      .ok (.errorName name)
  | 5, .word serial =>
      if serial = 0 then .error .replySerial else .ok .other
  | 6, .text name =>
      match peerNameFault? name with
      | some fault =>
          .error (.destination fault)
      | none =>
          .ok .other
  | 7, .text _ =>
      .ok .other
  | 8, .signature found =>
      .ok (.signature found)
  | 9, .word _ =>
      .ok .other
  | _, _ =>
      .error .fieldType

namespace Reading

/-- The start of a message, which announces the order of all bytes behind its mark. -/
def header : Reading MessageHeader := do
  match ByteOrder.ofMark? (← byte) with
  | none =>
      throw .byteOrder
  | some order =>
      modify fun cursor => { cursor with order := order }
      let number ← byte
      match MessageKind.ofNumber? number with
      | none =>
          throw (.kind number)
      | some kind =>
          let flags ← byte
          if 8 ≤ flags then
            throw (.flags flags)
          let _version ← byte
          let bodyLength ← word
          if (← word) = 0 then
            throw .serial
          let fieldsLength ← word
          let header : MessageHeader := ⟨order, kind, bodyLength, fieldsLength⟩
          if mostMessageLength < header.messageLength then
            throw .tooLong
          return header

/--
The value of a field, which stands in four containers: the record of the whole
header, the array of the fields, the record of the field, and the variant.
-/
def fieldValue : Reading WireValue := do
  let type ← variantType
  fromHere (value (mostContainers - 4) ⟨mostRecords - 2, mostArrays - 1⟩ type)

/-- A field of a header. -/
def field : Reading HeaderField := do
  gap recordAlignment
  let number ← byte
  if 1 ≤ number ∧ number ≤ 9 then
    match HeaderField.ofValue number (← fieldValue) with
    | .error fault =>
        throw fault
    | .ok found =>
        return found
  else
    throw (.field number)

/-- The fields of a header, which take so many bytes. -/
def fields (length : Nat) : Reading (List HeaderField) :=
  elements (within headerLength length field) (headerLength + length) length

end Reading

end LoginGate
