import LoginGate.Bus.Wire

namespace LoginGate

/-!
# Reading from the front

A cursor stands in the bytes of a message or of a body. Each step reads one
value and moves on behind it; a step that fails still tells where the fault was
found, since an array that is left by a step is at fault itself.
-/

/-- Bytes, and how many of them were read. -/
structure Cursor where
  order : ByteOrder
  bytes : List UInt8
  position : Nat := 0
  /-- Where the value starts that is read; a fault counts bytes from there. -/
  base : Nat := 0
  deriving Repr, DecidableEq

/--
A step that reads a value where a cursor stands and moves the cursor behind it.
A step that fails leaves the cursor where the fault was found.
-/
abbrev Reading :=
  ExceptT WireFault (StateM Cursor)

namespace Reading

/-- The value that is read at the start of bytes. -/
def runOn {α : Type} (reading : Reading α) (order : ByteOrder) (bytes : List UInt8) :
    Except WireFault α :=
  (reading.run.run { order := order, bytes := bytes }).1

/-- So many bytes. -/
def bytes (length : Nat) : Reading (List UInt8) := do
  let cursor ← get
  let stop := cursor.position + length
  if cursor.bytes.length < stop then
    throw (.tooShort (cursor.bytes.length - cursor.base) (stop - cursor.base))
  else
    set { cursor with position := stop }
    return (cursor.bytes.drop cursor.position).take length

/-- One byte. -/
def byte : Reading UInt8 := do
  return (← bytes 1).headD 0

/-- Move on to a position, whatever is skipped. -/
def moveTo (position : Nat) : Reading Unit :=
  modify fun cursor => { cursor with position := position }

/--
The gap up to the next multiple of a number. A byte in it that is not zero
leaves the cursor in front of the gap.
-/
def gap (alignment : Nat) : Reading Unit := do
  let cursor ← get
  let length := gapLength alignment cursor.position
  if 0 < length then
    match (← bytes length).find? (· ≠ 0) with
    | some byte =>
        set cursor
        throw (.gap byte)
    | none =>
        return ()

/-- A word. -/
def word : Reading Nat := do
  gap wordLength
  let found ← bytes wordLength
  return (← get).order.wordNumber found

/-- So many bytes of text; the byte behind them is skipped. -/
def content (length : Nat) : Reading String := do
  let found ← bytes length
  if 0 ∈ found then
    throw .interiorNull
  else
    moveTo ((← get).position + 1)
    match Utf8.decode found with
    | .error fault =>
        throw (.encoding fault)
    | .ok text =>
        return text

/-- A text. -/
def text : Reading String := do
  content (← word)

/-- A signature. -/
def signature : Reading String := do
  let found ← content (← byte).toNat
  match signatureFault? found with
  | some fault =>
      throw fault
  | none =>
      return found

/-- Read a value whose faults count bytes from its own start. -/
def fromHere {α : Type} (step : Reading α) : Reading α := do
  let outer := (← get).base
  modify fun cursor => { cursor with base := cursor.position }
  let found ← step
  modify fun cursor => { cursor with base := outer }
  return found

/--
Read a value within so many bytes behind `start`. A step that leaves them fails
for that, whatever else it finds.
-/
def within {α : Type} (start length : Nat) (step : Reading α) : Reading α := .mk do
  let outcome ← step.run
  let position := (← get).position
  if start + length < position then
    return .error (.tooShort length (position - start))
  else
    return outcome

/--
The elements of an array up to its end. An element takes at least a byte, so
there are not more of them than bytes; `most` bounds their number.
-/
def elements {α : Type} (element : Reading α) (stop : Nat) : (most : Nat) → Reading (List α)
  | 0 =>
      return []
  | most + 1 => do
      if (← get).position = stop then
        return []
      else
        let first ← element
        return first :: (← elements element stop most)

end Reading

end LoginGate
