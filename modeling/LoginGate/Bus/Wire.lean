import LoginGate.Bus.Name
import LoginGate.Bus.ObjectPath
import LoginGate.Bus.Signature
import LoginGate.Text.Utf8

namespace LoginGate

/-!
# Values on the wire

A message is a sequence of bytes that is read from the front. Words take four
bytes in the order that the message announces and stand at multiples of four
bytes; the bytes in the gap before them are zero. A text is a word with its
length in bytes, those bytes, and U+0000 behind them; a signature is written
like a text, but its length takes one byte.
-/

/-- The order of the bytes of a number. -/
inductive ByteOrder where
  | littleEndian
  | bigEndian
  deriving Repr, DecidableEq

/-- The sorts of containers that may stand in each other only so often. -/
inductive ContainerSort where
  | records
  | arrays
  /-- Records, arrays and variants together. -/
  | all
  deriving Repr, DecidableEq

/-- The word for a sort of containers. -/
def ContainerSort.name : ContainerSort → String
  | .records =>
      "structures"
  | .arrays =>
      "arrays"
  | .all =>
      "containers"

/-- What is wrong with bytes that ought to be a message or a value in one. -/
inductive WireFault where
  /-- There are so many bytes, where so many are the least. -/
  | tooShort (length least : Nat)
  /-- A byte in a gap is not zero. -/
  | gap (byte : UInt8)
  /-- A text holds U+0000. -/
  | interiorNull
  | encoding (fault : Utf8.Fault)
  | signature (fault : SignatureFault)
  /-- A truth value is this number, and neither zero nor one. -/
  | truth (number : Nat)
  /-- No descriptor comes with the message. -/
  | descriptor
  /-- Containers of this sort stand in each other too often. -/
  | nesting (sort : ContainerSort)
  /-- The first byte is no mark for a byte order. -/
  | byteOrder
  /-- The number stands for no kind of message. -/
  | kind (number : UInt8)
  /-- A flag is set that the format does not know. -/
  | flags (bits : UInt8)
  /-- The serial number is zero. -/
  | serial
  | tooLong
  /-- The number stands for no field of a header. -/
  | field (number : UInt8)
  /-- The value of a field has a type that the field does not have. -/
  | fieldType
  | path (fault : ObjectPathFault)
  | destination (fault : PeerNameFault)
  /-- The serial number that a message answers is zero. -/
  | replySerial
  deriving Repr, DecidableEq

/-- The text of a fault. -/
def WireFault.message : WireFault → String
  | .tooShort length least =>
      "invalid length " ++ Nat.repr length ++ ", expected >= " ++ Nat.repr least
  | .gap byte =>
      "Unexpected non-0 padding byte `" ++ Nat.repr byte.toNat ++ "`"
  | .interiorNull =>
      "invalid value: character `" ++ String.singleton '\x00' ++
        "`, expected D-Bus string type must not contain interior null bytes"
  | .encoding fault =>
      fault.message
  | .signature fault =>
      fault.message
  | .truth number =>
      "invalid value: integer `" ++ Nat.repr number ++ "`, expected 0 or 1"
  | .descriptor =>
      "File descriptor not in the given FD index"
  | .nesting sort =>
      "Maximum allowed depth for " ++ sort.name ++ " exceeded"
  | .byteOrder =>
      "incorrect endian"
  | .kind number =>
      "invalid value: " ++ Nat.repr number.toNat ++ ", expected one of: 1, 2, 3, 4"
  | .flags bits =>
      "invalid value: integer `" ++ Nat.repr bits.toNat ++
        "`, expected valid bit representation"
  | .serial =>
      "invalid value: integer `0`, expected a nonzero u32"
  | .tooLong =>
      "excess data"
  | .field number =>
      "invalid value: " ++ Nat.repr number.toNat ++
        ", expected one of: 1, 2, 3, 4, 5, 6, 7, 8, 9"
  | .fieldType =>
      "incorrect type"
  | .path fault =>
      fault.message
  | .destination fault =>
      fault.message
  | .replySerial =>
      "out of range integral type conversion attempted"

/-- The number that bytes spell, the least significant one first. -/
def numberOfBytes : List UInt8 → Nat
  | [] =>
      0
  | byte :: rest =>
      byte.toNat + 256 * numberOfBytes rest

/-- So many bytes that spell a number, the least significant one first. -/
def bytesOfNumber : (count number : Nat) → List UInt8
  | 0, _ =>
      []
  | count + 1, number =>
      UInt8.ofNat (number % 256) :: bytesOfNumber count (number / 256)

/-- How many bytes a word takes. -/
def wordLength : Nat :=
  4

/-- How many bytes are missing from a position to the next multiple of a number. -/
def gapLength (alignment position : Nat) : Nat :=
  (alignment - position % alignment) % alignment

namespace ByteOrder

/-- The order that a mark announces: l for little endian, B for big endian. -/
def ofMark? (mark : UInt8) : Option ByteOrder :=
  if mark = 0x6C then
    some .littleEndian
  else if mark = 0x42 then
    some .bigEndian
  else
    none

/-- The bytes of a word in an order. -/
def wordBytes (order : ByteOrder) (number : Nat) : List UInt8 :=
  match order with
  | .littleEndian =>
      bytesOfNumber wordLength number
  | .bigEndian =>
      (bytesOfNumber wordLength number).reverse

/-- The number that the bytes of a word spell in an order. -/
def wordNumber (order : ByteOrder) (word : List UInt8) : Nat :=
  match order with
  | .littleEndian =>
      numberOfBytes word
  | .bigEndian =>
      numberOfBytes word.reverse

end ByteOrder

/-- What is wrong with a text as a signature on the wire. -/
def signatureFault? (found : String) : Option WireFault :=
  if '\x00' ∈ found.toList then
    some .interiorNull
  else
    match signatureTypes found with
    | .error fault =>
        some (.signature fault)
    | .ok _ =>
        none

end LoginGate
