import LoginGate.Text.Control

namespace LoginGate.Hex

/-!
# Bytes in hexadecimal

Two digits stand for a byte, its high half first. Digits are read in either
case and written in lower case, and what is written reads back.
-/

/-- The value of a hexadecimal digit. -/
def digitValue? (digit : UInt8) : Option UInt8 :=
  if 0x30 ≤ digit ∧ digit ≤ 0x39 then
    some (digit - 0x30)
  else if 0x41 ≤ digit ∧ digit ≤ 0x46 then
    some (digit - 0x37)
  else if 0x61 ≤ digit ∧ digit ≤ 0x66 then
    some (digit - 0x57)
  else
    none

/-- The digit of a value below sixteen. -/
def digitOf (value : UInt8) : UInt8 :=
  if value < 10 then value + 0x30 else value + 0x57

/-- Why digits stand for no bytes. -/
inductive Fault where
  /-- The last digit has no partner. -/
  | oddLength
  /-- A byte that is no digit, behind so many others. -/
  | noDigit (byte : UInt8) (position : Nat)
  deriving Repr, DecidableEq

namespace Fault

/--
A byte as the character of the same number, between quotes. Control
characters, U+00A0 and U+00AD are shown by their number, and a quote or a
backslash has a backslash in front.
-/
def shown (byte : UInt8) : String :=
  let character := Char.ofNat byte.toNat
  let visible :=
    if byte = 0x27 ∨ byte = 0x5C then
      ['\\', character]
    else if Control.isControl character ∨ byte = 0xA0 ∨ byte = 0xAD then
      Control.escapeControl character
    else
      [character]
  "'" ++ String.ofList visible ++ "'"

/-- The text of a fault. -/
def message : Fault → String
  | .oddLength =>
      "Odd number of digits"
  | .noDigit byte position =>
      "Invalid character " ++ shown byte ++ " at position " ++ Nat.repr position

end Fault

/-- The bytes that digits behind so many others stand for. -/
def decodeFrom : (position : Nat) → List UInt8 → Except Fault (List UInt8)
  | _, [] =>
      .ok []
  | _, [_] =>
      .error .oddLength
  | position, high :: low :: rest =>
      match digitValue? high, digitValue? low with
      | none, _ =>
          .error (.noDigit high position)
      | some _, none =>
          .error (.noDigit low (position + 1))
      | some highValue, some lowValue =>
          (decodeFrom (position + 2) rest).map ((16 * highValue + lowValue) :: ·)

/-- The bytes that digits stand for; their number is looked at before the digits. -/
def decode (digits : List UInt8) : Except Fault (List UInt8) :=
  if digits.length % 2 = 1 then .error .oddLength else decodeFrom 0 digits

/-- The digits of bytes. -/
def encode : List UInt8 → List UInt8
  | [] =>
      []
  | byte :: rest =>
      digitOf (byte / 16) :: digitOf (byte % 16) :: encode rest

/-- The digits of bytes as a text. -/
def text (bytes : List UInt8) : String :=
  String.ofList ((encode bytes).map fun digit => Char.ofNat digit.toNat)

end LoginGate.Hex
