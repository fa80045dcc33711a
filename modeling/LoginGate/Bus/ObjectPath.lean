namespace LoginGate

/-!
# Object paths on the bus

A path starts with a slash; its elements are made of ASCII letters, digits and
underscores and are parted by single slashes; only the root path ends with one.
The text of a fault shows a byte as the character of the same number.
-/

/-- Whether a byte is an ASCII letter or digit. -/
def isAlphanumericByte (byte : UInt8) : Bool :=
  (0x30 ≤ byte && byte ≤ 0x39) || (0x41 ≤ byte && byte ≤ 0x5A) || (0x61 ≤ byte && byte ≤ 0x7A)

/-- What is wrong with an object path. -/
inductive ObjectPathFault where
  | empty
  /-- The first byte is no slash. -/
  | start (byte : UInt8)
  | doubleSlash
  | trailingSlash
  /-- A byte that no path holds. -/
  | forbidden (byte : UInt8)
  deriving Repr, DecidableEq

/-- The slash, which parts the elements of a path. -/
def slashByte : UInt8 :=
  0x2F

namespace ObjectPathFault

/-- The character with a byte's number. -/
def shown (byte : UInt8) : String :=
  String.singleton (Char.ofNat byte.toNat)

/-- The text of a fault. -/
def message : ObjectPathFault → String
  | .empty =>
      "invalid length 0, expected > 0 character"
  | .start byte =>
      "invalid value: character `" ++ shown byte ++ "`, expected /"
  | .doubleSlash =>
      "invalid value: string \"//\", expected /"
  | .trailingSlash =>
      "invalid value: character `/`, expected an alphanumeric character or `_`"
  | .forbidden byte =>
      "invalid value: character `" ++ shown byte ++
        "`, expected an alphanumeric character, `_` or `/`"

end ObjectPathFault

/-- The first fault of the bytes behind a byte of a path. -/
def laterPathFault? : (previous : UInt8) → List UInt8 → Option ObjectPathFault
  | _, [] =>
      none
  | previous, byte :: rest =>
      if byte = slashByte ∧ previous = slashByte then
        some .doubleSlash
      else if byte = slashByte ∧ rest = [] then
        some .trailingSlash
      else if ¬ isAlphanumericByte byte ∧ byte ≠ slashByte ∧ byte ≠ 0x5F then
        some (.forbidden byte)
      else
        laterPathFault? byte rest

/-- The first fault of a path, if it has one. -/
def objectPathFault? (path : String) : Option ObjectPathFault :=
  match path.toUTF8.toList with
  | [] =>
      some .empty
  | first :: rest =>
      if first = slashByte then laterPathFault? first rest else some (.start first)

end LoginGate
