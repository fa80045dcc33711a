namespace LoginGate

/-!
# Names on the bus

A peer on the bus has a unique name, which starts with a colon, and may have
well-known names. Interfaces and errors are named like well-known names, but
without hyphens.
-/

/-- What is wrong with a name on the bus. -/
inductive BusNameFault where
  /-- The name is empty, where so many characters are the least. -/
  | empty (least : Nat)
  | tooShort (name : String)
  | tooLong (name : String)
  /-- A unique name that does not start with a colon. -/
  | noColon
  | doubleDot
  /-- An element of the name starts with a digit. -/
  | leadingDigit
  | forbidden (character : Char)
  | noDot
  deriving Repr, DecidableEq

/-- The fewest bytes of a name that is not empty. -/
def leastNameLength : Nat :=
  3

/-- The most bytes of a name. -/
def mostNameLength : Nat :=
  255

namespace BusNameFault

/-- The text of a fault. -/
def message : BusNameFault → String
  | .empty least =>
      "must contain at least " ++ Nat.repr least ++ " characters"
  | .tooShort name =>
      "`" ++ name ++ "` is " ++ Nat.repr name.utf8ByteSize ++
        " characters long, which is smaller than minimum allowed (" ++
        Nat.repr leastNameLength ++ ")"
  | .tooLong name =>
      "`" ++ name ++ "` is " ++ Nat.repr name.utf8ByteSize ++
        " characters long, which is longer than maximum allowed (" ++
        Nat.repr mostNameLength ++ ")"
  | .noColon =>
      "must start with a `:`"
  | .doubleDot =>
      "must not contain a double `.`"
  | .leadingDigit =>
      "each element must not start with a digit"
  | .forbidden character =>
      "`" ++ String.singleton character ++ "` character not allowed"
  | .noDot =>
      "must contain at least 1 `.`"

end BusNameFault

/-- Whether a character is an ASCII digit. -/
def isAsciiDigit (character : Char) : Bool :=
  '0' ≤ character && character ≤ '9'

/-- Whether a character is an ASCII letter or digit. -/
def isAsciiAlphanumeric (character : Char) : Bool :=
  isAsciiDigit character || ('a' ≤ character && character ≤ 'z') ||
    ('A' ≤ character && character ≤ 'Z')

/-- Which characters and which elements a kind of name may have. -/
structure NameRules where
  hyphens : Bool
  /-- Whether an element may start with a digit. -/
  leadingDigits : Bool
  deriving Repr, DecidableEq

/--
The first fault of the characters behind `previous`, where `dotted` tells
whether there was a dot already.
-/
def elementsFault? (rules : NameRules) :
    (previous : Char) → (dotted : Bool) → List Char → Option BusNameFault
  | _, dotted, [] =>
      if dotted then none else some .noDot
  | previous, dotted, character :: rest =>
      if character = '.' then
        if previous = '.' then some .doubleDot else elementsFault? rules character true rest
      else if isAsciiDigit character ∧ previous = '.' ∧ ¬ rules.leadingDigits then
        some .leadingDigit
      else if isAsciiAlphanumeric character ∨ character = '_' ∨
          (character = '-' ∧ rules.hyphens) then
        elementsFault? rules character dotted rest
      else
        some (.forbidden character)

/-- The unique name of the bus itself, the only one without a colon. -/
def busOwnName : String :=
  "org.freedesktop.DBus"

/-- The first fault of a name as a unique name, if it has one. -/
def uniqueNameFault? (name : String) : Option BusNameFault :=
  match name.toList with
  | [] =>
      some (.empty 4)
  | first :: rest =>
      if mostNameLength < name.utf8ByteSize then
        some (.tooLong name)
      else if name = busOwnName then
        none
      else if first = ':' then
        elementsFault? ⟨true, true⟩ first false rest
      else
        some .noColon

/-- The first fault of a name as a well-known name, if it has one. -/
def wellKnownNameFault? (name : String) : Option BusNameFault :=
  if name = "" then
    some (.empty leastNameLength)
  else if name.utf8ByteSize < leastNameLength then
    some (.tooShort name)
  else if mostNameLength < name.utf8ByteSize then
    some (.tooLong name)
  else
    elementsFault? ⟨true, false⟩ '.' false name.toList

/-- Why a name is neither a unique nor a well-known name. -/
structure PeerNameFault where
  unique : BusNameFault
  wellKnown : BusNameFault
  deriving Repr, DecidableEq

/-- The text of a fault. -/
def PeerNameFault.message (fault : PeerNameFault) : String :=
  "Neither a valid unique (" ++ fault.unique.message ++ ") nor a well-known (" ++
    fault.wellKnown.message ++ ") bus name"

/-- What is wrong with the name of a peer, which is a unique or a well-known name. -/
def peerNameFault? (name : String) : Option PeerNameFault :=
  match uniqueNameFault? name, wellKnownNameFault? name with
  | some unique, some wellKnown =>
      some ⟨unique, wellKnown⟩
  | _, _ =>
      none

/-- The first fault of a name as the name of an interface, if it has one. -/
def interfaceNameFault? (name : String) : Option BusNameFault :=
  if name.utf8ByteSize < leastNameLength then
    some (.tooShort name)
  else if mostNameLength < name.utf8ByteSize then
    some (.tooLong name)
  else
    elementsFault? ⟨false, false⟩ '.' false name.toList

end LoginGate
