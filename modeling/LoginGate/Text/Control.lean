namespace LoginGate.Control

/-!
# Escaping of control characters

Text that ends up in a log is written so that it stays on one line: every
control character is replaced by a visible escape and all else is kept.
-/

/-- The control characters: U+0000 to U+001F and U+007F to U+009F. -/
def isControl (character : Char) : Bool :=
  character.toNat ≤ 0x1F || (0x7F ≤ character.toNat && character.toNat ≤ 0x9F)

/--
The visible form of a control character: a letter for the four common ones,
otherwise its number in braces, in hexadecimal with the fewest digits.
-/
def escapeControl (character : Char) : List Char :=
  if character = '\x00' then
    ['\\', '0']
  else if character = '\t' then
    ['\\', 't']
  else if character = '\n' then
    ['\\', 'n']
  else if character = '\r' then
    ['\\', 'r']
  else
    ['\\', 'u', '\x7b'] ++ Nat.toDigits 16 character.toNat ++ ['\x7d']

/-- One character as it is written: control characters escaped, others as they are. -/
def escapeChar (character : Char) : List Char :=
  if isControl character then escapeControl character else [character]

/-- A sequence of characters as it is written. -/
def escapeChars (characters : List Char) : List Char :=
  characters.flatMap escapeChar

/-- A text as it is written. -/
def escape (text : String) : String :=
  String.ofList (escapeChars text.toList)

/-- Escaping goes character by character. -/
@[simp] theorem escapeChars_append (first second : List Char) :
    escapeChars (first ++ second) = escapeChars first ++ escapeChars second := by
  simp [escapeChars]

end LoginGate.Control
