namespace LoginGate.Utf8

/-!
# UTF-8, read strictly and read leniently

A byte string is read from the front, one character at a time. `readFront`
takes either one well-formed character, or the longest run of bytes that could
have begun one (at least the first byte) and that is not completed. The strict
reader gives up at such a run, and can tell where it stands; the lenient reader
writes one U+FFFD for it and goes on behind it.
-/

/--
What the first byte of a character of several bytes announces.

`low` and `high` bound the next byte; they are what excludes overlong forms,
surrogates and values above U+10FFFF. The bytes after that one lie in
`80`..`BF`.
-/
structure Lead where
  /-- How many bytes follow. -/
  owed : Nat
  /-- The bits of the code point that the first byte carries. -/
  payload : Nat
  low : UInt8
  high : UInt8
  deriving Repr, DecidableEq

/-- Read the first byte of a character of two to four bytes. -/
def Lead.ofByte? (byte : UInt8) : Option Lead :=
  if 0xC2 ≤ byte ∧ byte ≤ 0xDF then
    some ⟨1, byte.toNat - 0xC0, 0x80, 0xBF⟩
  else if byte = 0xE0 then
    some ⟨2, 0x0, 0xA0, 0xBF⟩
  else if byte = 0xED then
    some ⟨2, 0xD, 0x80, 0x9F⟩
  else if 0xE1 ≤ byte ∧ byte ≤ 0xEF then
    some ⟨2, byte.toNat - 0xE0, 0x80, 0xBF⟩
  else if byte = 0xF0 then
    some ⟨3, 0x0, 0x90, 0xBF⟩
  else if byte = 0xF4 then
    some ⟨3, 0x4, 0x80, 0x8F⟩
  else if 0xF1 ≤ byte ∧ byte ≤ 0xF3 then
    some ⟨3, byte.toNat - 0xF0, 0x80, 0xBF⟩
  else
    none

/--
Read `owed` further bytes of a character whose code point so far is `code`.

The answer is the finished code point, or nothing when a byte is missing or
out of bounds, together with the bytes that were not taken.
-/
def readOwed : (owed code : Nat) → (low high : UInt8) → List UInt8 → Option Nat × List UInt8
  | 0, code, _, _, bytes =>
      (some code, bytes)
  | _ + 1, _, _, _, [] =>
      (none, [])
  | owed + 1, code, low, high, byte :: rest =>
      if low ≤ byte ∧ byte ≤ high then
        readOwed owed (code * 64 + (byte.toNat - 0x80)) 0x80 0xBF rest
      else
        (none, byte :: rest)

/-- Reading further bytes never puts bytes back. -/
theorem readOwed_length_le
    (owed code : Nat)
    (low high : UInt8)
    (bytes : List UInt8) :
    (readOwed owed code low high bytes).2.length ≤ bytes.length := by
  fun_induction readOwed owed code low high bytes with
  | case1 =>
      exact Nat.le_refl _
  | case2 =>
      exact Nat.le_refl _
  | case3 code low high owed byte rest inBounds inductionHypothesis =>
      exact Nat.le_succ_of_le inductionHypothesis
  | case4 =>
      exact Nat.le_refl _

/--
Read the character at the front of a byte string that is not empty.

The answer is that character, or nothing when the front is malformed, together
with the bytes behind what was read.
-/
def readFront (first : UInt8) (rest : List UInt8) : Option Char × List UInt8 :=
  if first < 0x80 then
    (some (Char.ofNat first.toNat), rest)
  else
    match Lead.ofByte? first with
    | none =>
        (none, rest)
    | some lead =>
        let (code, behind) := readOwed lead.owed lead.payload lead.low lead.high rest
        (code.map Char.ofNat, behind)

/-- Reading a character takes at least the first byte. -/
theorem readFront_length_le (first : UInt8) (rest : List UInt8) :
    (readFront first rest).2.length ≤ rest.length := by
  unfold readFront
  split
  · exact Nat.le_refl _
  · split
    · exact Nat.le_refl _
    · exact readOwed_length_le _ _ _ _ _

/-- The characters that a byte string encodes, when it is well-formed throughout. -/
def decodeChars? : List UInt8 → Option (List Char)
  | [] =>
      some []
  | first :: rest =>
      match (readFront first rest).1 with
      | none =>
          none
      | some character =>
          (decodeChars? (readFront first rest).2).map (character :: ·)
termination_by bytes => bytes.length
decreasing_by
  have shorter := readFront_length_le first rest
  simp only [List.length_cons]
  omega

/-- U+FFFD, which stands for bytes that encode nothing. -/
def replacement : Char :=
  Char.ofNat 0xFFFD

/-- The characters of a byte string, with one U+FFFD for each malformed run. -/
def decodeCharsLossy : List UInt8 → List Char
  | [] =>
      []
  | first :: rest =>
      (readFront first rest).1.getD replacement :: decodeCharsLossy (readFront first rest).2
termination_by bytes => bytes.length
decreasing_by
  have shorter := readFront_length_le first rest
  simp only [List.length_cons]
  omega

/-- Where a byte string stops being well-formed. -/
inductive Fault where
  /-- A run of so many bytes encodes nothing, behind so many that are well-formed. -/
  | malformed (length position : Nat)
  /-- The end comes within a character, behind so many bytes that are well-formed. -/
  | incomplete (position : Nat)
  deriving Repr, DecidableEq

/-- The text of a fault. -/
def Fault.message : Fault → String
  | .malformed length position =>
      "invalid utf-8 sequence of " ++ Nat.repr length ++ " bytes from index " ++
        Nat.repr position
  | .incomplete position =>
      "incomplete utf-8 byte sequence from index " ++ Nat.repr position

/-- The first fault of a byte string that stands behind so many well-formed bytes. -/
def faultFrom? : (position : Nat) → List UInt8 → Option Fault
  | _, [] =>
      none
  | position, first :: rest =>
      let taken := rest.length + 1 - (readFront first rest).2.length
      match (readFront first rest).1 with
      | some _ =>
          faultFrom? (position + taken) (readFront first rest).2
      | none =>
          if (readFront first rest).2 = [] ∧ (Lead.ofByte? first).isSome then
            some (.incomplete position)
          else
            some (.malformed taken position)
termination_by _ bytes => bytes.length
decreasing_by
  have shorter := readFront_length_le first rest
  simp only [List.length_cons]
  omega

/-- The text that a byte string encodes, when it is well-formed throughout. -/
def decode? (bytes : List UInt8) : Option String :=
  (decodeChars? bytes).map String.ofList

/-- The text of a byte string, with one U+FFFD for each malformed run. -/
def decodeLossy (bytes : List UInt8) : String :=
  String.ofList (decodeCharsLossy bytes)

/-- The text that a byte string encodes, or the first fault of the bytes. -/
def decode (bytes : List UInt8) : Except Fault String :=
  match faultFrom? 0 bytes with
  | none =>
      .ok (decodeLossy bytes)
  | some fault =>
      .error fault

end LoginGate.Utf8
