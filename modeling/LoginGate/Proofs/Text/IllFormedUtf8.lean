import LoginGate.Proofs.Text.LossyUtf8

namespace LoginGate.Utf8

/-!
# What the strict reader refuses

A byte string that is not the encoding of a text is refused as a whole. The usual ways
to fall short are told apart here: bytes that stand where none of their kind may stand,
characters that are broken off, and codes that are written although UTF-8 does not
write them, or not with so many bytes.
-/

/--
A code written with so many bytes behind the first one, whether or not UTF-8 writes it
so.
-/
def form (owed code : Nat) : List UInt8 :=
  UInt8.ofNat (code / 64 ^ owed + leadBase owed) :: continuations owed code

/-- A byte that may stand behind the first one of a character. -/
def IsContinuation (byte : UInt8) : Prop :=
  0x80 ≤ byte.toNat ∧ byte.toNat ≤ 0xBF

/-- Byte strings that are no text, whatever stands in front of them. -/
inductive IllFormed : List UInt8 → Prop where
  /-- A character of which only some bytes are there, at the end or before another one begins. -/
  | truncated {character : Char} {count : Nat} {behind : List UInt8} :
      0 < count →
      count < (String.utf8EncodeChar character).length →
      (∀ next rest, behind = next :: rest → ¬ IsContinuation next) →
      IllFormed ((String.utf8EncodeChar character).take count ++ behind)
  | strayContinuation {byte : UInt8} {behind : List UInt8} :
      IsContinuation byte →
      IllFormed (byte :: behind)
  /-- More bytes than the code needs. -/
  | overlong {owed code : Nat} {behind : List UInt8} :
      owed = 1 ∨ owed = 2 ∨ owed = 3 →
      code < leastCode owed →
      IllFormed (form owed code ++ behind)
  | surrogate {code : Nat} {behind : List UInt8} :
      0xD800 ≤ code →
      code ≤ 0xDFFF →
      IllFormed (form 2 code ++ behind)
  /-- More than U+10FFFF, in as many bytes as there may be. -/
  | tooLarge {code : Nat} {behind : List UInt8} :
      0x10FFFF < code →
      code < 0x200000 →
      IllFormed (form 3 code ++ behind)
  /-- A byte that would begin a form of more bytes. -/
  | unused {byte : UInt8} {behind : List UInt8} :
      0xF8 ≤ byte.toNat →
      IllFormed (byte :: behind)

theorem length_continuations (owed code : Nat) : (continuations owed code).length = owed := by
  induction owed with
  | zero =>
      rfl
  | succ owed inductionHypothesis =>
      rw [continuations, List.length_cons, inductionHypothesis]

theorem isContinuation_of_mem
    {owed code : Nat}
    {byte : UInt8}
    (isMember : byte ∈ continuations owed code) :
    IsContinuation byte := by
  induction owed with
  | zero =>
      cases isMember
  | succ owed inductionHypothesis =>
      rcases List.mem_cons.mp isMember with rfl | isLater
      · rw [IsContinuation, toNat_ofNat_of_lt (by omega)]
        omega
      · exact inductionHypothesis isLater

/-- The first byte of a character is ASCII, or announces one to three others. -/
theorem first_of_encodes
    {first : UInt8}
    {rest behind : List UInt8}
    {character : Char}
    (shape : first :: rest = String.utf8EncodeChar character ++ behind) :
    first.toNat < 0x80 ∨ (0xC2 ≤ first.toNat ∧ first.toNat ≤ 0xF4) := by
  rcases exists_range character with isAscii | ⟨owed, several, lowest, highest⟩
  · rw [encodeChar_of_ascii isAscii] at shape
    obtain ⟨rfl, -⟩ := List.cons.inj shape
    left
    rw [toNat_ofNat_of_lt (by omega)]
    exact isAscii
  · rw [encodeChar_of_range several lowest highest] at shape
    obtain ⟨rfl, -⟩ := List.cons.inj shape
    obtain ⟨-, aboveFirst, belowLast⟩ := isLead_of_range several lowest highest
    right
    rw [toNat_ofNat_of_lt (by omega)]
    exact ⟨aboveFirst, belowLast⟩

/-- Behind a first byte of several, a character has as many continuations as are announced. -/
theorem continuations_of_encodes
    {owed payload : Nat}
    {rest behind : List UInt8}
    {character : Char}
    (isLead : IsLead owed payload)
    (shape :
      UInt8.ofNat (payload + leadBase owed) :: rest =
        String.utf8EncodeChar character ++ behind) :
    rest = continuations owed character.toNat ++ behind ∧
      character.toNat / 64 ^ owed = payload ∧
      leastCode owed ≤ character.toNat ∧
      character.toNat < leastCode (owed + 1) := by
  have isByte : 0xC0 ≤ payload + leadBase owed ∧ payload + leadBase owed < 256 := by
    rcases isLead with ⟨rfl, _⟩ | ⟨rfl, _⟩ | ⟨rfl, _⟩ <;> simp only [leadBase] <;> omega
  have number := toNat_ofNat_of_lt isByte.2
  rcases exists_range character with isAscii | ⟨others, several, lowest, highest⟩
  · rw [encodeChar_of_ascii isAscii] at shape
    have sameByte := congrArg UInt8.toNat (List.cons.inj shape).1
    rw [number, toNat_ofNat_of_lt (by omega)] at sameByte
    omega
  · rw [encodeChar_of_range several lowest highest] at shape
    obtain ⟨sameFirst, sameRest⟩ := List.cons.inj shape
    obtain ⟨otherIsLead, _, belowLast⟩ := isLead_of_range several lowest highest
    have sameByte := congrArg UInt8.toNat sameFirst
    rw [number, toNat_ofNat_of_lt (by omega)] at sameByte
    obtain ⟨rfl, rfl⟩ := isLead.unique otherIsLead sameByte
    exact ⟨sameRest, rfl, lowest, highest⟩

/-- The continuations of a code point and its first digits fix the code point. -/
theorem eq_of_continuations_eq
    {owed code other : Nat}
    (sameBytes : continuations owed code = continuations owed other)
    (sameFront : code / 64 ^ owed = other / 64 ^ owed) :
    code = other := by
  induction owed with
  | zero =>
      simpa using sameFront
  | succ owed inductionHypothesis =>
      obtain ⟨sameByte, sameRest⟩ := List.cons.inj sameBytes
      have sameDigit := congrArg UInt8.toNat sameByte
      rw [toNat_ofNat_of_lt (by omega), toNat_ofNat_of_lt (by omega)] at sameDigit
      rw [Nat.pow_succ, ← Nat.div_div_eq_div_mul, ← Nat.div_div_eq_div_mul] at sameFront
      exact inductionHypothesis sameRest (by omega)

/-- A character that is written in a form is the code of that form, and needs its bytes. -/
theorem code_of_form_encodes
    {owed code : Nat}
    {behind after : List UInt8}
    {character : Char}
    (isLead : IsLead owed (code / 64 ^ owed))
    (shape : form owed code ++ behind = String.utf8EncodeChar character ++ after) :
    code = character.toNat ∧ leastCode owed ≤ code := by
  obtain ⟨sameRest, sameFront, lowest, -⟩ := continuations_of_encodes isLead shape
  have sameLength :
      (continuations owed code).length = (continuations owed character.toNat).length := by
    rw [length_continuations, length_continuations]
  have sameBytes := (List.append_inj sameRest sameLength).1
  obtain rfl := eq_of_continuations_eq sameBytes sameFront.symm
  exact ⟨rfl, lowest⟩

/-- A character that is broken off is not continued by what stands behind it. -/
theorem not_encodes_of_truncated
    {character other : Char}
    {count : Nat}
    {behind after : List UInt8}
    (begun : 0 < count)
    (isShort : count < (String.utf8EncodeChar character).length)
    (notContinued : ∀ next rest, behind = next :: rest → ¬ IsContinuation next) :
    (String.utf8EncodeChar character).take count ++ behind ≠
      String.utf8EncodeChar other ++ after := by
  intro shape
  obtain ⟨further, rfl⟩ := Nat.exists_eq_add_one_of_ne_zero begun.ne'
  rcases exists_range character with isAscii | ⟨owed, several, lowest, highest⟩
  · rw [encodeChar_of_ascii isAscii] at isShort
    simp at isShort
  · rw [encodeChar_of_range several lowest highest] at isShort shape
    rw [List.length_cons, length_continuations] at isShort
    rw [List.take_succ_cons, List.cons_append] at shape
    obtain ⟨sameRest, -⟩ :=
      continuations_of_encodes (isLead_of_range several lowest highest).1 shape
    have owing : ((continuations owed other.toNat).drop further).length = owed - further := by
      rw [List.length_drop, length_continuations]
    have taken : ((continuations owed character.toNat).take further).length = further := by
      rw [List.length_take, length_continuations]
      omega
    have isBehind : behind = (continuations owed other.toNat).drop further ++ after := by
      have dropped := congrArg (List.drop further) sameRest
      rwa [List.drop_left' taken,
        List.drop_append_of_le_length (by rw [length_continuations]; omega)] at dropped
    cases missing : (continuations owed other.toNat).drop further with
    | nil =>
        rw [missing, List.length_nil] at owing
        omega
    | cons next more =>
        have isMember : next ∈ (continuations owed other.toNat).drop further := by
          rw [missing]
          exact List.mem_cons_self
        rw [missing, List.cons_append] at isBehind
        exact notContinued next _ isBehind (isContinuation_of_mem (List.mem_of_mem_drop isMember))

/-- No character stands at the front of what is ill-formed. -/
theorem IllFormed.not_encodes
    {bytes after : List UInt8}
    {character : Char}
    (illFormed : IllFormed bytes) :
    bytes ≠ String.utf8EncodeChar character ++ after := by
  have valid : character.toNat.isValidChar := character.valid
  unfold Nat.isValidChar at valid
  intro shape
  cases illFormed with
  | truncated begun isShort notContinued =>
      exact not_encodes_of_truncated begun isShort notContinued shape
  | strayContinuation isContinuation =>
      have possible := first_of_encodes shape
      unfold IsContinuation at isContinuation
      omega
  | unused isBeyond =>
      have possible := first_of_encodes shape
      omega
  | @overlong owed code behind several isLess =>
      have isLead : IsLead owed (code / 64 ^ owed) := by
        rcases several with rfl | rfl | rfl <;>
          simp only [leastCode] at isLess <;>
          simp [IsLead] <;>
          omega
      have needed := (code_of_form_encodes isLead shape).2
      omega
  | @surrogate code behind lowest highest =>
      have isLead : IsLead 2 (code / 64 ^ 2) := by
        simp [IsLead]
        omega
      have same := (code_of_form_encodes isLead shape).1
      omega
  | @tooLarge code behind lowest highest =>
      have isLead : IsLead 3 (code / 64 ^ 3) := by
        simp [IsLead]
        omega
      have same := (code_of_form_encodes isLead shape).1
      omega

theorem IllFormed.ne_nil {bytes : List UInt8} (illFormed : IllFormed bytes) : bytes ≠ [] := by
  cases illFormed with
  | truncated begun isShort _ =>
      have taken := List.length_take_of_le isShort.le
      intro isEmpty
      rw [(List.append_eq_nil_iff.mp isEmpty).1, List.length_nil] at taken
      omega
  | strayContinuation _ | overlong _ _ | surrogate _ _ | tooLarge _ _ | unused _ =>
      exact List.cons_ne_nil _ _

/-- No text but the empty one stands at the front of what is ill-formed. -/
theorem IllFormed.hasNoFront {bytes : List UInt8} (illFormed : IllFormed bytes) :
    HasNoFront bytes := by
  intro text behind shape
  rw [encode_eq_flatMap] at shape
  cases characters : text.toList with
  | nil =>
      exact String.toList_eq_nil_iff.mp characters
  | cons character others =>
      rw [characters, List.flatMap_cons, List.append_assoc] at shape
      exact (illFormed.not_encodes shape).elim

/-- Where a text is followed by what is no text, the whole is none. -/
theorem decode?_encode_append_of_hasNoFront
    (front : String)
    {bytes : List UInt8}
    (notEmpty : bytes ≠ [])
    (noFront : HasNoFront bytes) :
    decode? (encode front ++ bytes) = none := by
  rw [Option.eq_none_iff_forall_ne_some]
  intro text decoded
  have shape : encode front ++ bytes = encode text :=
    (decode?_eq_some_iff _ _).mp decoded
  have split : front ++ decodeLossy bytes = text := by
    rw [← decodeLossy_encode_append, shape, decodeLossy_encode]
  rw [← split, encode_append, List.append_cancel_left_eq] at shape
  have nothing := noFront (decodeLossy bytes) [] (by rw [List.append_nil]; exact shape)
  exact notEmpty ((decodeLossy_eq_empty_iff bytes).mp nothing)

end LoginGate.Utf8
