import LoginGate.Text.Utf8
import Mathlib

namespace LoginGate.Utf8

/-!
# The strict reader reads UTF-8

The strict reader accepts exactly the encodings of texts, and gives back the
text that was encoded. The bytes behind the first byte of a character carry six
bits each, so what `readOwed` does is arithmetic to the base of 64: it appends
digits to the number that the first byte begins.
-/

/-- The bytes behind the first one that carry the last `owed` digits of a code point. -/
def continuations : (owed code : Nat) → List UInt8
  | 0, _ =>
      []
  | owed + 1, code =>
      UInt8.ofNat (code / 64 ^ owed % 64 + 128) :: continuations owed code

/-- The number of a byte that is in bounds. -/
theorem toNat_ofNat_of_lt {number : Nat} (inBounds : number < 256) :
    (UInt8.ofNat number).toNat = number := by
  simp [Nat.mod_eq_of_lt inBounds]

/--
Reading further bytes succeeds exactly on the continuations of a code point
that begins with what was read before, if the next byte is in bounds.
-/
theorem readOwed_eq_some_iff
    {owed code : Nat}
    {low high : UInt8}
    {bytes behind : List UInt8}
    {value : Nat}
    (lowest : 0x80 ≤ low.toNat)
    (highest : high.toNat ≤ 0xBF) :
    readOwed owed code low high bytes = (some value, behind) ↔
      bytes = continuations owed value ++ behind ∧
        value / 64 ^ owed = code ∧
        ∀ further, owed = further + 1 →
          low.toNat ≤ value / 64 ^ further % 64 + 128 ∧
            value / 64 ^ further % 64 + 128 ≤ high.toNat := by
  induction owed generalizing code low high bytes with
  | zero =>
      simp [readOwed, continuations, eq_comm, and_comm]
  | succ owed inductionHypothesis =>
      have digit (value : Nat) :
          (UInt8.ofNat (value / 64 ^ owed % 64 + 128)).toNat = value / 64 ^ owed % 64 + 128 :=
        toNat_ofNat_of_lt (by omega)
      have digits (value : Nat) :
          value / 64 ^ (owed + 1) = value / 64 ^ owed / 64 := by
        rw [Nat.pow_succ, Nat.div_div_eq_div_mul]
      cases bytes with
      | nil =>
          simp [readOwed, continuations]
      | cons byte rest =>
          simp only [readOwed, continuations, List.cons_append, List.cons.injEq,
            Nat.add_right_cancel_iff, forall_eq', digits, UInt8.le_iff_toNat_le]
          split
          · rename_i inBounds
            rw [inductionHypothesis (by decide) (by decide)]
            constructor
            · rintro ⟨restShape, codeShape, _⟩
              have byteShape : byte.toNat = value / 64 ^ owed % 64 + 128 := by
                omega
              refine ⟨⟨?_, restShape⟩, ?_, ?_⟩
              · rw [← UInt8.toNat_inj, digit, byteShape]
              · omega
              · omega
            · rintro ⟨⟨rfl, restShape⟩, codeShape, _⟩
              refine ⟨restShape, ?_, ?_⟩
              · rw [digit]
                omega
              · intro further _
                exact ⟨Nat.le_add_left _ _,
                  Nat.add_le_add_right (Nat.le_pred_of_lt (Nat.mod_lt _ (by decide))) 128⟩
          · rename_i outOfBounds
            constructor
            · intro impossible
              simp at impossible
            · rintro ⟨⟨rfl, _⟩, _, lower, upper⟩
              rw [digit] at outOfBounds
              exact (outOfBounds ⟨lower, upper⟩).elim

/-- What is added to the first digits of a code point to make the first of its bytes. -/
def leadBase : (owed : Nat) → Nat
  | 1 =>
      0xC0
  | 2 =>
      0xE0
  | _ =>
      0xF0

/-- The least code point with so many bytes behind the first one. -/
def leastCode : (owed : Nat) → Nat
  | 0 =>
      0
  | 1 =>
      0x80
  | 2 =>
      0x800
  | 3 =>
      0x10000
  | _ =>
      0x110000

/-- So many bytes follow a first byte, which carries these digits. -/
def IsLead (owed payload : Nat) : Prop :=
  owed = 1 ∧ payload < 0x20 ∨ owed = 2 ∧ payload < 0x10 ∨ owed = 3 ∧ payload < 8

/-- One, two or three bytes follow a first byte. -/
theorem IsLead.owed {owed payload : Nat} (isLead : IsLead owed payload) :
    owed = 1 ∨ owed = 2 ∨ owed = 3 :=
  isLead.imp And.left (Or.imp And.left And.left)

/-- The first byte tells how many bytes follow and which digits it carries. -/
theorem IsLead.unique
    {owed payload otherOwed otherPayload : Nat}
    (isLead : IsLead owed payload)
    (otherIsLead : IsLead otherOwed otherPayload)
    (sameByte : payload + leadBase owed = otherPayload + leadBase otherOwed) :
    owed = otherOwed ∧ payload = otherPayload := by
  rcases isLead with ⟨rfl, _⟩ | ⟨rfl, _⟩ | ⟨rfl, _⟩ <;>
    rcases otherIsLead with ⟨rfl, _⟩ | ⟨rfl, _⟩ | ⟨rfl, _⟩ <;>
    simp only [leadBase] at sameByte <;>
    omega

/--
What a first byte of several announces. The bounds of the next byte leave exactly
the code points that are no surrogates and need as many bytes as are announced.
-/
structure Lead.Announces (lead : Lead) (byte : UInt8) : Prop where
  isLead : IsLead lead.owed lead.payload
  byte : byte.toNat = lead.payload + leadBase lead.owed
  low : 0x80 ≤ lead.low.toNat
  high : lead.high.toNat ≤ 0xBF
  inBounds :
    ∀ value,
      value / 64 ^ lead.owed = lead.payload →
      ((∀ further, lead.owed = further + 1 →
          lead.low.toNat ≤ value / 64 ^ further % 64 + 128 ∧
            value / 64 ^ further % 64 + 128 ≤ lead.high.toNat) ↔
        value.isValidChar ∧ leastCode lead.owed ≤ value ∧ value < leastCode (lead.owed + 1))

/-- Every first byte of several keeps what it announces. -/
theorem Lead.announces_of_ofByte? {byte : UInt8} {lead : Lead}
    (found : ofByte? byte = some lead) :
    lead.Announces byte := by
  unfold ofByte? at found
  simp only [UInt8.le_iff_toNat_le, ← UInt8.toNat_inj, UInt8.reduceToNat] at found
  -- one goal for each row of the table
  iterate 7
    split at found
    rotate_left
  · simp at found
  all_goals
    obtain rfl := Option.some.inj found
    refine ⟨by simp [IsLead]; try omega, by simp [leadBase]; omega, by simp, by simp, ?_⟩
    intro value front
    simp [leastCode, Nat.isValidChar] at front ⊢
    omega

/-- Every byte from `C2` to `F4` announces something. -/
theorem Lead.exists_ofByte? {byte : UInt8}
    (lowest : 0xC2 ≤ byte.toNat)
    (highest : byte.toNat ≤ 0xF4) :
    ∃ lead, ofByte? byte = some lead := by
  unfold ofByte?
  simp only [UInt8.le_iff_toNat_le, ← UInt8.toNat_inj, UInt8.reduceToNat]
  -- one row of the table after the other, and behind the last one no byte is left
  iterate 7
    split
    · exact ⟨_, rfl⟩
  omega

/-- The number of a character that is made from a valid number. -/
theorem toNat_ofNat_of_valid {number : Nat} (valid : number.isValidChar) :
    (Char.ofNat number).toNat = number := by
  rw [Char.ofNat, dif_pos valid]
  rfl

/-- A code point below 128 is encoded by one byte. -/
theorem encodeChar_of_ascii {character : Char} (isAscii : character.toNat < 0x80) :
    String.utf8EncodeChar character = [UInt8.ofNat character.toNat] := by
  have oneByte : character.toNat ≤ 0x7F := by
    omega
  simp [String.utf8EncodeChar, oneByte]

/-- Any other code point is encoded by a first byte and continuations. -/
theorem encodeChar_of_range
    {character : Char}
    {owed : Nat}
    (several : owed = 1 ∨ owed = 2 ∨ owed = 3)
    (lowest : leastCode owed ≤ character.toNat)
    (highest : character.toNat < leastCode (owed + 1)) :
    String.utf8EncodeChar character =
      UInt8.ofNat (character.toNat / 64 ^ owed + leadBase owed) ::
        continuations owed character.toNat := by
  rcases several with rfl | rfl | rfl
  · simp only [leastCode] at lowest highest
    have front : character.toNat / 64 % 32 = character.toNat / 64 :=
      Nat.mod_eq_of_lt (by omega)
    have above : ¬ character.toNat ≤ 0x7F := by
      omega
    have below : character.toNat ≤ 0x7FF := by
      omega
    simp [String.utf8EncodeChar, continuations, leadBase, above, below, front]
  · simp only [leastCode] at lowest highest
    have front : character.toNat / 4096 % 16 = character.toNat / 4096 :=
      Nat.mod_eq_of_lt (by omega)
    have above : ¬ character.toNat ≤ 0x7F ∧ ¬ character.toNat ≤ 0x7FF := by
      omega
    have below : character.toNat ≤ 0xFFFF := by
      omega
    simp [String.utf8EncodeChar, continuations, leadBase, above, below, front]
  · simp only [leastCode] at lowest highest
    have front : character.toNat / 262144 % 8 = character.toNat / 262144 :=
      Nat.mod_eq_of_lt (by omega)
    have above :
        ¬ character.toNat ≤ 0x7F ∧ ¬ character.toNat ≤ 0x7FF ∧ ¬ character.toNat ≤ 0xFFFF := by
      omega
    simp [String.utf8EncodeChar, continuations, leadBase, above, front]

/-- A code point has one byte, or one, two or three bytes behind the first. -/
theorem exists_range (character : Char) :
    character.toNat < 0x80 ∨
      ∃ owed,
        (owed = 1 ∨ owed = 2 ∨ owed = 3) ∧
          leastCode owed ≤ character.toNat ∧
          character.toNat < leastCode (owed + 1) := by
  have valid : character.toNat.isValidChar := character.valid
  unfold Nat.isValidChar at valid
  by_cases oneByte : character.toNat < 0x80
  · exact .inl oneByte
  right
  by_cases twoBytes : character.toNat < 0x800
  · exact ⟨1, by simp, by simp only [leastCode]; omega, twoBytes⟩
  by_cases threeBytes : character.toNat < 0x10000
  · exact ⟨2, by simp, by simp only [leastCode]; omega, threeBytes⟩
  · exact ⟨3, by simp, by simp only [leastCode]; omega, by simp only [leastCode]; omega⟩

/-- The first digits of a code point in range make a first byte from `C2` to `F4`. -/
theorem isLead_of_range
    {owed code : Nat}
    (several : owed = 1 ∨ owed = 2 ∨ owed = 3)
    (lowest : leastCode owed ≤ code)
    (highest : code < leastCode (owed + 1)) :
    IsLead owed (code / 64 ^ owed) ∧
      0xC2 ≤ code / 64 ^ owed + leadBase owed ∧
      code / 64 ^ owed + leadBase owed ≤ 0xF4 := by
  rcases several with rfl | rfl | rfl <;>
    simp [leastCode, leadBase, IsLead] at lowest highest ⊢ <;>
    omega

/-- Behind a first byte of several the further bytes are read. -/
theorem readFront_of_lead
    {first : UInt8}
    {lead : Lead}
    (rest : List UInt8)
    (found : Lead.ofByte? first = some lead) :
    readFront first rest =
      ((readOwed lead.owed lead.payload lead.low lead.high rest).1.map Char.ofNat,
        (readOwed lead.owed lead.payload lead.low lead.high rest).2) := by
  have announced := Lead.announces_of_ofByte? found
  have notAscii : ¬ first < 0x80 := by
    rw [UInt8.lt_iff_toNat_lt, announced.byte]
    rcases announced.isLead.owed with owed | owed | owed <;> simp [owed, leadBase]
  simp only [readFront, notAscii, if_false, found]

theorem encodes_of_readFront
    {first : UInt8}
    {rest behind : List UInt8}
    {character : Char}
    (read : readFront first rest = (some character, behind)) :
    first :: rest = String.utf8EncodeChar character ++ behind := by
  by_cases isAscii : first < 0x80
  · simp only [readFront, isAscii, if_true, Prod.mk.injEq, Option.some.injEq] at read
    obtain ⟨rfl, rfl⟩ := read
    have small : first.toNat < 0x80 := by
      simpa [UInt8.lt_iff_toNat_lt] using isAscii
    have number : (Char.ofNat first.toNat).toNat = first.toNat :=
      toNat_ofNat_of_valid (.inl (by omega))
    rw [encodeChar_of_ascii (by rw [number]; exact small), number]
    simp
  · cases found : Lead.ofByte? first with
    | none =>
        simp [readFront, isAscii, found] at read
    | some lead =>
        have announced := Lead.announces_of_ofByte? found
        rw [readFront_of_lead rest found, Prod.mk.injEq, Option.map_eq_some_iff] at read
        obtain ⟨⟨value, valueRead, rfl⟩, behindRead⟩ := read
        obtain ⟨rfl, front, inBounds⟩ :=
          (readOwed_eq_some_iff announced.low announced.high).mp
            (Prod.ext valueRead behindRead)
        obtain ⟨valid, lowest, highest⟩ := (announced.inBounds value front).mp inBounds
        have number := toNat_ofNat_of_valid valid
        rw [encodeChar_of_range announced.isLead.owed (by rw [number]; exact lowest)
          (by rw [number]; exact highest), number, front, ← announced.byte]
        simp

theorem readFront_of_encodes
    {first : UInt8}
    {rest behind : List UInt8}
    {character : Char}
    (shape : first :: rest = String.utf8EncodeChar character ++ behind) :
    readFront first rest = (some character, behind) := by
  rcases exists_range character with isAscii | ⟨owed, several, lowest, highest⟩
  · rw [encodeChar_of_ascii isAscii] at shape
    obtain ⟨rfl, rfl⟩ := List.cons.inj shape
    have number : (UInt8.ofNat character.toNat).toNat = character.toNat :=
      toNat_ofNat_of_lt (by omega)
    have small : UInt8.ofNat character.toNat < 0x80 := by
      rw [UInt8.lt_iff_toNat_lt, number]
      exact isAscii
    simp [readFront, small, number]
  · rw [encodeChar_of_range several lowest highest] at shape
    obtain ⟨rfl, rfl⟩ := List.cons.inj shape
    have valid : character.toNat.isValidChar := character.valid
    obtain ⟨isLead, aboveFirst, belowLast⟩ :=
      isLead_of_range several lowest highest
    have number := toNat_ofNat_of_lt (Nat.lt_of_le_of_lt belowLast (by decide))
    obtain ⟨lead, found⟩ :=
      Lead.exists_ofByte? (by rw [number]; exact aboveFirst) (by rw [number]; exact belowLast)
    have announced := Lead.announces_of_ofByte? found
    obtain ⟨rfl, front⟩ :=
      isLead.unique announced.isLead (number.symm.trans announced.byte)
    have read :
        readOwed lead.owed lead.payload lead.low lead.high
            (continuations lead.owed character.toNat ++ behind) =
          (some character.toNat, behind) :=
      (readOwed_eq_some_iff announced.low announced.high).mpr
        ⟨rfl, front, (announced.inBounds _ front).mpr ⟨valid, lowest, highest⟩⟩
    change
      readFront _ (continuations lead.owed character.toNat ++ behind) =
        (some character, behind)
    rw [readFront_of_lead _ found, read]
    simp

/-- The front of a byte string is read as a character exactly when it encodes it. -/
theorem readFront_eq_some_iff
    {first : UInt8}
    {rest behind : List UInt8}
    {character : Char} :
    readFront first rest = (some character, behind) ↔
      first :: rest = String.utf8EncodeChar character ++ behind :=
  ⟨encodes_of_readFront, readFront_of_encodes⟩

/-- The front of a byte string that encodes characters is the first of them. -/
theorem decodeChars?_eq_some_iff (bytes : List UInt8) (characters : List Char) :
    decodeChars? bytes = some characters ↔
      bytes = characters.flatMap String.utf8EncodeChar := by
  fun_induction decodeChars? bytes generalizing characters with
  | case1 =>
      cases characters with
      | nil =>
          simp
      | cons character others =>
          simp [String.utf8EncodeChar_ne_nil]
  | case2 first rest front =>
      simp only [reduceCtorEq, false_iff]
      intro shape
      cases characters with
      | nil =>
          simp at shape
      | cons character others =>
          rw [List.flatMap_cons] at shape
          rw [readFront_eq_some_iff.mpr shape] at front
          simp at front
  | case3 first rest character front inductionHypothesis =>
      have read := readFront_eq_some_iff.mp (Prod.ext front rfl)
      cases characters with
      | nil =>
          simp
      | cons other others =>
          rw [Option.map_eq_some_iff, List.flatMap_cons]
          constructor
          · rintro ⟨_, decoded, shape⟩
            obtain ⟨rfl, rfl⟩ := List.cons.inj shape
            rw [read, List.append_right_inj]
            exact (inductionHypothesis _).mp decoded
          · intro shape
            have same := readFront_eq_some_iff.mpr shape
            obtain rfl := Option.some.inj (front.symm.trans (congrArg Prod.fst same))
            exact ⟨others, (inductionHypothesis _).mpr (congrArg Prod.snd same), rfl⟩

/-- The bytes of a text are those of its characters. -/
theorem toUTF8_eq_flatMap (text : String) :
    text.toUTF8.data.toList = text.toList.flatMap String.utf8EncodeChar := by
  rw [String.toUTF8_eq_toByteArray, ← String.utf8Encode_toList]
  exact List.toList_data_toByteArray

/-- Strict reading succeeds exactly on the UTF-8 encoding of a text, and gives that text. -/
theorem decode?_eq_some_iff (bytes : List UInt8) (text : String) :
    decode? bytes = some text ↔ bytes = text.toUTF8.data.toList := by
  rw [toUTF8_eq_flatMap, ← decodeChars?_eq_some_iff, decode?, Option.map_eq_some_iff]
  constructor
  · rintro ⟨characters, decoded, rfl⟩
    rw [String.toList_ofList]
    exact decoded
  · intro decoded
    exact ⟨text.toList, decoded, String.ofList_toList⟩

end LoginGate.Utf8
