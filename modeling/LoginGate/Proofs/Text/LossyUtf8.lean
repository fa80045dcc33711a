import LoginGate.Proofs.Text.Utf8

namespace LoginGate.Utf8

/-!
# The lenient reader, and the bytes that it replaces

The lenient reader keeps what is well-formed and writes one U+FFFD for each malformed
run. A run is the longest beginning of a character that stands there, or one byte when
no character begins with it: `readOwed` stops exactly where no further byte could
complete what was taken.
-/

/-- The UTF-8 encoding of a text. -/
def encode (text : String) : List UInt8 :=
  text.toUTF8.data.toList

/-- Some first bytes of a character, but not all of them. -/
def IsPartial (bytes : List UInt8) : Prop :=
  bytes ≠ [] ∧
    ∃ character missing, missing ≠ [] ∧ bytes ++ missing = String.utf8EncodeChar character

/--
How many bytes at the front of a malformed byte string are replaced together: the most
that are a part of a character, or one when none are.
-/
inductive MalformedRun (bytes : List UInt8) : (count : Nat) → Prop where
  | begun {count : Nat} :
      count ≤ bytes.length →
      IsPartial (bytes.take count) →
      (∀ longer, count < longer → longer ≤ bytes.length → ¬ IsPartial (bytes.take longer)) →
      MalformedRun bytes count
  | stray :
      (∀ count ≤ bytes.length, ¬ IsPartial (bytes.take count)) →
      MalformedRun bytes 1

/-- A byte string does not begin with the encoding of any text but the empty one. -/
def HasNoFront (bytes : List UInt8) : Prop :=
  ∀ text behind, bytes = encode text ++ behind → text = ""

/-- The laws of lenient reading. -/
structure ReadsLeniently (read : List UInt8 → String) : Prop where
  wellFormed : ∀ text behind, read (encode text ++ behind) = text ++ read behind
  malformed :
    ∀ bytes,
      bytes ≠ [] →
      HasNoFront bytes →
      ∃ count,
        MalformedRun bytes count ∧
          1 ≤ count ∧ count ≤ 3 ∧
          read bytes = "\uFFFD" ++ read (bytes.drop count)
  stable : ∀ bytes, read (encode (read bytes)) = read bytes
  empty_iff : ∀ bytes, read bytes = "" ↔ bytes = []

/-- Bytes that are still owed can always be supplied. -/
theorem exists_completion
    (owed code : Nat)
    {low high : UInt8}
    (inOrder : low ≤ high) :
    ∃ missing value,
      missing.length = owed ∧ readOwed owed code low high missing = (some value, []) := by
  induction owed generalizing code low high with
  | zero =>
      exact ⟨[], code, rfl, rfl⟩
  | succ owed inductionHypothesis =>
      have continuations : (0x80 : UInt8) ≤ 0xBF := by
        decide
      obtain ⟨missing, value, counted, read⟩ :=
        inductionHypothesis (code * 64 + (low.toNat - 0x80)) continuations
      refine ⟨low :: missing, value, by rw [List.length_cons, counted], ?_⟩
      rw [readOwed, if_pos ⟨UInt8.le_refl low, inOrder⟩, read]

/--
Where the reading of owed bytes is stuck: what was taken lacks at least one byte, can be
completed, and cannot be completed with the byte that comes next.
-/
theorem readOwed_stuck
    {owed code : Nat}
    {low high : UInt8}
    {bytes behind : List UInt8}
    (inOrder : low ≤ high)
    (stuck : readOwed owed code low high bytes = (none, behind)) :
    ∃ taken,
      bytes = taken ++ behind ∧
        taken.length < owed ∧
        (∃ missing value,
          missing ≠ [] ∧ readOwed owed code low high (taken ++ missing) = (some value, [])) ∧
        ∀ next rest further,
          behind = next :: rest →
          (readOwed owed code low high (taken ++ next :: further)).1 = none := by
  induction owed generalizing code low high bytes with
  | zero =>
      simp [readOwed] at stuck
  | succ owed inductionHypothesis =>
      have completed :
          ∃ missing value,
            missing ≠ [] ∧
              readOwed (owed + 1) code low high ([] ++ missing) = (some value, []) := by
        obtain ⟨missing, value, counted, read⟩ := exists_completion (owed + 1) code inOrder
        exact ⟨missing, value, List.ne_nil_of_length_eq_add_one counted, read⟩
      cases bytes with
      | nil =>
          simp only [readOwed, Prod.mk.injEq, true_and] at stuck
          subst stuck
          exact ⟨[], rfl, Nat.succ_pos owed, completed, by simp⟩
      | cons byte rest =>
          rw [readOwed] at stuck
          split at stuck
          · rename_i inBounds
            obtain ⟨taken, shape, isShort, ⟨missing, value, isMissing, read⟩, noNext⟩ :=
              inductionHypothesis (by decide) stuck
            refine ⟨byte :: taken, by rw [shape, List.cons_append],
              Nat.succ_lt_succ isShort, ⟨missing, value, isMissing, ?_⟩, ?_⟩
            · rw [List.cons_append, readOwed, if_pos inBounds, read]
            · intro next more further isBehind
              rw [List.cons_append, readOwed, if_pos inBounds]
              exact noNext next more further isBehind
          · rename_i outOfBounds
            obtain rfl : byte :: rest = behind := congrArg Prod.snd stuck
            refine ⟨[], rfl, Nat.succ_pos owed, completed, ?_⟩
            intro next more further isBehind
            obtain ⟨rfl, rfl⟩ := List.cons.inj isBehind
            rw [List.nil_append, readOwed, if_neg outOfBounds]

/-- The bounds that a first byte announces leave some next byte. -/
theorem Lead.low_le_high {byte : UInt8} {lead : Lead} (found : ofByte? byte = some lead) :
    lead.low ≤ lead.high := by
  unfold ofByte? at found
  -- one goal for each row of the table
  iterate 7
    split at found
    rotate_left
  · cases found
  all_goals
    obtain rfl := Option.some.inj found
    dsimp only
    decide

section Fronts

variable {first : UInt8} {rest behind : List UInt8}

/-- A part of a character is read as that character when the missing bytes are supplied. -/
theorem IsPartial.readFront (isPartial : IsPartial (first :: rest)) :
    ∃ character missing, Utf8.readFront first (rest ++ missing) = (some character, []) := by
  obtain ⟨_, character, missing, _, shape⟩ := isPartial
  refine ⟨character, missing, readFront_eq_some_iff.mpr ?_⟩
  rw [List.append_nil, ← shape, List.cons_append]

theorem isPartial_of_readFront
    {character : Char}
    {missing : List UInt8}
    (isMissing : missing ≠ [])
    (read : readFront first (rest ++ missing) = (some character, [])) :
    IsPartial (first :: rest) := by
  refine ⟨List.cons_ne_nil _ _, character, missing, isMissing, ?_⟩
  rw [List.cons_append, readFront_eq_some_iff.mp read, List.append_nil]

/-- A first byte that announces nothing is replaced alone. -/
theorem malformedRun_of_no_lead
    (notAscii : ¬ first < 0x80)
    (noLead : Lead.ofByte? first = none) :
    MalformedRun (first :: rest) 1 := by
  refine .stray fun count _ isPartial => ?_
  cases count with
  | zero =>
      exact isPartial.1 rfl
  | succ count =>
      rw [List.take_succ_cons] at isPartial
      obtain ⟨character, missing, read⟩ := isPartial.readFront
      simp [readFront, notAscii, noLead] at read

/-- A first byte that announces others is replaced with those that could follow it. -/
theorem exists_malformedRun_of_lead
    {lead : Lead}
    (found : Lead.ofByte? first = some lead)
    (stuck : readOwed lead.owed lead.payload lead.low lead.high rest = (none, behind)) :
    ∃ count,
      MalformedRun (first :: rest) count ∧
        1 ≤ count ∧ count ≤ 3 ∧
        behind = (first :: rest).drop count := by
  obtain ⟨taken, rfl, isShort, ⟨missing, value, isMissing, read⟩, noNext⟩ :=
    readOwed_stuck (Lead.low_le_high found) stuck
  have atMostThree : lead.owed ≤ 3 := by
    rcases (Lead.announces_of_ofByte? found).isLead.owed with owed | owed | owed <;> omega
  refine ⟨taken.length + 1, .begun ?_ ?_ ?_, Nat.succ_pos _, by omega, by simp⟩
  · simp
  · rw [List.take_succ_cons, List.take_left]
    apply isPartial_of_readFront isMissing
    rw [readFront_of_lead _ found, read]
    rfl
  · intro longer isLonger isBounded isPartial
    obtain ⟨more, rfl⟩ : ∃ more, longer = taken.length + 1 + 1 + more :=
      Nat.exists_eq_add_of_le isLonger
    cases behind with
    | nil =>
        simp at isBounded
        omega
    | cons next after =>
        have shape :
            (first :: (taken ++ next :: after)).take (taken.length + 1 + 1 + more) =
              first :: (taken ++ next :: after.take more) := by
          rw [show taken.length + 1 + 1 + more = taken.length + (more + 1) + 1 by omega,
            List.take_succ_cons, List.take_length_add_append, List.take_succ_cons]
        rw [shape] at isPartial
        obtain ⟨character, missing, readNext⟩ := isPartial.readFront
        rw [readFront_of_lead _ found, List.append_assoc, List.cons_append,
          noNext next after _ rfl] at readNext
        simp at readNext

/-- Where no character can be read, one malformed run is passed. -/
theorem exists_malformedRun_of_readFront (stuck : readFront first rest = (none, behind)) :
    ∃ count,
      MalformedRun (first :: rest) count ∧
        1 ≤ count ∧ count ≤ 3 ∧
        behind = (first :: rest).drop count := by
  by_cases isAscii : first < 0x80
  · simp [readFront, isAscii] at stuck
  · cases found : Lead.ofByte? first with
    | none =>
        simp only [readFront, isAscii, found, if_false, Prod.mk.injEq, true_and] at stuck
        subst stuck
        exact ⟨1, malformedRun_of_no_lead isAscii found, by decide, by decide, rfl⟩
    | some lead =>
        rw [readFront_of_lead _ found, Prod.mk.injEq, Option.map_eq_none_iff] at stuck
        exact exists_malformedRun_of_lead found (Prod.ext stuck.1 stuck.2)

end Fronts

/-- The length of a malformed run is unique. -/
theorem MalformedRun.unique
    {bytes : List UInt8}
    {count other : Nat}
    (run : MalformedRun bytes count)
    (otherRun : MalformedRun bytes other) :
    count = other := by
  cases run with
  | begun isBounded isPartial isLongest =>
      cases otherRun with
      | begun otherIsBounded otherIsPartial otherIsLongest =>
          rcases Nat.lt_trichotomy count other with isLess | same | isMore
          · exact (isLongest other isLess otherIsBounded otherIsPartial).elim
          · exact same
          · exact (otherIsLongest count isMore isBounded isPartial).elim
      | stray noPart =>
          exact (noPart count isBounded isPartial).elim
  | stray noPart =>
      cases otherRun with
      | begun isBounded isPartial _ =>
          exact (noPart other isBounded isPartial).elim
      | stray _ =>
          rfl

/-- A character in front of a byte string is read first. -/
theorem decodeCharsLossy_encodes (character : Char) (behind : List UInt8) :
    decodeCharsLossy (String.utf8EncodeChar character ++ behind) =
      character :: decodeCharsLossy behind := by
  cases encoded : String.utf8EncodeChar character with
  | nil =>
      exact (String.utf8EncodeChar_ne_nil encoded).elim
  | cons first more =>
      have read : readFront first (more ++ behind) = (some character, behind) :=
        readFront_of_encodes (by rw [encoded, List.cons_append])
      rw [List.cons_append, decodeCharsLossy, read]
      rfl

theorem encode_eq_flatMap (text : String) :
    encode text = text.toList.flatMap String.utf8EncodeChar :=
  toUTF8_eq_flatMap text

theorem decodeLossy_encode_append (text : String) (behind : List UInt8) :
    decodeLossy (encode text ++ behind) = text ++ decodeLossy behind := by
  have characters (front : List Char) :
      decodeCharsLossy (front.flatMap String.utf8EncodeChar ++ behind) =
        front ++ decodeCharsLossy behind := by
    induction front with
    | nil =>
        rfl
    | cons character others inductionHypothesis =>
        rw [List.flatMap_cons, List.append_assoc, decodeCharsLossy_encodes,
          inductionHypothesis, List.cons_append]
  rw [encode_eq_flatMap, decodeLossy, characters, String.ofList_append, String.ofList_toList]
  rfl

/-- What is well-formed throughout is read as it is. -/
theorem decodeLossy_encode (text : String) : decodeLossy (encode text) = text := by
  have nothing : decodeLossy [] = "" := by
    simp [decodeLossy, decodeCharsLossy]
  have read := decodeLossy_encode_append text []
  rwa [List.append_nil, nothing, String.append_empty] at read

theorem decodeLossy_eq_empty_iff (bytes : List UInt8) : decodeLossy bytes = "" ↔ bytes = [] := by
  cases bytes with
  | nil =>
      simp [decodeLossy, decodeCharsLossy]
  | cons first rest =>
      simp [decodeLossy, decodeCharsLossy]

/-- Where no text stands in front, no character can be read. -/
theorem HasNoFront.readFront
    {first : UInt8}
    {rest : List UInt8}
    (noFront : HasNoFront (first :: rest)) :
    (Utf8.readFront first rest).1 = none := by
  cases read : (Utf8.readFront first rest).1 with
  | none =>
      rfl
  | some character =>
      have shape := readFront_eq_some_iff.mp (Prod.ext read rfl)
      have isEmpty := noFront (String.singleton character) (Utf8.readFront first rest).2 (by
        rw [shape, encode_eq_flatMap]
        simp)
      simp at isEmpty

theorem exists_malformedRun
    {bytes : List UInt8}
    (notEmpty : bytes ≠ [])
    (noFront : HasNoFront bytes) :
    ∃ count,
      MalformedRun bytes count ∧
        1 ≤ count ∧ count ≤ 3 ∧
        decodeLossy bytes = "\uFFFD" ++ decodeLossy (bytes.drop count) := by
  cases bytes with
  | nil =>
      exact (notEmpty rfl).elim
  | cons first rest =>
      have stuck := noFront.readFront
      obtain ⟨count, run, atLeastOne, atMostThree, behind⟩ :=
        exists_malformedRun_of_readFront (Prod.ext stuck rfl)
      refine ⟨count, run, atLeastOne, atMostThree, ?_⟩
      rw [← behind, decodeLossy, decodeCharsLossy, stuck, ← List.singleton_append,
        String.ofList_append]
      rfl

theorem encode_append (front back : String) :
    encode (front ++ back) = encode front ++ encode back := by
  simp [encode_eq_flatMap]

theorem encode_eq_nil_iff (text : String) : encode text = [] ↔ text = "" := by
  rw [← decodeLossy_eq_empty_iff, decodeLossy_encode]

/-- The laws leave no choice to a lenient reader. -/
theorem ReadsLeniently.unique
    {read otherRead : List UInt8 → String}
    (reads : ReadsLeniently read)
    (otherReads : ReadsLeniently otherRead)
    (bytes : List UInt8) :
    read bytes = otherRead bytes := by
  induction counted : bytes.length using Nat.strong_induction_on generalizing bytes with
  | _ length inductionHypothesis =>
      subst counted
      by_cases isEmpty : bytes = []
      · rw [(reads.empty_iff bytes).mpr isEmpty, (otherReads.empty_iff bytes).mpr isEmpty]
      have present : 0 < bytes.length :=
        List.length_pos_of_ne_nil isEmpty
      by_cases noFront : HasNoFront bytes
      · obtain ⟨count, run, atLeastOne, _, replaced⟩ := reads.malformed bytes isEmpty noFront
        obtain ⟨other, otherRun, _, _, otherReplaced⟩ :=
          otherReads.malformed bytes isEmpty noFront
        obtain rfl := run.unique otherRun
        rw [replaced, otherReplaced,
          inductionHypothesis _ (by rw [List.length_drop]; omega) (bytes.drop count) rfl]
      · simp only [HasNoFront, not_forall] at noFront
        obtain ⟨text, behind, rfl, notEmpty⟩ := noFront
        have taken : 0 < (encode text).length :=
          List.length_pos_of_ne_nil (mt (encode_eq_nil_iff text).mp notEmpty)
        rw [reads.wellFormed, otherReads.wellFormed,
          inductionHypothesis _ (by rw [List.length_append]; omega) behind rfl]

/-- The lenient reader obeys the laws. -/
theorem readsLeniently_decodeLossy : ReadsLeniently decodeLossy := by
  constructor
  case wellFormed =>
    exact decodeLossy_encode_append
  case malformed =>
    intro bytes notEmpty noFront
    exact exists_malformedRun notEmpty noFront
  case stable =>
    intro bytes
    exact decodeLossy_encode (decodeLossy bytes)
  case empty_iff =>
    exact decodeLossy_eq_empty_iff

example : decodeLossy [0x61, 0xE2, 0x82, 0x62, 0xC0, 0xF0, 0x9F] = "a\uFFFDb\uFFFD\uFFFD" := by
  cbv

end LoginGate.Utf8
