import LoginGate.Proofs.Text.Control
import Mathlib

namespace LoginGate.Control

/-!
# The laws of escaping

Escaping goes character by character and leaves everything but control characters as
it is. What it writes holds no control character, so a second escaping finds nothing
to do. A text gets no shorter by it, nothing else of the text is lost or moved, and
each form still shows which control character it stands for.
-/

/-- The general category Cc: U+0000 to U+001F and U+007F to U+009F. -/
def InCc (character : Char) : Prop :=
  character.toNat ≤ 0x1F ∨ (0x7F ≤ character.toNat ∧ character.toNat ≤ 0x9F)

instance (character : Char) : Decidable (InCc character) :=
  inferInstanceAs (Decidable (_ ∨ _))

/-- The number that digits to the base of sixteen make up, the letters in lower case. -/
def hexNumber (digits : List Char) : Nat :=
  digits.foldl
    (fun number digit =>
      16 * number + if digit.isDigit then digit.toNat - 0x30 else digit.toNat - 0x57)
    0

/-- The control character that a visible form stands for. -/
def readForm? : List Char → Option Char
  | ['\\', '0'] =>
      some '\x00'
  | ['\\', 't'] =>
      some '\t'
  | ['\\', 'n'] =>
      some '\n'
  | ['\\', 'r'] =>
      some '\r'
  | '\\' :: 'u' :: '\x7b' :: digits =>
      if digits.getLast? = some '\x7d' then
        some (Char.ofNat (hexNumber digits.dropLast))
      else
        none
  | _ =>
      none

theorem isControl_eq_true_iff (character : Char) :
    isControl character = true ↔ InCc character := by
  simp [isControl, InCc]

theorem isControl_eq_false_iff (character : Char) :
    isControl character = false ↔ ¬ InCc character := by
  rw [← isControl_eq_true_iff, Bool.not_eq_true]

/-- What is no control character is written as it is. -/
theorem escapeChar_of_not_isControl
    {character : Char}
    (notControl : isControl character = false) :
    escapeChar character = [character] := by
  simp [escapeChar, notControl]

/-- The form of a control character has a backslash and at least one character more. -/
theorem two_le_length_escapeControl (character : Char) :
    2 ≤ (escapeControl character).length := by
  unfold escapeControl
  split
  · decide
  split
  · decide
  split
  · decide
  split
  · decide
  · simp only [List.length_append, List.length_cons]
    omega

/-- The form of a control character shows which one it is. -/
theorem readForm?_escapeControl
    {character : Char}
    (isControl : isControl character = true) :
    readForm? (escapeControl character) = some character := by
  have checked :
      ∀ number < 160, readForm? (escapeControl (Char.ofNat number)) = some (Char.ofNat number) := by
    decide +kernel
  exact of_isControl isControl checked

/-- Escaping has nothing to do where there is no control character. -/
theorem escapeChars_of_plain
    {characters : List Char}
    (plain : Plain characters) :
    escapeChars characters = characters := by
  induction characters with
  | nil =>
      rfl
  | cons first rest inductionHypothesis =>
      obtain ⟨plainFirst, plainRest⟩ := List.forall_mem_cons.mp plain
      rw [escapeChars, List.flatMap_cons, escapeChar_of_not_isControl plainFirst]
      exact congrArg (first :: ·) (inductionHypothesis plainRest)

/-- A text is written as it is exactly when it has no control character. -/
theorem escape_eq_self_iff (text : String) : escape text = text ↔ Plain text.toList := by
  constructor
  · intro unchanged
    rw [← unchanged]
    exact plain_escape text
  · intro plain
    rw [escape, escapeChars_of_plain plain, String.ofList_toList]

/-- Escaping twice is escaping once. -/
theorem escape_escape (text : String) : escape (escape text) = escape text :=
  (escape_eq_self_iff (escape text)).mpr (plain_escape text)

/-- Escaping goes part by part. -/
theorem escape_append (front back : String) :
    escape (front ++ back) = escape front ++ escape back := by
  simp only [escape, String.toList_append, escapeChars_append, String.ofList_append]

/-- Everything but the control characters is still there, in its order. -/
theorem filter_sublist_escapeChars (characters : List Char) :
    (characters.filter fun character => !isControl character).Sublist
      (escapeChars characters) := by
  induction characters with
  | nil =>
      exact .slnil
  | cons first rest inductionHypothesis =>
      cases control : isControl first with
      | true =>
          rw [List.filter_cons_of_neg (by simp [control])]
          exact inductionHypothesis.trans
            (List.sublist_append_right (escapeChar first) (escapeChars rest))
      | false =>
          rw [List.filter_cons_of_pos (by simp [control]), escapeChars, List.flatMap_cons,
            escapeChar_of_not_isControl control]
          exact inductionHypothesis.cons_cons first

section Weight

/-
Characters and bytes are counted alike: every character weighs something, and the form
of a control character is never lighter than the two that the character weighs at most.
-/

variable {weight : Char → Nat}

theorem weight_le_sum_escapeChar
    (positive : ∀ character, 1 ≤ weight character)
    (light : ∀ character, isControl character = true → weight character ≤ 2)
    (character : Char) :
    weight character ≤ ((escapeChar character).map weight).sum := by
  cases control : isControl character with
  | true =>
      have weighsAll : ∀ part ∈ (escapeChar character).map weight, 1 ≤ part := by
        intro part isPart
        obtain ⟨written, -, rfl⟩ := List.mem_map.mp isPart
        exact positive written
      calc
        weight character ≤ 2 := light character control
        _ ≤ (escapeChar character).length := by
          rw [escapeChar, if_pos control]
          exact two_le_length_escapeControl character
        _ = ((escapeChar character).map weight).length :=
          (List.length_map weight).symm
        _ ≤ ((escapeChar character).map weight).sum := List.length_le_sum_of_one_le _ weighsAll
  | false =>
      rw [escapeChar_of_not_isControl control]
      exact Nat.le_add_right (weight character) 0

/-- Nothing gets lighter by being escaped. -/
theorem sum_weight_le_escapeChars
    (positive : ∀ character, 1 ≤ weight character)
    (light : ∀ character, isControl character = true → weight character ≤ 2)
    (characters : List Char) :
    (characters.map weight).sum ≤ ((escapeChars characters).map weight).sum := by
  calc
    (characters.map weight).sum ≤
        (characters.map fun character => ((escapeChar character).map weight).sum).sum :=
      List.sum_le_sum fun character _ => weight_le_sum_escapeChar positive light character
    _ = ((escapeChars characters).map weight).sum := by
      rw [escapeChars, List.map_flatMap, List.flatMap_def, List.sum_flatten, List.map_map]
      rfl

end Weight

/-- A text gets no shorter by being escaped. -/
theorem length_le_length_escape (text : String) : text.length ≤ (escape text).length := by
  have counted :=
    sum_weight_le_escapeChars
      (fun _ => Nat.le_refl 1) (fun _ _ => Nat.le_succ 1) text.toList
  simp only [List.map_const', List.sum_replicate_nat, Nat.mul_one, String.length_toList]
    at counted
  rwa [escape, String.length_ofList]

/-- A text takes as many bytes as its characters do. -/
theorem utf8ByteSize_eq_sum (characters : List Char) :
    (String.ofList characters).utf8ByteSize = (characters.map Char.utf8Size).sum := by
  induction characters with
  | nil =>
      rfl
  | cons first rest inductionHypothesis =>
      rw [String.ofList_cons, String.utf8ByteSize_append, String.utf8ByteSize_singleton,
        inductionHypothesis, List.map_cons, List.sum_cons]

/-- A control character takes two bytes at most. -/
theorem utf8Size_le_two_of_isControl
    {character : Char}
    (isControl : isControl character = true) :
    character.utf8Size ≤ 2 := by
  have checked : ∀ number < 160, (Char.ofNat number).utf8Size ≤ 2 := by
    decide +kernel
  exact of_isControl isControl checked

/-- Nor does a text take fewer bytes for being escaped. -/
theorem utf8ByteSize_le_utf8ByteSize_escape (text : String) :
    text.utf8ByteSize ≤ (escape text).utf8ByteSize := by
  have counted :=
    sum_weight_le_escapeChars
      Char.utf8Size_pos (fun _ => utf8Size_le_two_of_isControl) text.toList
  rwa [← utf8ByteSize_eq_sum, ← utf8ByteSize_eq_sum, String.ofList_toList] at counted

/--
How a text is written. No control character is left of it, of which the line breaks and
U+0000 are some, and all else is there as it was. Only a text that has control characters
changes, none gets shorter, in characters or in bytes, and no second escaping changes it
any further.
-/
structure EscapingLaws (text : String) : Prop where
  noControl : ∀ character ∈ (escape text).toList, ¬ InCc character
  oneLine :
    ∀ character ∈ ['\x00', '\n', '\x0b', '\x0c', '\r', '\x85'],
      character ∉ (escape text).toList
  append : ∀ behind, escape (text ++ behind) = escape text ++ escape behind
  unchanged : escape text = text ↔ ∀ character ∈ text.toList, ¬ InCc character
  again : escape (escape text) = escape text
  noShorter : text.length ≤ (escape text).length
  noLighter : text.utf8ByteSize ≤ (escape text).utf8ByteSize
  kept :
    (text.toList.filter fun character => ¬ InCc character).Sublist (escape text).toList
  /-- Of a single control character, its form tells which one it is. -/
  legible :
    ∀ character ∈ text.toList,
      InCc character →
      readForm? (escape (String.singleton character)).toList = some character

/-- Every text is written so. -/
theorem escapingLaws (text : String) : EscapingLaws text := by
  have noControl : ∀ character ∈ (escape text).toList, ¬ InCc character := by
    intro character isWritten
    exact (isControl_eq_false_iff character).mp (plain_escape text character isWritten)
  constructor
  case noControl =>
    exact noControl
  case oneLine =>
    intro character isBreak isWritten
    have breaksInCc : ∀ control ∈ ['\x00', '\n', '\x0b', '\x0c', '\r', '\x85'], InCc control := by
      simp [InCc]
    exact noControl character isWritten (breaksInCc character isBreak)
  case append =>
    exact escape_append text
  case unchanged =>
    simp only [escape_eq_self_iff, Plain, isControl_eq_false_iff]
  case again =>
    exact escape_escape text
  case noShorter =>
    exact length_le_length_escape text
  case noLighter =>
    exact utf8ByteSize_le_utf8ByteSize_escape text
  case kept =>
    have samePart : (fun character => decide (¬ InCc character)) = (!isControl ·) := by
      funext character
      simp only [← isControl_eq_true_iff, decide_not, Bool.decide_eq_true]
    rw [samePart, escape, String.toList_ofList]
    exact filter_sublist_escapeChars text.toList
  case legible =>
    intro character _ inCc
    have isControl := (isControl_eq_true_iff character).mpr inCc
    simpa [escape, escapeChars, escapeChar, isControl] using readForm?_escapeControl isControl

end LoginGate.Control
