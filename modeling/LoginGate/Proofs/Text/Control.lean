import LoginGate.Text.Control

namespace LoginGate.Control

/-!
# Text without control characters

What is escaped holds no control character. Digits are none either, so the escapes
themselves and all decimal numbers stay on one line.
-/

/-- Characters none of which is a control character. -/
def Plain (characters : List Char) : Prop :=
  ∀ character ∈ characters, isControl character = false

instance (characters : List Char) : Decidable (Plain characters) :=
  decidable_of_iff (characters.all (fun character => !isControl character) = true)
    (by simp [Plain])

theorem plain_append (first second : List Char) :
    Plain (first ++ second) ↔ Plain first ∧ Plain second :=
  List.forall_mem_append

theorem not_mem_of_plain
    {characters : List Char}
    (plain : Plain characters)
    {control : Char}
    (isControl : isControl control = true) :
    control ∉ characters := by
  intro isMember
  cases (plain control isMember).symm.trans isControl

/-- What holds of the first 160 characters holds of every control character. -/
@[elab_as_elim]
theorem of_isControl
    {motive : Char → Prop}
    {character : Char}
    (isControl : isControl character = true)
    (checked : ∀ number < 160, motive (Char.ofNat number)) :
    motive character := by
  have small : character.toNat < 160 := by
    simp only [Control.isControl, Bool.or_eq_true, Bool.and_eq_true, decide_eq_true_eq]
      at isControl
    omega
  have atNumber := checked character.toNat small
  rwa [Char.ofNat_toNat] at atNumber

/-- The digits of a decimal number are no control characters. -/
theorem plain_toDigits (number : Nat) : Plain (Nat.toDigits 10 number) := by
  intro character isDigit
  have range := Nat.isDigit_of_mem_toDigits (by decide) (Nat.le_refl 10) isDigit
  simp only [Char.isDigit, Bool.and_eq_true, decide_eq_true_eq] at range
  change 48 ≤ character.toNat ∧ character.toNat ≤ 57 at range
  simp only [isControl, Bool.or_eq_false_iff, Bool.and_eq_false_iff, decide_eq_false_iff_not]
  omega

/-- Neither are the hexadecimal digits of a control character. -/
theorem plain_toDigits_of_isControl
    {character : Char}
    (isControl : isControl character = true) :
    Plain (Nat.toDigits 16 character.toNat) := by
  have checked : ∀ number < 160, Plain (Nat.toDigits 16 (Char.ofNat number).toNat) := by
    decide +kernel
  exact of_isControl isControl checked

theorem plain_escapeControl
    {character : Char}
    (isControl : isControl character = true) :
    Plain (escapeControl character) := by
  have digits := plain_toDigits_of_isControl isControl
  unfold escapeControl
  split
  · decide
  split
  · decide
  split
  · decide
  split
  · decide
  · rw [plain_append, plain_append]
    exact ⟨⟨by decide, digits⟩, by decide⟩

/-- A character is written without control characters. -/
theorem plain_escapeChar (character : Char) : Plain (escapeChar character) := by
  unfold escapeChar
  split
  · exact plain_escapeControl (by assumption)
  · rename_i notControl
    simpa [Plain] using notControl

/-- A text is written without control characters. -/
theorem plain_escape (text : String) : Plain (escape text).toList := by
  rw [escape, String.toList_ofList]
  intro character isWritten
  obtain ⟨source, _, isPart⟩ := List.mem_flatMap.mp isWritten
  exact plain_escapeChar source character isPart

end LoginGate.Control
