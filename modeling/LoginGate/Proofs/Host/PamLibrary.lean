import LoginGate.Host.PamLibrary
import LoginGate.Proofs.Gate.Admission
import LoginGate.Proofs.Text.Utf8

namespace LoginGate

/-!
# Whom the host names

Linux-PAM gives a status and perhaps the bytes of a name, and a library hands them over.
It is asked for no more than its documentation says; then the account at a checkpoint is
the one whose UTF-8 Linux-PAM gave, or there is none.
-/

namespace UserAnswer

/-- The host names an account: its bytes are the UTF-8 of a text that is not empty. -/
structure Names (answer : UserAnswer) (account : String) : Prop where
  obtained : answer.status = pamSuccess
  encoded : answer.name = some account.toUTF8.data.toList
  notEmpty : account ≠ ""

/-- The host names one account at most. -/
theorem Names.unique
    {answer : UserAnswer}
    {first second : String}
    (namesFirst : answer.Names first)
    (namesSecond : answer.Names second) :
    first = second := by
  have sameBytes := Option.some.inj (namesFirst.encoded.symm.trans namesSecond.encoded)
  have readsFirst := (Utf8.decode?_eq_some_iff _ first).mpr rfl
  have readsSecond := (Utf8.decode?_eq_some_iff _ second).mpr sameBytes
  exact Option.some.inj (readsFirst.symm.trans readsSecond)

/-- Why the answer of the host names nobody at a checkpoint. -/
inductive NamesNobody (answer : UserAnswer) (phase : Phase) : Prop where
  | failed : answer.status ≠ pamSuccess → NamesNobody answer phase
  | null : answer.name = none → NamesNobody answer phase
  | empty : answer.name = some [] → NamesNobody answer phase
  | noText {bytes : List UInt8} :
      phase.IsCheck →
      answer.name = some bytes →
      (∀ text : String, bytes ≠ text.toUTF8.data.toList) →
      NamesNobody answer phase

end UserAnswer

/--
A library hands the user's name over as Linux-PAM gives it. A name ends at its first
zero byte, so nothing is asked for when there is one in it.
-/
structure PamLibrary.HandsOver (library : PamLibrary) : Prop where
  failed :
    ∀ answer,
      answer.status ≠ pamSuccess →
      ∃ failure, library.user answer = .error failure
  null :
    ∀ answer,
      answer.status = pamSuccess →
      answer.name = none →
      library.user answer = .ok none
  named :
    ∀ answer bytes,
      answer.status = pamSuccess →
      answer.name = some bytes →
      0 ∉ bytes →
      library.user answer = .ok (some bytes)

/-- The library that is strict about arguments hands names over. -/
theorem PamLibrary.handsOver_strict : strict.HandsOver := by
  constructor
  case failed =>
    intro answer failed
    exact ⟨answer.status, if_neg failed⟩
  case null =>
    intro answer obtained noName
    exact (if_pos obtained).trans (congrArg Except.ok noName)
  case named =>
    intro answer bytes obtained named _
    exact (if_pos obtained).trans (congrArg Except.ok named)

theorem Phase.IsCheck.decodeAccount {phase : Phase} (isCheck : phase.IsCheck) :
    phase.decodeAccount = Utf8.decode? := by
  rcases isCheck with rfl | rfl | rfl <;> rfl

namespace PamLibrary.HandsOver

variable {library : PamLibrary} {answer : UserAnswer} {phase : Phase}
variable (handsOver : library.HandsOver)
variable (nullFree : ∀ bytes, answer.name = some bytes → 0 ∉ bytes)

include handsOver nullFree

/-- The module gets the bytes that a successful answer gives, and no others. -/
theorem userBytes?_eq_some_iff (bytes : List UInt8) :
    library.userBytes? answer = some bytes ↔
      answer.status = pamSuccess ∧ answer.name = some bytes := by
  unfold userBytes?
  by_cases obtained : answer.status = pamSuccess
  · cases given : answer.name with
    | none =>
        simp [handsOver.null answer obtained given]
    | some name =>
        simp [handsOver.named answer name obtained given (nullFree name given), obtained]
  · obtain ⟨failure, failed⟩ := handsOver.failed answer obtained
    simp [failed, obtained]

/-- At a checkpoint the decoded account is present exactly when the host names it. -/
theorem names_iff (isCheck : phase.IsCheck) (account : String) :
    answer.Names account ↔
      (library.userBytes? answer).bind phase.decodeAccount = some account ∧ account ≠ "" := by
  simp only [isCheck.decodeAccount, Option.bind_eq_some_iff,
    handsOver.userBytes?_eq_some_iff nullFree, Utf8.decode?_eq_some_iff]
  constructor
  · rintro ⟨obtained, encoded, notEmpty⟩
    exact ⟨⟨_, ⟨obtained, encoded⟩, rfl⟩, notEmpty⟩
  · rintro ⟨⟨_, ⟨obtained, encoded⟩, rfl⟩, notEmpty⟩
    exact ⟨obtained, encoded, notEmpty⟩

/-- No account is present when the host names nobody. -/
theorem presentAccount_eq_none (nobody : answer.NamesNobody phase) :
    presentAccount ((library.userBytes? answer).bind phase.decodeAccount) = none := by
  have given := handsOver.userBytes?_eq_some_iff nullFree
  rw [presentAccount_eq_none_iff]
  cases nobody with
  | failed notObtained =>
      left
      have noBytes : library.userBytes? answer = none :=
        Option.eq_none_iff_forall_ne_some.mpr fun bytes isGiven =>
          notObtained ((given bytes).mp isGiven).1
      rw [noBytes, Option.bind_none]
  | null noName =>
      left
      have noBytes : library.userBytes? answer = none :=
        Option.eq_none_iff_forall_ne_some.mpr fun bytes isGiven => by
          cases noName.symm.trans ((given bytes).mp isGiven).2
      rw [noBytes, Option.bind_none]
  | empty emptyName =>
      have nothing : phase.decodeAccount [] = some "" := by
        cases phase <;> cbv
      cases bytesGiven : library.userBytes? answer with
      | none =>
          exact .inl rfl
      | some bytes =>
          obtain rfl := Option.some.inj (emptyName.symm.trans ((given bytes).mp bytesGiven).2)
          exact .inr nothing
  | noText isCheck named noText =>
      left
      rw [isCheck.decodeAccount, Option.eq_none_iff_forall_ne_some]
      intro text decoded
      obtain ⟨bytes, isGiven, encodes⟩ := Option.bind_eq_some_iff.mp decoded
      obtain ⟨_, sameBytes⟩ := (given bytes).mp isGiven
      obtain rfl := Option.some.inj (named.symm.trans sameBytes)
      exact noText text ((Utf8.decode?_eq_some_iff _ _).mp encodes)

end PamLibrary.HandsOver

end LoginGate
