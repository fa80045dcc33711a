import LoginGate.Proofs.Gate.Course
import LoginGate.Proofs.Gate.DecisionTable
import LoginGate.Proofs.Text.IllFormedUtf8

namespace LoginGate

/-!
# How the gate reads account names

Where an account is checked, a host names it by the encoding of its name, and nobody by
any other bytes. When a session ends every byte string names somebody, so that the end
is announced whenever there is a byte at all.
-/

open Interaction

theorem Phase.decodeAccount_of_ne {phase : Phase} (notAtEnd : phase ≠ .closeSession) :
    phase.decodeAccount = Utf8.decode? := by
  cases phase with
  | closeSession =>
      exact (notAtEnd rfl).elim
  | authenticate | setCredentials | accountManagement | openSession =>
      rfl

/-- What the checks read in a name, the end of a session reads too. -/
theorem Phase.decodeLossy_of_decodeAccount
    {phase : Phase}
    {raw : List UInt8}
    {name : String}
    (decoded : phase.decodeAccount raw = some name) :
    Utf8.decodeLossy raw = name := by
  by_cases atEnd : phase = .closeSession
  · subst atEnd
    exact Option.some.inj decoded
  · rw [decodeAccount_of_ne atEnd] at decoded
    obtain rfl : raw = Utf8.encode name :=
      (Utf8.decode?_eq_some_iff raw name).mp decoded
    exact Utf8.decodeLossy_encode name

/-- When a session ends, a name is present exactly when the bytes are. -/
theorem presentAccount_decodeAccount_closeSession (raw : List UInt8) :
    presentAccount (Phase.closeSession.decodeAccount raw) =
      if raw = [] then none else some (Utf8.decodeLossy raw) := by
  by_cases isEmpty : raw = []
  · rw [if_pos isEmpty, presentAccount_eq_none_iff]
    exact .inr (congrArg some ((Utf8.decodeLossy_eq_empty_iff raw).mpr isEmpty))
  · rw [if_neg isEmpty]
    exact presentAccount_of_ne (mt (Utf8.decodeLossy_eq_empty_iff raw).mp isEmpty)

namespace Gate

variable {σ ε : Type}
variable (gate : Gate σ ε) {named : Option String} (account : String) (world : World σ)

/-- What is done with the authority for a notice about an account. -/
def notification : List AuthorityAction :=
  .connect gate.configuration.endpoint ::
    match (gate.opening world).answer with
    | .error _ =>
        []
    | .ok () =>
        [.send (world.sessionsOpened + 1) gate.configuration.endpoint .notifyLogout account,
          .release (world.sessionsOpened + 1)]

theorem authorityActions_noticeEffects (outcome : Except AuthorityError Unit) :
    History.authorityActions (noticeEffects account outcome : History ε) = [] := by
  cases outcome <;> rfl

theorem authorityActions_announceSessionEnd_of_nobody (nobody : presentAccount named = none) :
    (run (gate.announceSessionEnd named) world).authorityActions = [] := by
  rw [gate.run_announceSessionEnd_of_nobody nobody]
  rfl

theorem authorityActions_announceSessionEnd_of_present
    (present : presentAccount named = some account) :
    (run (gate.announceSessionEnd named) world).authorityActions =
      gate.notification account world := by
  unfold notification
  cases accepted : (gate.opening world).answer with
  | error failure =>
      rw [gate.run_announceSessionEnd_of_refused account present accepted,
        Report.authorityActions]
      simp only [History.authorityActions_append, authorityActions_openingEffects,
        authorityActions_noticeEffects]
      rfl
  | ok _ =>
      rw [gate.run_announceSessionEnd_of_accepted account present accepted,
        Report.authorityActions]
      simp only [History.authorityActions_append, authorityActions_openingEffects,
        authorityActions_notifyingEffects, authorityActions_noticeEffects,
        authorityActions_releasingEffects]
      rfl

/-- The host names somebody at the end of a session by any byte at all. -/
theorem authorityActions_answerBytes_closeSession (bytes : Option (List UInt8)) :
    (run (gate.answerBytes .closeSession bytes) world).authorityActions =
      match bytes with
      | none | some [] =>
          []
      | some (first :: rest) =>
          gate.notification (Utf8.decodeLossy (first :: rest)) world := by
  have ended :
      gate.answerBytes .closeSession bytes =
        gate.announceSessionEnd (bytes.bind Phase.closeSession.decodeAccount) :=
    rfl
  rw [ended]
  split
  · exact gate.authorityActions_announceSessionEnd_of_nobody world rfl
  · apply gate.authorityActions_announceSessionEnd_of_nobody world
    exact presentAccount_decodeAccount_closeSession []
  · rename_i first rest
    apply gate.authorityActions_announceSessionEnd_of_present _ world
    exact presentAccount_decodeAccount_closeSession (first :: rest)

/--
How a gate reads the names that a host hands over: strictly at the checks and leniently
at the end of a session, which is announced whenever there is something to read.
-/
structure ReadsNames : Prop where
  strict :
    ∀ phase : Phase,
      phase ≠ .closeSession →
      ∀ raw name,
        phase.decodeAccount raw = some name ↔ raw = Utf8.encode name
  refused :
    ∀ phase : Phase,
      phase ≠ .closeSession →
      ∀ front bytes,
        Utf8.IllFormed bytes → phase.decodeAccount (Utf8.encode front ++ bytes) = none
  lenient : ∀ raw, Phase.closeSession.decodeAccount raw = some (Utf8.decodeLossy raw)
  agrees :
    ∀ (phase : Phase) raw name,
      phase.decodeAccount raw = some name →
      Utf8.decodeLossy raw = name
  laws : Utf8.ReadsLeniently Utf8.decodeLossy
  /-- There is no other lenient reading. -/
  determined : ∀ read, Utf8.ReadsLeniently read → read = Utf8.decodeLossy
  attempts :
    ∀ bytes world,
      (run (gate.answerBytes .closeSession bytes) world).authorityActions ≠ [] ↔
        ∃ raw, bytes = some raw ∧ raw ≠ []
  notifies :
    ∀ raw world,
      raw ≠ [] →
      (run (gate.answerBytes .closeSession (some raw)) world).authorityActions =
        gate.notification (Utf8.decodeLossy raw) world

/-- Every gate reads names so. -/
theorem readsNames : gate.ReadsNames := by
  constructor
  case strict =>
    intro phase notAtEnd raw name
    rw [Phase.decodeAccount_of_ne notAtEnd]
    exact Utf8.decode?_eq_some_iff raw name
  case refused =>
    intro phase notAtEnd front bytes illFormed
    rw [Phase.decodeAccount_of_ne notAtEnd]
    exact Utf8.decode?_encode_append_of_hasNoFront front illFormed.ne_nil illFormed.hasNoFront
  case lenient =>
    intro raw
    rfl
  case agrees =>
    intro phase raw name decoded
    exact Phase.decodeLossy_of_decodeAccount decoded
  case laws =>
    exact Utf8.readsLeniently_decodeLossy
  case determined =>
    intro read reads
    exact funext (reads.unique Utf8.readsLeniently_decodeLossy)
  case attempts =>
    intro bytes world
    rw [gate.authorityActions_answerBytes_closeSession world bytes]
    split
    · simp
    · simp
    · simp [notification]
  case notifies =>
    intro raw world notEmpty
    obtain ⟨first, rest, rfl⟩ := List.exists_cons_of_ne_nil notEmpty
    exact gate.authorityActions_answerBytes_closeSession world (some (first :: rest))

end Gate

end LoginGate
