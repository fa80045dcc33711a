import LoginGate.Proofs.Gate.DecisionTable

namespace LoginGate

/-!
# Who passes

The decision table, read for the one thing that the host cares about: whether
it goes on. At a checkpoint nobody passes without a name, and whoever has one
passes as exempt account or by a plain consent of the authority.
-/

open Interaction

variable {σ ε : Type}

namespace IdentityDatabase

/-- The look-ups find an account to be the root account or a member of a bypass group. -/
def Exempts
    (database : IdentityDatabase σ ε)
    (rules : BypassRules)
    (account : String)
    (world : σ) : Prop :=
  account = rules.rootAccount ∨ ∃ group, database.Belongs rules.groups account world group

/-- Accounts are exempt exactly when the look-ups end with an exemption. -/
theorem exempts_iff
    (database : IdentityDatabase σ ε)
    (rules : BypassRules)
    (account : String)
    (world : σ) :
    database.Exempts rules account world ↔
      ∃ found, (run (database.exemption rules account) world).answer = .ok (some found) := by
  constructor
  · rintro (isRoot | ⟨group, belongs⟩)
    · by_cases member : ∃ group, database.Belongs rules.groups account world group
      · obtain ⟨group, belongs⟩ := member
        exact ⟨.bypassGroup group, (database.answer_exemption_eq_bypassGroup_iff ..).mpr belongs⟩
      · exact ⟨.rootAccount, (database.answer_exemption_eq_rootAccount_iff ..).mpr
          ⟨isRoot, not_exists.mp member⟩⟩
    · exact ⟨.bypassGroup group, (database.answer_exemption_eq_bypassGroup_iff ..).mpr belongs⟩
  · rintro ⟨found, exempt⟩
    cases found with
    | bypassGroup group =>
        exact .inr ⟨group, (database.answer_exemption_eq_bypassGroup_iff ..).mp exempt⟩
    | rootAccount =>
        exact .inl ((database.answer_exemption_eq_rootAccount_iff ..).mp exempt).1

theorem answer_isExempt_iff
    (database : IdentityDatabase σ ε)
    (rules : BypassRules)
    (account : String)
    (world : σ) :
    (run (database.isExempt rules account) world).answer = true ↔
      database.Exempts rules account world := by
  rw [exempts_iff]
  simp only [isExempt, run_bind]
  cases (run (database.exemption rules account) world).answer with
  | error failure =>
      simp
  | ok found =>
      cases found <;> simp

end IdentityDatabase

namespace Gate

/-- The authority opens a session and answers the question with a plain yes. -/
structure Consents (gate : Gate σ ε) (account : String) (world : World σ) : Prop where
  opened : (gate.opening world).answer = .ok ()
  granted : (gate.questioning account world).answer = .ok (.boolean true)

end Gate

variable {gate : Gate σ ε} {account : String} {named : Option String} {world : World σ}
variable {allowed : Bool} {basis : Basis}

theorem AuthorityVerdict.allowed_iff
    (verdict : AuthorityVerdict gate account world allowed basis) :
    allowed = true ↔ gate.Consents account world := by
  cases verdict with
  | unreachable refused =>
      simp only [Bool.false_eq_true, false_iff]
      rintro ⟨opened, _⟩
      simp [opened] at refused
  | failed _ answered =>
      simp only [Bool.false_eq_true, false_iff]
      rintro ⟨_, granted⟩
      simp [granted] at answered
  | noArguments _ answered =>
      simp only [Bool.false_eq_true, false_iff]
      rintro ⟨_, granted⟩
      simp [granted] at answered
  | unexpectedType _ answered =>
      simp only [Bool.false_eq_true, false_iff]
      rintro ⟨_, granted⟩
      simp [granted] at answered
  | denied _ answered =>
      simp only [Bool.false_eq_true, false_iff]
      rintro ⟨_, granted⟩
      simp [granted] at answered
  | allowed opened granted =>
      simp only [true_iff]
      exact ⟨opened, granted⟩

/-- Where exempt accounts pass by themselves, everybody else needs the authority. -/
theorem LoginVerdict.allowed_iff
    (verdict : LoginVerdict gate world named allowed basis) :
    allowed = true ↔
      ∃ account,
        named = some account ∧ account ≠ "" ∧
          (gate.database.Exempts gate.configuration.bypass account world.outside ∨
            gate.Consents account (gate.worldBehindLookups world account)) := by
  cases verdict with
  | missing =>
      simp
  | empty =>
      simp
  | member notEmpty belongs =>
      simp only [true_iff]
      exact ⟨_, rfl, notEmpty, .inl (.inr ⟨_, belongs⟩)⟩
  | root notEmpty _ isRoot =>
      simp only [true_iff]
      exact ⟨_, rfl, notEmpty, .inl (.inl isRoot)⟩
  | asked notEmpty noMember notRoot verdict =>
      have notExempt :
          ¬ gate.database.Exempts gate.configuration.bypass _ world.outside :=
        not_or.mpr ⟨notRoot, not_exists.mpr noMember⟩
      rw [verdict.allowed_iff]
      constructor
      · intro consents
        exact ⟨_, rfl, notEmpty, .inr consents⟩
      · rintro ⟨_, same, _, exempts | consents⟩
        · obtain rfl := Option.some.inj same
          exact (notExempt exempts).elim
        · obtain rfl := Option.some.inj same
          exact consents

/-- Where nobody is exempt, everybody needs the authority. -/
theorem StrictVerdict.allowed_iff
    (verdict : StrictVerdict gate world named allowed basis) :
    allowed = true ↔
      ∃ account, named = some account ∧ account ≠ "" ∧ gate.Consents account world := by
  cases verdict with
  | missing =>
      simp
  | empty =>
      simp
  | asked notEmpty verdict =>
      rw [verdict.allowed_iff]
      constructor
      · intro consents
        exact ⟨_, rfl, notEmpty, consents⟩
      · rintro ⟨_, same, _, consents⟩
        obtain rfl := Option.some.inj same
        exact consents

namespace Phase

/-- The two checkpoints that exempt accounts pass by themselves, and the strict one. -/
def IsCheck (phase : Phase) : Prop :=
  phase = .authenticate ∨ phase = .accountManagement ∨ phase = .openSession

/-- What the host is told when nobody is named. -/
def nobodyOutcome : Phase → Outcome
  | .setCredentials =>
      .noOp
  | .closeSession =>
      .noOp
  | _ =>
      .deny

/-- What is recorded when nobody is named. -/
def nobodyEvents : Phase → List Event
  | .setCredentials =>
      []
  | .closeSession =>
      [.debug .closeSession "No user found, nothing to notify"]
  | phase =>
      [.announcement phase, .debug phase "No user found"]

end Phase

namespace Gate

/-- The decision with exemptions lets pass whoever is exempt or has the authority's consent. -/
theorem allowed_decideWithExemptions_iff
    (gate : Gate σ ε)
    (phase : Phase)
    (named : Option String)
    (world : World σ) :
    (run (gate.decideWithExemptions phase named) world).answer.allowed = true ↔
      ∃ account,
        named = some account ∧ account ≠ "" ∧
          (gate.database.Exempts gate.configuration.bypass account world.outside ∨
            gate.Consents account (gate.worldBehindLookups world account)) := by
  obtain ⟨allowed, basis, verdict⟩ := exists_loginVerdict gate named world
  rw [answer_decideWithExemptions_of_verdict verdict]
  exact verdict.allowed_iff

/-- The strict decision lets pass whoever has the authority's consent. -/
theorem allowed_decideStrictly_iff
    (gate : Gate σ ε)
    (phase : Phase)
    (named : Option String)
    (world : World σ) :
    (run (gate.decideStrictly phase named) world).answer.allowed = true ↔
      ∃ account, named = some account ∧ account ≠ "" ∧ gate.Consents account world := by
  obtain ⟨allowed, basis, verdict⟩ := exists_strictVerdict gate named world
  rw [answer_decideStrictly_of_verdict verdict]
  exact verdict.allowed_iff

/-- The two checkpoints that exempt accounts pass by themselves let the same accounts pass. -/
theorem permits_answer_iff_exempt_or_consent
    {phase : Phase}
    (exempting : phase = .authenticate ∨ phase = .accountManagement)
    (gate : Gate σ ε)
    (named : Option String)
    (world : World σ) :
    (run (gate.answer phase named) world).answer.permits = true ↔
      ∃ account,
        named = some account ∧ account ≠ "" ∧
          (gate.database.Exempts gate.configuration.bypass account world.outside ∨
            gate.Consents account (gate.worldBehindLookups world account)) := by
  obtain ⟨allowed, basis, verdict⟩ := exists_loginVerdict gate named world
  rw [← verdict.allowed_iff]
  rcases exempting with rfl | rfl
  · rw [(answer_of_checkpointVerdict (.authenticate verdict)).1, Outcome.permits_ofAllowed]
  · rw [(answer_of_checkpointVerdict (.accountManagement verdict)).1, Outcome.permits_ofAllowed]

/-- At the strict checkpoint the authority lets accounts pass, and nothing else does. -/
theorem permits_answer_iff_consent
    (gate : Gate σ ε)
    (named : Option String)
    (world : World σ) :
    (run (gate.answer .openSession named) world).answer.permits = true ↔
      ∃ account, named = some account ∧ account ≠ "" ∧ gate.Consents account world := by
  obtain ⟨allowed, basis, verdict⟩ := exists_strictVerdict gate named world
  rw [← verdict.allowed_iff, (answer_of_checkpointVerdict (.openSession verdict)).1,
    Outcome.permits_ofAllowed]

/-- The two other checkpoints stop nobody. -/
theorem permits_answer_of_unchecked
    {phase : Phase}
    (unchecked : phase = .setCredentials ∨ phase = .closeSession)
    (gate : Gate σ ε)
    (named : Option String)
    (world : World σ) :
    (run (gate.answer phase named) world).answer.permits = true := by
  rcases unchecked with rfl | rfl
  · rfl
  · obtain ⟨outcome, verdict⟩ := exists_sessionEndVerdict gate named world
    rw [(answer_of_checkpointVerdict verdict).1]
    cases verdict <;> rfl

/-- Whoever is not named is only recorded: no part of the gate is used. -/
theorem run_answer_of_nobody
    (gate : Gate σ ε)
    (phase : Phase)
    (world : World σ)
    (nobody : presentAccount named = none) :
    run (gate.answer phase named) world =
      ⟨phase.nobodyOutcome, world, phase.nobodyEvents.map .event⟩ := by
  cases phase with
  | authenticate =>
      simp [answer, gate.run_decideWithExemptions_of_nobody .authenticate world nobody,
        Phase.nobodyOutcome, Phase.nobodyEvents, Decision.outcome, Outcome.ofAllowed]
  | setCredentials =>
      simp [answer, Phase.nobodyOutcome, Phase.nobodyEvents]
  | accountManagement =>
      simp [answer, gate.run_decideWithExemptions_of_nobody .accountManagement world nobody,
        Phase.nobodyOutcome, Phase.nobodyEvents, Decision.outcome, Outcome.ofAllowed]
  | openSession =>
      simp [answer, gate.run_decideStrictly_of_nobody .openSession world nobody,
        Phase.nobodyOutcome, Phase.nobodyEvents, Decision.outcome, Outcome.ofAllowed]
  | closeSession =>
      simp [answer, gate.run_announceSessionEnd_of_nobody nobody, Phase.nobodyOutcome,
        Phase.nobodyEvents]

end Gate

end LoginGate
