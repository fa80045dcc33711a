import LoginGate.Proofs.Gate.Paths
import LoginGate.Proofs.Identity.GroupSearch

namespace LoginGate

/-!
# The decision table

What the gate tells the host at each checkpoint, and what this rests on, as a
table over the answers that the database and the authority give during that
very question. Every question has exactly one row. The only rows that let
somebody pass who was named at a checkpoint are a matching bypass group, the
root account and a plain consent of the authority.
-/

open Interaction

variable {σ ε : Type}

/-- What the answers of the authority lead to, when it is asked about an account in a world. -/
inductive AuthorityVerdict (gate : Gate σ ε) (account : String) (world : World σ) :
    (allowed : Bool) → Basis → Prop where
  | unreachable {failure : AuthorityError} :
      (gate.opening world).answer = .error failure →
      AuthorityVerdict gate account world false (.transportFailure failure.message)
  | failed {failure : AuthorityError} :
      (gate.opening world).answer = .ok () →
      (gate.questioning account world).answer = .error failure →
      AuthorityVerdict gate account world false (.transportFailure failure.message)
  | noArguments :
      (gate.opening world).answer = .ok () →
      (gate.questioning account world).answer = .ok .noArguments →
      AuthorityVerdict gate account world false
        (.transportFailure AuthorityError.noArguments.message)
  | unexpectedType {signature : String} :
      (gate.opening world).answer = .ok () →
      (gate.questioning account world).answer = .ok (.other signature) →
      AuthorityVerdict gate account world false
        (.transportFailure (AuthorityError.unexpectedType signature).message)
  | denied :
      (gate.opening world).answer = .ok () →
      (gate.questioning account world).answer = .ok (.boolean false) →
      AuthorityVerdict gate account world false .authorityDenied
  | allowed :
      (gate.opening world).answer = .ok () →
      (gate.questioning account world).answer = .ok (.boolean true) →
      AuthorityVerdict gate account world true .authorityAllowed

/--
What the answers in a world lead to at a checkpoint that exempt accounts pass by
themselves. Bypass groups come before the root account, and both before the
authority, which is asked in the world that the look-ups left.
-/
inductive LoginVerdict (gate : Gate σ ε) (world : World σ) :
    Option String → (allowed : Bool) → Basis → Prop where
  | missing :
      LoginVerdict gate world none false .noAccount
  | empty :
      LoginVerdict gate world (some "") false .noAccount
  | member {account group : String} :
      account ≠ "" →
      gate.database.Belongs gate.configuration.bypass.groups account world.outside group →
      LoginVerdict gate world (some account) true (.bypassGroup group)
  | root {account : String} :
      account ≠ "" →
      (∀ group, ¬ gate.database.Belongs gate.configuration.bypass.groups account
        world.outside group) →
      account = gate.configuration.bypass.rootAccount →
      LoginVerdict gate world (some account) true .rootAccount
  | asked {account : String} {allowed : Bool} {basis : Basis} :
      account ≠ "" →
      (∀ group, ¬ gate.database.Belongs gate.configuration.bypass.groups account
        world.outside group) →
      account ≠ gate.configuration.bypass.rootAccount →
      AuthorityVerdict gate account (gate.worldBehindLookups world account) allowed basis →
      LoginVerdict gate world (some account) allowed basis

/-- What the answers in a world lead to at the checkpoint where nobody is exempt. -/
inductive StrictVerdict (gate : Gate σ ε) (world : World σ) :
    Option String → (allowed : Bool) → Basis → Prop where
  | missing :
      StrictVerdict gate world none false .noAccount
  | empty :
      StrictVerdict gate world (some "") false .noAccount
  | asked {account : String} {allowed : Bool} {basis : Basis} :
      account ≠ "" →
      AuthorityVerdict gate account world allowed basis →
      StrictVerdict gate world (some account) allowed basis

/-- What the host is told at each checkpoint, and what a decision there rests on. -/
inductive CheckpointVerdict (gate : Gate σ ε) (world : World σ) :
    Phase → Option String → Outcome → Option Basis → Prop where
  | authenticate {named : Option String} {allowed : Bool} {basis : Basis} :
      LoginVerdict gate world named allowed basis →
      CheckpointVerdict gate world .authenticate named (.ofAllowed allowed) (some basis)
  | accountManagement {named : Option String} {allowed : Bool} {basis : Basis} :
      LoginVerdict gate world named allowed basis →
      CheckpointVerdict gate world .accountManagement named (.ofAllowed allowed) (some basis)
  | openSession {named : Option String} {allowed : Bool} {basis : Basis} :
      StrictVerdict gate world named allowed basis →
      CheckpointVerdict gate world .openSession named (.ofAllowed allowed) (some basis)
  | setCredentials {named : Option String} :
      CheckpointVerdict gate world .setCredentials named .noOp none
  | nobodyLeft {named : Option String} :
      named = none ∨ named = some "" →
      CheckpointVerdict gate world .closeSession named .noOp none
  | unreachable {account : String} {failure : AuthorityError} :
      account ≠ "" →
      (gate.opening world).answer = .error failure →
      CheckpointVerdict gate world .closeSession (some account) .failureIgnored none
  | unsent {account : String} {failure : AuthorityError} :
      account ≠ "" →
      (gate.opening world).answer = .ok () →
      (gate.notifying account world).answer = .error failure →
      CheckpointVerdict gate world .closeSession (some account) .failureIgnored none
  | announced {account : String} :
      account ≠ "" →
      (gate.opening world).answer = .ok () →
      (gate.notifying account world).answer = .ok () →
      CheckpointVerdict gate world .closeSession (some account) .allow none

/-- An account that is not empty is present. -/
theorem presentAccount_of_ne {account : String} (notEmpty : account ≠ "") :
    presentAccount (some account) = some account :=
  (presentAccount_eq_some_iff _ _).mpr ⟨rfl, notEmpty⟩

/-- Nobody is present exactly when the name is missing or empty. -/
theorem presentAccount_eq_none_iff (named : Option String) :
    presentAccount named = none ↔ named = none ∨ named = some "" := by
  cases named <;> simp [presentAccount]

namespace Gate

variable (gate : Gate σ ε) (phase : Phase) (named : Option String) (world : World σ)

/-- What the decision rests on that is made at a checkpoint, if one is made there. -/
def basis? : Option Basis :=
  match phase with
  | .authenticate =>
      some (run (gate.decideWithExemptions .authenticate named) world).answer.basis
  | .accountManagement =>
      some (run (gate.decideWithExemptions .accountManagement named) world).answer.basis
  | .openSession =>
      some (run (gate.decideStrictly .openSession named) world).answer.basis
  | .setCredentials =>
      none
  | .closeSession =>
      none

variable {gate phase named world}

/-- A question to the authority is decided as the authority's answers say. -/
theorem answer_askAuthority_of_verdict
    {account : String}
    {allowed : Bool}
    {basis : Basis}
    (verdict : AuthorityVerdict gate account world allowed basis) :
    (run (gate.askAuthority phase account) world).answer = ⟨phase, allowed, basis⟩ := by
  rw [run_askAuthority]
  cases verdict with
  | unreachable refused =>
      rw [gate.run_queryAuthority_of_refused account refused]
      rfl
  | failed accepted answered =>
      rw [gate.run_queryAuthority_of_accepted account accepted, answered]
      rfl
  | noArguments accepted answered =>
      rw [gate.run_queryAuthority_of_accepted account accepted, answered]
      rfl
  | unexpectedType accepted answered =>
      rw [gate.run_queryAuthority_of_accepted account accepted, answered]
      rfl
  | denied accepted answered =>
      rw [gate.run_queryAuthority_of_accepted account accepted, answered]
      rfl
  | allowed accepted answered =>
      rw [gate.run_queryAuthority_of_accepted account accepted, answered]
      rfl

/-- Whatever the authority answers leads to a verdict. -/
theorem exists_authorityVerdict (gate : Gate σ ε) (account : String) (world : World σ) :
    ∃ allowed basis, AuthorityVerdict gate account world allowed basis := by
  cases accepted : (gate.opening world).answer with
  | error failure =>
      exact ⟨_, _, .unreachable accepted⟩
  | ok _ =>
      cases answered : (gate.questioning account world).answer with
      | error failure =>
          exact ⟨_, _, .failed accepted answered⟩
      | ok reply =>
          cases reply with
          | noArguments =>
              exact ⟨_, _, .noArguments accepted answered⟩
          | other signature =>
              exact ⟨_, _, .unexpectedType accepted answered⟩
          | boolean consent =>
              cases consent with
              | false =>
                  exact ⟨_, _, .denied accepted answered⟩
              | true =>
                  exact ⟨_, _, .allowed accepted answered⟩

/-- An account that is neither member nor root is decided by the authority alone. -/
theorem answer_decideWithExemptions_of_asked
    {account : String}
    (notEmpty : account ≠ "")
    (noMember :
      ∀ group, ¬ gate.database.Belongs gate.configuration.bypass.groups account
        world.outside group)
    (notRoot : account ≠ gate.configuration.bypass.rootAccount) :
    (run (gate.decideWithExemptions phase (some account)) world).answer =
      (run (gate.askAuthority phase account) (gate.worldBehindLookups world account)).answer := by
  have present := presentAccount_of_ne notEmpty
  have notExempt := (gate.database.not_exempt_iff ..).mpr ⟨notRoot, noMember⟩
  cases looked : (gate.lookingUp world account).answer with
  | error failure =>
      rw [gate.run_decideWithExemptions_of_failure phase world present looked]
  | ok found =>
      cases found with
      | none =>
          rw [gate.run_decideWithExemptions_of_stranger phase world present looked]
      | some exemption =>
          exact (notExempt exemption looked).elim

/-- The checkpoint with exemptions is decided as the answers say. -/
theorem answer_decideWithExemptions_of_verdict
    {allowed : Bool}
    {basis : Basis}
    (verdict : LoginVerdict gate world named allowed basis) :
    (run (gate.decideWithExemptions phase named) world).answer = ⟨phase, allowed, basis⟩ := by
  cases verdict with
  | missing =>
      rw [gate.run_decideWithExemptions_of_nobody phase world rfl]
  | empty =>
      rw [gate.run_decideWithExemptions_of_nobody phase world rfl]
  | member notEmpty belongs =>
      have exempt := (gate.database.answer_exemption_eq_bypassGroup_iff ..).mpr belongs
      rw [gate.run_decideWithExemptions_of_exempt phase world
        (presentAccount_of_ne notEmpty) exempt]
      rfl
  | root notEmpty noMember isRoot =>
      have exempt :=
        (gate.database.answer_exemption_eq_rootAccount_iff ..).mpr ⟨isRoot, noMember⟩
      rw [gate.run_decideWithExemptions_of_exempt phase world
        (presentAccount_of_ne notEmpty) exempt]
      rfl
  | asked notEmpty noMember notRoot verdict =>
      rw [answer_decideWithExemptions_of_asked notEmpty noMember notRoot]
      exact answer_askAuthority_of_verdict verdict

/-- Whatever is answered at a checkpoint with exemptions leads to a verdict. -/
theorem exists_loginVerdict (gate : Gate σ ε) (named : Option String) (world : World σ) :
    ∃ allowed basis, LoginVerdict gate world named allowed basis := by
  cases named with
  | none =>
      exact ⟨_, _, .missing⟩
  | some account =>
      by_cases notEmpty : account = ""
      · subst notEmpty
        exact ⟨_, _, .empty⟩
      · by_cases member :
            ∃ group, gate.database.Belongs gate.configuration.bypass.groups account
              world.outside group
        · obtain ⟨group, belongs⟩ := member
          exact ⟨_, _, .member notEmpty belongs⟩
        · have noMember := not_exists.mp member
          by_cases isRoot : account = gate.configuration.bypass.rootAccount
          · exact ⟨_, _, .root notEmpty noMember isRoot⟩
          · obtain ⟨allowed, basis, verdict⟩ :=
              exists_authorityVerdict gate account (gate.worldBehindLookups world account)
            exact ⟨allowed, basis, .asked notEmpty noMember isRoot verdict⟩

/-- The strict checkpoint is decided as the answers say. -/
theorem answer_decideStrictly_of_verdict
    {allowed : Bool}
    {basis : Basis}
    (verdict : StrictVerdict gate world named allowed basis) :
    (run (gate.decideStrictly phase named) world).answer = ⟨phase, allowed, basis⟩ := by
  cases verdict with
  | missing =>
      rw [gate.run_decideStrictly_of_nobody phase world rfl]
  | empty =>
      rw [gate.run_decideStrictly_of_nobody phase world rfl]
  | asked notEmpty verdict =>
      rw [gate.run_decideStrictly_of_present phase world (presentAccount_of_ne notEmpty)]
      exact answer_askAuthority_of_verdict verdict

/-- Whatever is answered at the strict checkpoint leads to a verdict. -/
theorem exists_strictVerdict (gate : Gate σ ε) (named : Option String) (world : World σ) :
    ∃ allowed basis, StrictVerdict gate world named allowed basis := by
  cases named with
  | none =>
      exact ⟨_, _, .missing⟩
  | some account =>
      by_cases notEmpty : account = ""
      · subst notEmpty
        exact ⟨_, _, .empty⟩
      · obtain ⟨allowed, basis, verdict⟩ := exists_authorityVerdict gate account world
        exact ⟨allowed, basis, .asked notEmpty verdict⟩

/-- The end of a session is answered as the authority's answers say. -/
theorem answer_announceSessionEnd_of_verdict
    {outcome : Outcome}
    {basis : Option Basis}
    (verdict : CheckpointVerdict gate world .closeSession named outcome basis) :
    (run (gate.announceSessionEnd named) world).answer = outcome ∧ basis = none := by
  cases verdict with
  | nobodyLeft nobody =>
      rw [gate.run_announceSessionEnd_of_nobody ((presentAccount_eq_none_iff _).mpr nobody)]
      exact ⟨rfl, rfl⟩
  | unreachable notEmpty refused =>
      rw [gate.run_announceSessionEnd_of_refused _ (presentAccount_of_ne notEmpty) refused]
      exact ⟨rfl, rfl⟩
  | unsent notEmpty accepted failed =>
      rw [gate.run_announceSessionEnd_of_accepted _ (presentAccount_of_ne notEmpty) accepted,
        failed]
      exact ⟨rfl, rfl⟩
  | announced notEmpty accepted sent =>
      rw [gate.run_announceSessionEnd_of_accepted _ (presentAccount_of_ne notEmpty) accepted,
        sent]
      exact ⟨rfl, rfl⟩

/-- Whatever is answered at the end of a session leads to an outcome. -/
theorem exists_sessionEndVerdict (gate : Gate σ ε) (named : Option String) (world : World σ) :
    ∃ outcome, CheckpointVerdict gate world .closeSession named outcome none := by
  cases present : presentAccount named with
  | none =>
      exact ⟨_, .nobodyLeft ((presentAccount_eq_none_iff _).mp present)⟩
  | some account =>
      obtain ⟨rfl, notEmpty⟩ := (presentAccount_eq_some_iff _ _).mp present
      cases accepted : (gate.opening world).answer with
      | error failure =>
          exact ⟨_, .unreachable notEmpty accepted⟩
      | ok _ =>
          cases sent : (gate.notifying account world).answer with
          | error failure =>
              exact ⟨_, .unsent notEmpty accepted sent⟩
          | ok _ =>
              exact ⟨_, .announced notEmpty accepted sent⟩

/-- A row of the table that applies is what the host is told. -/
theorem answer_of_checkpointVerdict
    {outcome : Outcome}
    {basis : Option Basis}
    (verdict : CheckpointVerdict gate world phase named outcome basis) :
    (run (gate.answer phase named) world).answer = outcome ∧
      gate.basis? phase named world = basis := by
  cases phase with
  | authenticate =>
      cases verdict with
      | authenticate verdict =>
          have decided :
              (run (gate.decideWithExemptions .authenticate named) world).answer =
                ⟨.authenticate, _, _⟩ :=
            answer_decideWithExemptions_of_verdict verdict
          simp [answer, basis?, decided, Decision.outcome]
  | setCredentials =>
      cases verdict with
      | setCredentials =>
          exact ⟨rfl, rfl⟩
  | accountManagement =>
      cases verdict with
      | accountManagement verdict =>
          have decided :
              (run (gate.decideWithExemptions .accountManagement named) world).answer =
                ⟨.accountManagement, _, _⟩ :=
            answer_decideWithExemptions_of_verdict verdict
          simp [answer, basis?, decided, Decision.outcome]
  | openSession =>
      cases verdict with
      | openSession verdict =>
          have decided :
              (run (gate.decideStrictly .openSession named) world).answer =
                ⟨.openSession, _, _⟩ :=
            answer_decideStrictly_of_verdict verdict
          simp [answer, basis?, decided, Decision.outcome]
  | closeSession =>
      obtain ⟨told, noBasis⟩ := answer_announceSessionEnd_of_verdict verdict
      exact ⟨told, noBasis.symm⟩

/-- Some row of the table applies to every question. -/
theorem exists_checkpointVerdict
    (gate : Gate σ ε)
    (phase : Phase)
    (named : Option String)
    (world : World σ) :
    ∃ outcome basis, CheckpointVerdict gate world phase named outcome basis := by
  cases phase with
  | authenticate =>
      obtain ⟨_, _, verdict⟩ := exists_loginVerdict gate named world
      exact ⟨_, _, .authenticate verdict⟩
  | setCredentials =>
      exact ⟨_, _, .setCredentials⟩
  | accountManagement =>
      obtain ⟨_, _, verdict⟩ := exists_loginVerdict gate named world
      exact ⟨_, _, .accountManagement verdict⟩
  | openSession =>
      obtain ⟨_, _, verdict⟩ := exists_strictVerdict gate named world
      exact ⟨_, _, .openSession verdict⟩
  | closeSession =>
      obtain ⟨_, verdict⟩ := exists_sessionEndVerdict gate named world
      exact ⟨_, _, verdict⟩

end Gate

end LoginGate
