import LoginGate.Identity.Exemption

namespace LoginGate

/-!
# Which group lists are asked for

A search asks for group lists only while it reads the groups of the account. What it
asks about bypass groups behind that adds no attempt.
-/

open Interaction

variable {σ ε α : Type}

/-- A question for a group list. -/
def IdentityCall.isFill : IdentityCall → Bool
  | .fillGroupList _ _ _ =>
      true
  | _ =>
      false

/-- How often a run asked for a group list. -/
def Report.fills (report : Report σ (Effect ε) α) : Nat :=
  report.identityCalls.countP IdentityCall.isFill

/-- The attempts at group lists that a run made, in order. -/
def Report.attempts (report : Report σ (Effect ε) α) : List IdentityCall :=
  report.identityCalls.filter IdentityCall.isFill

theorem attempts_bind
    {β : Type}
    (first : Interaction σ (Effect ε) α)
    (next : α → Interaction σ (Effect ε) β)
    (world : σ) :
    (run (first >>= next) world).attempts =
      (run first world).attempts ++
        (run (next (run first world).answer) (run first world).world).attempts := by
  rw [run_bind, Report.attempts, Report.identityCalls, History.identityCalls_append,
    List.filter_append]
  rfl

/-- What a host does by itself is no attempt of the gate. -/
theorem attempts_ofHost (interaction : Interaction σ ε α) (world : σ) :
    (run interaction.ofHost world).attempts = [] := by
  rw [run_ofHost, Report.attempts, Report.identityCalls, History.identityCalls_host]
  rfl

namespace IdentityDatabase

variable (database : IdentityDatabase σ ε) (account : String)

theorem attempts_askGroupId (group : String) (world : σ) :
    (run (database.askGroupId group) world).attempts = [] := by
  unfold askGroupId
  rw [attempts_bind, attempts_ofHost]
  rfl

/-- Behind the membership nothing is asked about group lists. -/
theorem attempts_firstGroupOf (membership : Membership) (names : List String) (world : σ) :
    (run (database.firstGroupOf membership names) world).attempts = [] := by
  induction names generalizing world with
  | nil =>
      rfl
  | cons name rest inductionHypothesis =>
      unfold firstGroupOf
      rw [attempts_bind, attempts_askGroupId, List.nil_append]
      split
      · split
        · rfl
        · exact inductionHypothesis _
      · exact inductionHypothesis _
      · rw [attempts_bind]
        exact inductionHypothesis _

theorem attempts_bypassGroupOf (groups : List String) (world : σ) :
    (run (database.bypassGroupOf groups account) world).attempts =
      (run (database.membership account) world).attempts := by
  unfold bypassGroupOf
  rw [attempts_bind]
  cases (run (database.membership account) world).answer with
  | error failure =>
      exact List.append_nil _
  | ok known =>
      cases known with
      | none =>
          exact List.append_nil _
      | some membership =>
          dsimp only
          rw [attempts_bind, attempts_firstGroupOf]
          exact List.append_nil _

theorem attempts_exemption (rules : BypassRules) (world : σ) :
    (run (database.exemption rules account) world).attempts =
      (run (database.membership account) world).attempts := by
  unfold exemption
  rw [attempts_bind, attempts_bypassGroupOf]
  exact List.append_nil _

theorem attempts_isExempt (rules : BypassRules) (world : σ) :
    (run (database.isExempt rules account) world).attempts =
      (run (database.membership account) world).attempts := by
  unfold isExempt
  rw [attempts_bind, attempts_exemption]
  split <;> exact List.append_nil _

variable {database account}

/-- Nothing is asked about an account that nobody has but whether anybody has it. -/
theorem membership_of_absent
    (isAbsent : ∀ world, (run (database.primaryGroup account) world).answer = .ok none) :
    database.membership account =
      database.askPrimaryGroup account >>= fun _ => pure (.ok none) := by
  apply ext_run
  intro world
  have answered : (run (database.askPrimaryGroup account) world).answer = .ok none :=
    isAbsent world
  unfold membership
  rw [run_bind, run_bind, answered]

end IdentityDatabase

end LoginGate
