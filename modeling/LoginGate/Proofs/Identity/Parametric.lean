import LoginGate.Proofs.Identity.Attempt

namespace LoginGate

/-!
# Relations that searches respect

The searches of the gate are questions to its database and notes, one after the
other. A relation between computations that sequences and notes keep, and in
which the questions to two databases stand, is therefore a relation between all
searches over the two.
-/

open Interaction

variable {σ τ ε φ : Type}

/-- A relation between computations that immediate answers, sequences and notes keep. -/
structure Interaction.Sequential
    (related :
      (α : Type) → Interaction σ (Effect ε) α → Interaction τ (Effect φ) α → Prop) : Prop where
  pure :
    ∀ {α : Type} (answer : α), related α (Pure.pure answer) (Pure.pure answer)
  bind :
    ∀ {α β : Type}
      {first : Interaction σ (Effect ε) α}
      {second : Interaction τ (Effect φ) α}
      {firstNext : α → Interaction σ (Effect ε) β}
      {secondNext : α → Interaction τ (Effect φ) β},
      related α first second →
      (∀ answer, related β (firstNext answer) (secondNext answer)) →
      related β (first >>= firstNext) (second >>= secondNext)
  note :
    ∀ made, related Unit (perform (.note made)) (perform (.note made))

namespace IdentityDatabase

/--
The questions about an account, and those about groups, stand in a relation. No
search makes an attempt with a larger buffer than is ever tried.
-/
structure Asked
    (related : (α : Type) → Interaction σ (Effect ε) α → Interaction τ (Effect φ) α → Prop)
    (first : IdentityDatabase σ ε)
    (second : IdentityDatabase τ φ)
    (account : String) : Prop where
  primaryGroup :
    related _ (first.askPrimaryGroup account) (second.askPrimaryGroup account)
  attempt :
    ∀ primary capacity,
      capacity ≤ maxGroupCapacity →
      related _ (first.askAttempt account primary capacity)
        (second.askAttempt account primary capacity)
  groupId :
    ∀ group, related _ (first.askGroupId group) (second.askGroupId group)

section Searches

variable {related : (α : Type) → Interaction σ (Effect ε) α → Interaction τ (Effect φ) α → Prop}
variable {first : IdentityDatabase σ ε} {second : IdentityDatabase τ φ}
variable (sequential : Sequential related)
variable {account : String}

include sequential

theorem related_readGroupList
    (asked : Asked related first second account)
    (primary : GroupId)
    (attempts : Nat)
    {capacity : Nat}
    (isTried : capacity ≤ maxGroupCapacity) :
    related _ (first.readGroupList account primary attempts capacity)
      (second.readGroupList account primary attempts capacity) := by
  -- Each attempt that is left may have a larger buffer than the one before it.
  induction attempts generalizing capacity with
  | zero =>
      exact sequential.pure _
  | succ attempts inductionHypothesis =>
      rw [readGroupList_succ, readGroupList_succ]
      refine sequential.bind (asked.attempt primary capacity isTried) ?_
      intro told
      cases told with
      | error failure =>
          exact sequential.pure _
      | ok reading =>
          cases reading with
          | whole entries =>
              exact sequential.pure _
          | insufficient required =>
              unfold behindAttempt
              dsimp only
              split
              · exact sequential.pure _
              · rename_i isTriedNext
                exact sequential.bind (sequential.note _) fun _ =>
                  inductionHypothesis (Nat.not_lt.mp isTriedNext)

theorem related_membership (asked : Asked related first second account) :
    related _ (first.membership account) (second.membership account) := by
  refine sequential.bind asked.primaryGroup ?_
  intro answer
  cases answer with
  | error failure =>
      exact sequential.pure _
  | ok known =>
      cases known with
      | none =>
          exact sequential.pure _
      | some primary =>
          refine sequential.bind
            (related_readGroupList sequential asked primary _ (by decide)) ?_
          intro listed
          cases listed <;> exact sequential.pure _

section Memberships

variable (read : related _ (first.membership account) (second.membership account))
variable (groupId : ∀ group, related _ (first.askGroupId group) (second.askGroupId group))

include groupId

theorem related_firstGroupOf (membership : Membership) (names : List String) :
    related _ (first.firstGroupOf membership names) (second.firstGroupOf membership names) := by
  induction names with
  | nil =>
      exact sequential.pure _
  | cons name rest inductionHypothesis =>
      refine sequential.bind (groupId name) ?_
      intro answer
      cases answer with
      | error failure =>
          exact sequential.bind (sequential.note _) fun _ => inductionHypothesis
      | ok found =>
          cases found with
          | none =>
              exact inductionHypothesis
          | some group =>
              dsimp only
              split
              · exact sequential.pure _
              · exact inductionHypothesis

include read

/-- Behind the membership, a search asks about groups alone. -/
theorem related_bypassGroupOf (groups : List String) :
    related _ (first.bypassGroupOf groups account) (second.bypassGroupOf groups account) := by
  refine sequential.bind read ?_
  intro answer
  cases answer with
  | error failure =>
      exact sequential.pure _
  | ok known =>
      cases known with
      | none =>
          exact sequential.pure _
      | some membership =>
          exact sequential.bind
            (related_firstGroupOf sequential groupId membership groups) fun _ =>
              sequential.pure _

/-- The whole search for an exemption stands in every such relation. -/
theorem related_exemption (rules : BypassRules) :
    related _ (first.exemption rules account) (second.exemption rules account) :=
  sequential.bind (related_bypassGroupOf sequential read groupId rules.groups) fun _ =>
    sequential.pure _

theorem related_isExempt (rules : BypassRules) :
    related _ (first.isExempt rules account) (second.isExempt rules account) := by
  refine sequential.bind (related_exemption sequential read groupId rules) ?_
  intro found
  cases found with
  | error failure =>
      exact sequential.pure _
  | ok exemption =>
      cases exemption <;> exact sequential.pure _

end Memberships

end Searches

end IdentityDatabase

end LoginGate
