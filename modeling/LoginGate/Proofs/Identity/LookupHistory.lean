import LoginGate.Proofs.Authority.Recorded

namespace LoginGate

/-!
# The history of look-ups

The search for an exemption asks about the account and about bypass groups. It
has no dealings with the authority and records no event.
-/

open Interaction

variable {σ ε : Type}

/-- A look-up is about an account, or about one of the bypass groups. -/
def IdentityCall.Concerns (account : String) (groups : List String) : IdentityCall → Prop
  | .primaryGroup named =>
      named = account
  | .fillGroupList named _ _ =>
      named = account
  | .groupId group =>
      group ∈ groups

/-- A history of look-ups about an account, which deals with no authority and records no event. -/
structure History.LooksUp
    (account : String)
    (groups : List String)
    (history : History (Recorded ε)) : Prop where
  contacts :
    ∃ calls : List IdentityCall,
      history.contacts = calls.map .lookup ∧ ∀ call ∈ calls, call.Concerns account groups
  events : history.events = []

namespace History.LooksUp

variable {account : String} {groups : List String} {first second : History (Recorded ε)}

theorem nothing : LooksUp account groups ([] : History (Recorded ε)) :=
  ⟨⟨[], rfl, by simp⟩, rfl⟩

theorem append
    (firstLooksUp : LooksUp account groups first)
    (secondLooksUp : LooksUp account groups second) :
    LooksUp account groups (first ++ second) := by
  obtain ⟨⟨firstCalls, firstContacts, firstConcern⟩, firstSilent⟩ := firstLooksUp
  obtain ⟨⟨secondCalls, secondContacts, secondConcern⟩, secondSilent⟩ := secondLooksUp
  refine ⟨⟨firstCalls ++ secondCalls, ?_, ?_⟩, ?_⟩
  · rw [contacts_append, firstContacts, secondContacts, List.map_append]
  · intro call isMember
    exact (List.mem_append.mp isMember).elim (firstConcern call) (secondConcern call)
  · rw [events_append, firstSilent, secondSilent]
    rfl

theorem note {made : Note} : LooksUp account groups ([.note made] : History (Recorded ε)) :=
  ⟨⟨[], rfl, by simp⟩, rfl⟩

/-- One question to the database, with what the database does by itself. -/
theorem lookup
    {call : IdentityCall}
    {effects : List ε}
    (concerns : call.Concerns account groups) :
    LooksUp account groups
      ([.identity call] ++ (effects.map Sum.inl).map Effect.host : History (Recorded ε)) := by
  refine ⟨⟨[call], ?_, by simpa using concerns⟩, ?_⟩
  · rw [contacts_append, List.map_map, contacts_own]
    rfl
  · rw [events_append, events_host]
    rfl

end History.LooksUp

namespace IdentityDatabase

variable (database : IdentityDatabase σ ε) (account : String) {groups : List String}

theorem looksUp_readGroupList (primary : GroupId) (attempts capacity : Nat) (world : σ) :
    History.LooksUp account groups
      (run (database.recorded.readGroupList account primary attempts capacity) world).effects := by
  induction attempts generalizing capacity world with
  | zero =>
      exact .nothing
  | succ attempts inductionHypothesis =>
      have asked :
          History.LooksUp account groups
            (run (database.recorded.askGroupList account primary capacity) world).effects := by
        simp only [askGroupList, recorded, run_bind, run_perform, run_ofHost, run_unrecorded]
        exact .lookup rfl
      unfold readGroupList
      rw [run_bind]
      refine asked.append ?_
      rcases (run (database.recorded.askGroupList account primary capacity) world).answer with
        ⟨answer, buffer⟩
      cases answer with
      | error failure =>
          exact .nothing
      | ok fill =>
          cases fill with
          | complete count =>
              exact .nothing
          | insufficient required =>
              dsimp only
              split
              · exact .nothing
              · rw [run_bind]
                exact History.LooksUp.note.append (inductionHypothesis _ _)

theorem looksUp_membership (world : σ) :
    History.LooksUp account groups
      (run (database.recorded.membership account) world).effects := by
  have asked :
      History.LooksUp account groups
        (run (database.recorded.askPrimaryGroup account) world).effects := by
    simp only [askPrimaryGroup, recorded, run_bind, run_perform, run_ofHost, run_unrecorded]
    exact .lookup rfl
  unfold membership
  rw [run_bind]
  refine asked.append ?_
  cases (run (database.recorded.askPrimaryGroup account) world).answer with
  | error failure =>
      exact .nothing
  | ok known =>
      cases known with
      | none =>
          exact .nothing
      | some primary =>
          dsimp only
          rw [run_bind]
          refine (database.looksUp_readGroupList account primary _ _ _).append ?_
          split <;> exact .nothing

theorem looksUp_firstGroupOf
    (membership : Membership)
    {names : List String}
    (areGroups : ∀ name ∈ names, name ∈ groups)
    (world : σ) :
    History.LooksUp account groups
      (run (database.recorded.firstGroupOf membership names) world).effects := by
  induction names generalizing world with
  | nil =>
      exact .nothing
  | cons name rest inductionHypothesis =>
      have restAreGroups : ∀ name ∈ rest, name ∈ groups :=
        fun later isLater => areGroups later (List.mem_cons_of_mem _ isLater)
      have asked :
          History.LooksUp account groups
            (run (database.recorded.askGroupId name) world).effects := by
        simp only [askGroupId, recorded, run_bind, run_perform, run_ofHost, run_unrecorded]
        exact .lookup (areGroups name List.mem_cons_self)
      unfold firstGroupOf
      rw [run_bind]
      refine asked.append ?_
      cases (run (database.recorded.askGroupId name) world).answer with
      | error failure =>
          dsimp only
          rw [run_bind]
          exact History.LooksUp.note.append (inductionHypothesis restAreGroups _)
      | ok found =>
          cases found with
          | none =>
              exact inductionHypothesis restAreGroups _
          | some group =>
              dsimp only
              split
              · exact .nothing
              · exact inductionHypothesis restAreGroups _

/-- The search for an exemption is made of look-ups about the account. -/
theorem looksUp_exemption (rules : BypassRules) (world : σ) :
    History.LooksUp account rules.groups
      (run (database.recorded.exemption rules account) world).effects := by
  unfold exemption bypassGroupOf
  rw [run_bind, run_bind]
  refine ((database.looksUp_membership account world).append ?_).append .nothing
  cases (run (database.recorded.membership account) world).answer with
  | error failure =>
      exact .nothing
  | ok known =>
      cases known with
      | none =>
          exact .nothing
      | some membership =>
          dsimp only
          rw [run_bind]
          refine (database.looksUp_firstGroupOf account membership ?_ _).append .nothing
          exact fun _ isMember => isMember

end IdentityDatabase

end LoginGate
