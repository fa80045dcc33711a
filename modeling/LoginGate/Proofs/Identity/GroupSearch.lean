import LoginGate.Identity.Exemption

namespace LoginGate

/-!
# Which exemption is found

A database may answer differently every time, so what the search for a bypass
group finds depends on the world in which each name is looked up: the world that
the look-ups in front of it left behind. In these terms the search finds the
first name whose look-up gives a group of the account, and nothing else.
-/

namespace IdentityDatabase

open Interaction

variable {σ ε : Type}

/-- The world after groups were looked up one after the other. -/
def worldBehind (database : IdentityDatabase σ ε) : List String → σ → σ
  | [], world =>
      world
  | name :: rest, world =>
      database.worldBehind rest (run (database.groupId name) world).world

/--
The look-up of the name at an index, in the world behind all names in front of
it, gives the primary or a supplementary group of a membership.
-/
def MatchesAt
    (database : IdentityDatabase σ ε)
    (membership : Membership)
    (names : List String)
    (world : σ)
    (index : Nat) : Prop :=
  ∃ name group,
    names[index]? = some name ∧
      (run (database.groupId name)
        (database.worldBehind (names.take index) world)).answer = .ok (some group) ∧
      (group = membership.primary ∨ group ∈ membership.supplementary)

/-- A name stands at the first index whose look-up gives a group of a membership. -/
def FirstMatch
    (database : IdentityDatabase σ ε)
    (membership : Membership)
    (names : List String)
    (world : σ)
    (found : String) : Prop :=
  ∃ index,
    names[index]? = some found ∧
      database.MatchesAt membership names world index ∧
      ∀ earlier < index, ¬ database.MatchesAt membership names world earlier

/--
The database gives an account a primary group and a whole group list, and then
`group` is the first of the named groups that is one of these.
-/
def Belongs
    (database : IdentityDatabase σ ε)
    (names : List String)
    (account : String)
    (world : σ)
    (group : String) : Prop :=
  ∃ primary supplementary,
    (run (database.primaryGroup account) world).answer = .ok (some primary) ∧
      (run (database.groupList account primary)
        (run (database.primaryGroup account) world).world).answer = .ok supplementary ∧
      database.FirstMatch ⟨primary, supplementary⟩ names
        (run (database.groupList account primary)
          (run (database.primaryGroup account) world).world).world group

/-- Whether the first name matches depends on its own look-up alone. -/
theorem matchesAt_zero
    (database : IdentityDatabase σ ε)
    (membership : Membership)
    (name : String)
    (rest : List String)
    (world : σ) :
    database.MatchesAt membership (name :: rest) world 0 ↔
      ∃ group,
        (run (database.groupId name) world).answer = .ok (some group) ∧
          membership.contains group = true := by
  simp only [Membership.contains_iff]
  constructor
  · rintro ⟨_, group, atZero, answered, isOwn⟩
    obtain rfl : name = _ := by
      simpa using atZero
    exact ⟨group, answered, isOwn.imp Eq.symm id⟩
  · rintro ⟨group, answered, isOwn⟩
    exact ⟨name, group, rfl, answered, isOwn.imp Eq.symm id⟩

/-- A later name is looked up in the world that the first look-up left. -/
theorem matchesAt_succ
    (database : IdentityDatabase σ ε)
    (membership : Membership)
    (name : String)
    (rest : List String)
    (world : σ)
    (index : Nat) :
    database.MatchesAt membership (name :: rest) world (index + 1) ↔
      database.MatchesAt membership rest
        (run (database.groupId name) world).world index := by
  simp [MatchesAt, worldBehind]

/-- Among no names there is no match. -/
theorem not_firstMatch_nil
    (database : IdentityDatabase σ ε)
    (membership : Membership)
    (world : σ)
    (found : String) :
    ¬ database.FirstMatch membership [] world found := by
  rintro ⟨index, atIndex, _⟩
  simp at atIndex

/-- A first name that matches is the first match. -/
theorem firstMatch_cons_of_match
    {database : IdentityDatabase σ ε}
    {membership : Membership}
    {name : String}
    {rest : List String}
    {world : σ}
    (headMatches : database.MatchesAt membership (name :: rest) world 0)
    (found : String) :
    database.FirstMatch membership (name :: rest) world found ↔ name = found := by
  constructor
  · rintro ⟨index, atIndex, _, noneBefore⟩
    cases index with
    | zero =>
        simpa using atIndex
    | succ index =>
        exact (noneBefore 0 (Nat.zero_lt_succ index) headMatches).elim
  · intro same
    exact ⟨0, by simp [same], headMatches, by simp⟩

/-- A first name that does not match leaves the search to the names behind it. -/
theorem firstMatch_cons_of_not_match
    {database : IdentityDatabase σ ε}
    {membership : Membership}
    {name : String}
    {rest : List String}
    {world : σ}
    (headFails : ¬ database.MatchesAt membership (name :: rest) world 0)
    (found : String) :
    database.FirstMatch membership (name :: rest) world found ↔
      database.FirstMatch membership rest
        (run (database.groupId name) world).world found := by
  constructor
  · rintro ⟨index, atIndex, indexMatches, noneBefore⟩
    cases index with
    | zero =>
        exact (headFails indexMatches).elim
    | succ index =>
        refine ⟨index, by simpa using atIndex,
          (matchesAt_succ ..).mp indexMatches, ?_⟩
        intro earlier isEarlier earlierMatches
        exact noneBefore (earlier + 1) (Nat.succ_lt_succ isEarlier)
          ((matchesAt_succ ..).mpr earlierMatches)
  · rintro ⟨index, atIndex, indexMatches, noneBefore⟩
    refine ⟨index + 1, by simpa using atIndex,
      (matchesAt_succ ..).mpr indexMatches, ?_⟩
    intro earlier isEarlier earlierMatches
    cases earlier with
    | zero =>
        exact headFails earlierMatches
    | succ earlier =>
        exact noneBefore earlier (Nat.lt_of_succ_lt_succ isEarlier)
          ((matchesAt_succ ..).mp earlierMatches)

/-- The search ends at a first name that matches. -/
theorem answer_firstGroupOf_of_match
    {database : IdentityDatabase σ ε}
    {membership : Membership}
    {name : String}
    {rest : List String}
    {world : σ}
    (headMatches : database.MatchesAt membership (name :: rest) world 0) :
    (run (database.firstGroupOf membership (name :: rest)) world).answer = some name := by
  obtain ⟨group, answered, contained⟩ := (matchesAt_zero ..).mp headMatches
  simp [firstGroupOf, askGroupId, answered, contained]

/-- The search goes on behind a first name that does not match, whatever its look-up gave. -/
theorem answer_firstGroupOf_of_not_match
    {database : IdentityDatabase σ ε}
    {membership : Membership}
    {name : String}
    {rest : List String}
    {world : σ}
    (headFails : ¬ database.MatchesAt membership (name :: rest) world 0) :
    (run (database.firstGroupOf membership (name :: rest)) world).answer =
      (run (database.firstGroupOf membership rest)
        (run (database.groupId name) world).world).answer := by
  rw [matchesAt_zero] at headFails
  cases answered : (run (database.groupId name) world).answer with
  | error failure =>
      simp [firstGroupOf, askGroupId, answered]
  | ok found =>
      cases found with
      | none =>
          simp [firstGroupOf, askGroupId, answered]
      | some group =>
          have notContained : membership.contains group = false := by
            cases contained : membership.contains group with
            | false =>
                rfl
            | true =>
                exact (headFails ⟨group, answered, contained⟩).elim
          simp [firstGroupOf, askGroupId, answered, notContained]

/-- The search for a group finds exactly the first match. -/
theorem answer_firstGroupOf_eq_some_iff
    (database : IdentityDatabase σ ε)
    (membership : Membership)
    (names : List String)
    (world : σ)
    (found : String) :
    (run (database.firstGroupOf membership names) world).answer = some found ↔
      database.FirstMatch membership names world found := by
  induction names generalizing world with
  | nil =>
      simp [firstGroupOf, not_firstMatch_nil]
  | cons name rest inductionHypothesis =>
      by_cases headMatches : database.MatchesAt membership (name :: rest) world 0
      · rw [answer_firstGroupOf_of_match headMatches,
          firstMatch_cons_of_match headMatches, Option.some.injEq]
      · rw [answer_firstGroupOf_of_not_match headMatches,
          firstMatch_cons_of_not_match headMatches]
        exact inductionHypothesis _

/-- The search for a bypass group answers with the group to which the account belongs. -/
theorem answer_bypassGroupOf_eq_some_iff
    (database : IdentityDatabase σ ε)
    (names : List String)
    (account : String)
    (world : σ)
    (group : String) :
    (run (database.bypassGroupOf names account) world).answer = .ok (some group) ↔
      database.Belongs names account world group := by
  unfold Belongs
  cases primaryAnswer : (run (database.primaryGroup account) world).answer with
  | error failure =>
      simp [bypassGroupOf, membership, askPrimaryGroup, primaryAnswer]
  | ok known =>
      cases known with
      | none =>
          simp [bypassGroupOf, membership, askPrimaryGroup, primaryAnswer]
      | some primary =>
          cases listAnswer : (run (database.groupList account primary)
              (run (database.primaryGroup account) world).world).answer with
          | error failure =>
              simp [bypassGroupOf, membership, askPrimaryGroup, primaryAnswer, listAnswer]
          | ok supplementary =>
              simp [bypassGroupOf, membership, askPrimaryGroup, primaryAnswer, listAnswer,
                answer_firstGroupOf_eq_some_iff]

/-- An account is exempt as member of exactly the group to which it belongs. -/
theorem answer_exemption_eq_bypassGroup_iff
    (database : IdentityDatabase σ ε)
    (rules : BypassRules)
    (account : String)
    (world : σ)
    (group : String) :
    (run (database.exemption rules account) world).answer =
        .ok (some (.bypassGroup group)) ↔
      database.Belongs rules.groups account world group := by
  rw [← answer_bypassGroupOf_eq_some_iff]
  simp only [exemption, run_bind, run_pure]
  cases (run (database.bypassGroupOf rules.groups account) world).answer with
  | error failure =>
      simp only [BypassRules.exemptionFrom]
      split <;> simp
  | ok found =>
      cases found with
      | none =>
          simp only [BypassRules.exemptionFrom]
          split <;> simp
      | some name =>
          simp [BypassRules.exemptionFrom]

/-- The root account is exempt as such when it belongs to no bypass group, whatever failed. -/
theorem answer_exemption_eq_rootAccount_iff
    (database : IdentityDatabase σ ε)
    (rules : BypassRules)
    (account : String)
    (world : σ) :
    (run (database.exemption rules account) world).answer = .ok (some .rootAccount) ↔
      account = rules.rootAccount ∧
        ∀ group, ¬ database.Belongs rules.groups account world group := by
  simp only [← answer_bypassGroupOf_eq_some_iff, exemption, run_bind, run_pure]
  cases (run (database.bypassGroupOf rules.groups account) world).answer with
  | error failure =>
      simp [BypassRules.exemptionFrom, BypassRules.isRoot]
  | ok found =>
      cases found with
      | none =>
          simp [BypassRules.exemptionFrom, BypassRules.isRoot]
      | some name =>
          simp [BypassRules.exemptionFrom]

/-- Nobody else is exempt. -/
theorem not_exempt_iff
    (database : IdentityDatabase σ ε)
    (rules : BypassRules)
    (account : String)
    (world : σ) :
    (∀ found, (run (database.exemption rules account) world).answer ≠ .ok (some found)) ↔
      account ≠ rules.rootAccount ∧
        ∀ group, ¬ database.Belongs rules.groups account world group := by
  constructor
  · intro notExempt
    have noMember :
        ∀ group, ¬ database.Belongs rules.groups account world group := by
      intro group belongs
      exact notExempt (.bypassGroup group)
        ((answer_exemption_eq_bypassGroup_iff ..).mpr belongs)
    refine ⟨?_, noMember⟩
    intro isRoot
    exact notExempt .rootAccount
      ((answer_exemption_eq_rootAccount_iff ..).mpr ⟨isRoot, noMember⟩)
  · rintro ⟨notRoot, noMember⟩ found exempt
    cases found with
    | bypassGroup group =>
        exact noMember group ((answer_exemption_eq_bypassGroup_iff ..).mp exempt)
    | rootAccount =>
        exact notRoot ((answer_exemption_eq_rootAccount_iff ..).mp exempt).1

variable {database : IdentityDatabase σ ε} {account : String}

/-- Only an account whose groups could not be read fails to be searched for a bypass group. -/
theorem membership_of_bypassGroupOf_error
    {groups : List String}
    {world : σ}
    {failure : IdentityError}
    (failed : (run (database.bypassGroupOf groups account) world).answer = .error failure) :
    (run (database.membership account) world).answer = .error failure := by
  simp only [bypassGroupOf, run_bind] at failed
  cases answered : (run (database.membership account) world).answer with
  | error unread =>
      rw [answered] at failed
      exact congrArg Except.error (Except.error.inj failed)
  | ok known =>
      rw [answered] at failed
      cases known <;> simp at failed

theorem membership_of_exemption_error
    {rules : BypassRules}
    {world : σ}
    {failure : IdentityError}
    (failed : (run (database.exemption rules account) world).answer = .error failure) :
    (run (database.membership account) world).answer = .error failure := by
  have searched :
      (run (database.bypassGroupOf rules.groups account) world).answer = .error failure := by
    simp only [exemption, run_bind, run_pure, BypassRules.exemptionFrom] at failed
    split at failed
    · simp at failed
    · simp at failed
    · rename_i unread isUnread
      split at failed
      · simp at failed
      · exact isUnread.trans (congrArg Except.error (Except.error.inj failed))
  exact membership_of_bypassGroupOf_error searched

end IdentityDatabase

end LoginGate
