import LoginGate.Identity.GroupList

namespace LoginGate

/-!
# Who passes without the authority

An account is exempt when it belongs to a bypass group, or when it is the root
account. Nothing is remembered: memberships and group identifiers are read anew
for every question. A failed look-up never exempts anybody, and never takes
the exemption from the root account.
-/

/-- The groups of one account, as they were read for one question. -/
structure Membership where
  primary : GroupId
  supplementary : List GroupId
  deriving Repr, DecidableEq

/-- Whether an account with these groups belongs to a group. -/
def Membership.contains (membership : Membership) (group : GroupId) : Bool :=
  membership.primary == group || membership.supplementary.contains group

/-- Belonging to a group means having it as primary or as supplementary group. -/
theorem Membership.contains_iff (membership : Membership) (group : GroupId) :
    membership.contains group = true ↔
      membership.primary = group ∨ group ∈ membership.supplementary := by
  simp [Membership.contains]

/-- Why an account passes without the authority. -/
inductive Exemption where
  | bypassGroup (group : String)
  | rootAccount
  deriving Repr, DecidableEq

/-- Whether an account is the root account: the names have to be the same. -/
def BypassRules.isRoot (rules : BypassRules) (account : String) : Bool :=
  account == rules.rootAccount

namespace IdentityDatabase

variable {σ ε : Type}

/-- Read the groups of an account; an unknown account has none. -/
def membership (database : IdentityDatabase σ ε) (account : String) :
    Interaction σ (Effect ε) (Except IdentityError (Option Membership)) := do
  match ← database.askPrimaryGroup account with
  | .error failure =>
      return .error failure
  | .ok none =>
      return .ok none
  | .ok (some primary) =>
      match ← database.groupList account primary with
      | .error failure =>
          return .error failure
      | .ok supplementary =>
          return .ok (some ⟨primary, supplementary⟩)

/--
The first of the named groups to which a membership belongs.

A name that is no group, or whose look-up fails, is passed over; names behind
the first match are not looked up.
-/
def firstGroupOf (database : IdentityDatabase σ ε) (membership : Membership) :
    List String → Interaction σ (Effect ε) (Option String)
  | [] =>
      return none
  | name :: rest => do
      match ← database.askGroupId name with
      | .ok (some group) =>
          if membership.contains group then
            return some name
          else
            database.firstGroupOf membership rest
      | .ok none =>
          database.firstGroupOf membership rest
      | .error failure =>
          .perform (.note (.groupLookupSkipped name failure))
          database.firstGroupOf membership rest

/-- The first bypass group to which an account belongs. -/
def bypassGroupOf
    (database : IdentityDatabase σ ε)
    (groups : List String)
    (account : String) :
    Interaction σ (Effect ε) (Except IdentityError (Option String)) := do
  match ← database.membership account with
  | .error failure =>
      return .error failure
  | .ok none =>
      return .ok none
  | .ok (some membership) =>
      return .ok (← database.firstGroupOf membership groups)

end IdentityDatabase

/-- The exemption that follows from the answer of the group search. -/
def BypassRules.exemptionFrom
    (rules : BypassRules)
    (account : String)
    (search : Except IdentityError (Option String)) :
    Except IdentityError (Option Exemption) :=
  match search with
  | .ok (some group) =>
      .ok (some (.bypassGroup group))
  | .ok none =>
      .ok (if rules.isRoot account then some .rootAccount else none)
  | .error failure =>
      if rules.isRoot account then .ok (some .rootAccount) else .error failure

namespace IdentityDatabase

variable {σ ε : Type}

/-- Whether an account passes without the authority, and why. -/
def exemption
    (database : IdentityDatabase σ ε)
    (rules : BypassRules)
    (account : String) :
    Interaction σ (Effect ε) (Except IdentityError (Option Exemption)) := do
  let search ← database.bypassGroupOf rules.groups account
  return rules.exemptionFrom account search

/-- Whether an account passes without the authority. -/
def isExempt
    (database : IdentityDatabase σ ε)
    (rules : BypassRules)
    (account : String) :
    Interaction σ (Effect ε) Bool := do
  match ← database.exemption rules account with
  | .ok (some _) =>
      return true
  | _ =>
      return false

end IdentityDatabase

end LoginGate
