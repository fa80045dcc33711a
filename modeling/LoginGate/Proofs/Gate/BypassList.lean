import LoginGate.Proofs.Gate.Weakening
import LoginGate.Proofs.Identity.Alike
import Mathlib.Data.Set.Basic

namespace LoginGate

/-!
# The bypass list as a set of groups

The search for a bypass group stops at its first match, so the group that it names
depends on the order of the list. Whether there is a match does not: over a database
with fixed answers it depends on the set of groups to which the names resolve. More
groups let more accounts pass, and two lists of the same groups let the same accounts
pass.
-/

open Interaction

variable {σ ε : Type}

/-- The groups to which names resolve. -/
def IdentityAnswers.resolved (answers : IdentityAnswers) (names : List String) : Set GroupId :=
  {group | ∃ name ∈ names, answers.groupId name = .ok (some group)}

/-- The same root account, with other bypass groups. -/
def BypassRules.withGroups (rules : BypassRules) (groups : List String) : BypassRules :=
  { rules with groups := groups }

/-- A gate with other bypass groups. -/
def Gate.withGroups (gate : Gate σ ε) (groups : List String) : Gate σ ε :=
  { gate with
    configuration :=
      { gate.configuration with bypass := gate.configuration.bypass.withGroups groups } }

namespace IdentityAnswers

variable (answers : IdentityAnswers)

theorem mem_resolved_cons (group : GroupId) (name : String) (rest : List String) :
    group ∈ answers.resolved (name :: rest) ↔
      answers.groupId name = .ok (some group) ∨ group ∈ answers.resolved rest := by
  simp [resolved]

theorem resolved_append (front back : List String) :
    answers.resolved (front ++ back) = answers.resolved front ∪ answers.resolved back := by
  ext group
  simp [resolved, or_and_right, exists_or]

/-- Lists of which the same names resolve to groups resolve to the same groups. -/
theorem resolved_eq_of_names
    {first second : List String}
    (sameNames :
      ∀ name group,
        answers.groupId name = .ok (some group) →
        (name ∈ first ↔ name ∈ second)) :
    answers.resolved first = answers.resolved second := by
  ext group
  constructor
  · rintro ⟨name, isNamed, resolves⟩
    exact ⟨name, (sameNames name group resolves).mp isNamed, resolves⟩
  · rintro ⟨name, isNamed, resolves⟩
    exact ⟨name, (sameNames name group resolves).mpr isNamed, resolves⟩

end IdentityAnswers

namespace IdentityDatabase

variable {database : IdentityDatabase σ ε}

/-- The groups of an account can be read, and one of them is in a set. -/
def SharesGroup
    (database : IdentityDatabase σ ε)
    (account : String)
    (start : σ)
    (groups : Set GroupId) : Prop :=
  ∃ membership,
    (run (database.membership account) start).answer = .ok (some membership) ∧
      ∃ group ∈ groups, membership.contains group = true

theorem SharesGroup.mono
    {account : String}
    {start : σ}
    {fewer more : Set GroupId}
    (subset : fewer ⊆ more)
    (shares : database.SharesGroup account start fewer) :
    database.SharesGroup account start more := by
  obtain ⟨membership, read, group, isGroup, contained⟩ := shares
  exact ⟨membership, read, group, subset isGroup, contained⟩

section FixedAnswers

variable {answers : IdentityAnswers} (gives : database.Gives answers)

include gives

/-- With fixed answers the groups of an account are the same in every world. -/
theorem answer_membership_of_gives (account : String) (world other : σ) :
    (run (database.membership account) world).answer =
      (run (database.membership account) other).answer := by
  have agree := gives.agree gives
  exact (related_membership (.alike 0 _) (agree.asked 0 account) world other trivial).answer

theorem sharesGroup_iff_of_gives
    (account : String)
    (world other : σ)
    (groups : Set GroupId) :
    database.SharesGroup account world groups ↔ database.SharesGroup account other groups := by
  unfold SharesGroup
  rw [answer_membership_of_gives gives account world other]

/-- A search finds a name exactly when one of the names resolves to a group of the account. -/
theorem exists_firstGroupOf_iff_of_gives
    (membership : Membership)
    (names : List String)
    (world : σ) :
    (∃ name, (run (database.firstGroupOf membership names) world).answer = some name) ↔
      ∃ group ∈ answers.resolved names, membership.contains group = true := by
  induction names generalizing world with
  | nil =>
      simp [firstGroupOf, IdentityAnswers.resolved]
  | cons name rest inductionHypothesis =>
      by_cases headMatches : database.MatchesAt membership (name :: rest) world 0
      · rw [answer_firstGroupOf_of_match headMatches]
        obtain ⟨group, answered, contained⟩ := (matchesAt_zero ..).mp headMatches
        rw [gives.groupId] at answered
        simp only [Option.some.injEq, exists_eq', true_iff]
        exact ⟨group, (answers.mem_resolved_cons ..).mpr (.inl answered), contained⟩
      · rw [answer_firstGroupOf_of_not_match headMatches, inductionHypothesis]
        rw [matchesAt_zero, gives.groupId] at headMatches
        constructor
        · rintro ⟨group, isLater, contained⟩
          exact ⟨group, (answers.mem_resolved_cons ..).mpr (.inr isLater), contained⟩
        · rintro ⟨group, isResolved, contained⟩
          rcases (answers.mem_resolved_cons ..).mp isResolved with isFirst | isLater
          · exact (headMatches ⟨group, isFirst, contained⟩).elim
          · exact ⟨group, isLater, contained⟩

/-- An account belongs to a bypass group exactly when it shares a group with the names. -/
theorem exists_belongs_iff_of_gives (names : List String) (account : String) (world : σ) :
    (∃ group, database.Belongs names account world group) ↔
      database.SharesGroup account world (answers.resolved names) := by
  simp only [← answer_bypassGroupOf_eq_some_iff, bypassGroupOf, run_bind, SharesGroup]
  cases read : (run (database.membership account) world).answer with
  | error failure =>
      simp
  | ok known =>
      cases known with
      | none =>
          simp
      | some membership =>
          simp only [run_bind, run_pure, Except.ok.injEq, Option.some.injEq, exists_eq_left']
          exact exists_firstGroupOf_iff_of_gives gives membership names _

theorem exempts_iff_of_gives (rules : BypassRules) (account : String) (world : σ) :
    database.Exempts rules account world ↔
      account = rules.rootAccount ∨
        database.SharesGroup account world (answers.resolved rules.groups) := by
  rw [Exempts, exists_belongs_iff_of_gives gives]

end FixedAnswers

end IdentityDatabase

/-- A table has an authority open sessions and consent to an account. -/
def AuthorityAnswers.Grants
    (replies : AuthorityAnswers)
    (endpoint : Endpoint)
    (account : String) : Prop :=
  replies.connect endpoint = .ok () ∧
    replies.call endpoint .checkLogin account = .ok (.boolean true)

namespace Gate

/-- An authority with fixed answers consents in every world or in none. -/
theorem consents_iff_of_replies
    {gate : Gate σ ε}
    {replies : AuthorityAnswers}
    (gives : gate.authority.Replies replies)
    (account : String)
    (world : World σ) :
    gate.Consents account world ↔ replies.Grants gate.configuration.endpoint account := by
  have opening : (gate.opening world).answer = replies.connect gate.configuration.endpoint :=
    gives.connect ..
  have questioning :
      (gate.questioning account world).answer =
        replies.call gate.configuration.endpoint .checkLogin account :=
    gives.call ..
  constructor
  · rintro ⟨opened, granted⟩
    exact ⟨opening.symm.trans opened, questioning.symm.trans granted⟩
  · rintro ⟨opened, granted⟩
    exact ⟨opening.trans opened, questioning.trans granted⟩

/--
Whoever passes with one list of bypass groups passes with another one, at every
checkpoint that exempt accounts pass by themselves and whatever the worlds are.
-/
structure Carries (gate : Gate σ ε) (named : Option String) (fewer more : List String) :
    Prop where
  exempt :
    ∀ account,
      named = some account →
      ∀ world other,
        (run (gate.database.isExempt (gate.configuration.bypass.withGroups fewer) account)
          world).answer = true →
        (run (gate.database.isExempt (gate.configuration.bypass.withGroups more) account)
          other).answer = true
  allowed :
    ∀ phase world other,
      (run ((gate.withGroups fewer).decideWithExemptions phase named) world).answer.allowed =
        true →
      (run ((gate.withGroups more).decideWithExemptions phase named) other).answer.allowed =
        true

/-- With two lists of bypass groups the same is said about whoever is named. -/
structure SamePassage (gate : Gate σ ε) (named : Option String) (first second : List String) :
    Prop where
  exempt :
    ∀ account,
      named = some account →
      ∀ world other,
        (run (gate.database.isExempt (gate.configuration.bypass.withGroups first) account)
          world).answer =
        (run (gate.database.isExempt (gate.configuration.bypass.withGroups second) account)
          other).answer
  allowed :
    ∀ phase world other,
      (run ((gate.withGroups first).decideWithExemptions phase named) world).answer.allowed =
        (run ((gate.withGroups second).decideWithExemptions phase named) other).answer.allowed

theorem SamePassage.of_carries
    {gate : Gate σ ε}
    {named : Option String}
    {first second : List String}
    (forth : gate.Carries named first second)
    (back : gate.Carries named second first) :
    gate.SamePassage named first second := by
  constructor
  case exempt =>
    intro account isNamed world other
    exact Bool.eq_iff_iff.mpr
      ⟨forth.exempt account isNamed world other, back.exempt account isNamed other world⟩
  case allowed =>
    intro phase world other
    exact Bool.eq_iff_iff.mpr ⟨forth.allowed phase world other, back.allowed phase other world⟩

/--
Of a list of bypass groups only the set of groups counts to which its names resolve.

More groups take permission from nobody. The order of the list, repeated names, names
that do not resolve and the name under which a group is found make no difference, and
no list makes a difference to an account whose groups cannot be read or which nobody has.
-/
structure CountsGroupsAsSet (gate : Gate σ ε) (answers : IdentityAnswers) : Prop where
  monotone :
    ∀ fewer more,
      answers.resolved fewer ⊆ answers.resolved more →
      ∀ named, gate.Carries named fewer more
  permuted :
    ∀ first second,
      first.Perm second →
      ∀ named, gate.SamePassage named first second
  repeated :
    ∀ first second,
      (∀ name, name ∈ first ↔ name ∈ second) →
      ∀ named, gate.SamePassage named first second
  unresolved :
    ∀ first second,
      (∀ name group,
        answers.groupId name = .ok (some group) →
        (name ∈ first ↔ name ∈ second)) →
      ∀ named, gate.SamePassage named first second
  replaced :
    ∀ front name other back group,
      answers.groupId name = .ok (some group) →
      answers.groupId other = .ok (some group) →
      ∀ named, gate.SamePassage named (front ++ name :: back) (front ++ other :: back)
  unread :
    ∀ account start,
      (∀ membership,
        (run (gate.database.membership account) start).answer ≠ .ok (some membership)) →
      ∀ first second, gate.SamePassage (some account) first second

section FixedAnswers

variable {gate : Gate σ ε} {answers : IdentityAnswers} {replies : AuthorityAnswers}
variable (gives : gate.database.Gives answers) (consents : gate.authority.Replies replies)

include gives consents

/-- Who passes, over a database and an authority with fixed answers. -/
theorem allowed_withGroups_iff
    (groups : List String)
    (phase : Phase)
    (named : Option String)
    (world : World σ)
    (start : σ) :
    (run ((gate.withGroups groups).decideWithExemptions phase named) world).answer.allowed =
        true ↔
      ∃ account,
        named = some account ∧ account ≠ "" ∧
          ((account = gate.configuration.bypass.rootAccount ∨
              gate.database.SharesGroup account start (answers.resolved groups)) ∨
            replies.Grants gate.configuration.endpoint account) := by
  have exempts (account : String) :
      (gate.withGroups groups).database.Exempts (gate.withGroups groups).configuration.bypass
          account world.outside ↔
        account = gate.configuration.bypass.rootAccount ∨
          gate.database.SharesGroup account start (answers.resolved groups) := by
    rw [← IdentityDatabase.sharesGroup_iff_of_gives gives account world.outside]
    exact IdentityDatabase.exempts_iff_of_gives gives _ account world.outside
  have consenting : (gate.withGroups groups).authority.Replies replies :=
    consents
  have granted (account : String) (behind : World σ) :
      (gate.withGroups groups).Consents account behind ↔
        replies.Grants gate.configuration.endpoint account :=
    consents_iff_of_replies consenting account behind
  simp only [allowed_decideWithExemptions_iff, exempts, granted]

/-- Names that resolve to a group of the account wherever others do let it pass with them. -/
theorem carries_of_shares
    {named : Option String}
    {fewer more : List String}
    (carried :
      ∀ account,
        named = some account →
        ∀ start,
          gate.database.SharesGroup account start (answers.resolved fewer) →
          gate.database.SharesGroup account start (answers.resolved more)) :
    gate.Carries named fewer more := by
  constructor
  case exempt =>
    intro account isNamed world other exempt
    rw [IdentityDatabase.answer_isExempt_iff,
      IdentityDatabase.exempts_iff_of_gives gives] at exempt ⊢
    rw [IdentityDatabase.sharesGroup_iff_of_gives gives account other world]
    exact exempt.imp_right (carried account isNamed world)
  case allowed =>
    intro phase world other permitted
    rw [allowed_withGroups_iff gives consents _ _ _ _ world.outside] at permitted ⊢
    obtain ⟨account, isNamed, notEmpty, passes⟩ := permitted
    exact ⟨account, isNamed, notEmpty,
      passes.imp_left (Or.imp_right (carried account isNamed world.outside))⟩

theorem carries_of_resolved_subset
    {fewer more : List String}
    (subset : answers.resolved fewer ⊆ answers.resolved more)
    (named : Option String) :
    gate.Carries named fewer more :=
  carries_of_shares gives consents fun _ _ _ shares => shares.mono subset

theorem samePassage_of_resolved_eq
    {first second : List String}
    (same : answers.resolved first = answers.resolved second)
    (named : Option String) :
    gate.SamePassage named first second :=
  .of_carries (carries_of_resolved_subset gives consents same.subset named)
    (carries_of_resolved_subset gives consents same.symm.subset named)

/-- Over fixed answers, a list of bypass groups counts as a set of groups. -/
theorem countsGroupsAsSet_of_gives : gate.CountsGroupsAsSet answers := by
  have ofResolving
      (first second : List String)
      (sameNames :
        ∀ name group,
          answers.groupId name = .ok (some group) →
          (name ∈ first ↔ name ∈ second)) :
      ∀ named, gate.SamePassage named first second :=
    samePassage_of_resolved_eq gives consents (answers.resolved_eq_of_names sameNames)
  constructor
  case monotone =>
    intro fewer more subset
    exact carries_of_resolved_subset gives consents subset
  case permuted =>
    intro first second isPermuted
    exact ofResolving first second fun _ _ _ => isPermuted.mem_iff
  case repeated =>
    intro first second sameNames
    exact ofResolving first second fun name _ _ => sameNames name
  case unresolved =>
    exact ofResolving
  case replaced =>
    intro front name other back group isGroup isGroupToo
    apply samePassage_of_resolved_eq gives consents
    rw [answers.resolved_append, answers.resolved_append]
    congr 1
    ext member
    rw [answers.mem_resolved_cons, answers.mem_resolved_cons, isGroup, isGroupToo]
  case unread =>
    intro account start unread first second
    have noGroup (groups : Set GroupId) (world : σ) :
        ¬ gate.database.SharesGroup account world groups := by
      rw [IdentityDatabase.sharesGroup_iff_of_gives gives account world start]
      rintro ⟨membership, read, -⟩
      exact unread membership read
    have carried (fewer more : List String) : gate.Carries (some account) fewer more := by
      apply carries_of_shares gives consents
      rintro named isNamed world shares
      obtain rfl := Option.some.inj isNamed
      exact (noGroup _ world shares).elim
    exact .of_carries (carried first second) (carried second first)

end FixedAnswers

/--
A member of two bypass groups passes as a member of the one that is listed first, and
with both orders of the list, between which a group is looked up that does not exist.
-/
theorem countsGroupsAsSet_two_orders :
    let table : AccountTable :=
      ⟨fun _ => .ok (some 1000), fun _ _ => [1000, 10, 27],
        fun group =>
          if group = "wheel" then .ok (some 10)
          else if group = "sudo" then .ok (some 27)
          else .ok none⟩
    let replies : AuthorityAnswers :=
      ⟨fun _ => .error (.connect "no bus"), fun _ _ _ => .ok (.boolean false),
        fun _ _ _ => .ok ()⟩
    let gate : Gate Unit Empty :=
      ⟨{}, table.database, replies.authority⟩
    let world : World Unit :=
      .ofOutside ()
    (run ((gate.withGroups ["wheel", "ghost", "sudo"]).decideWithExemptions .authenticate
        (some "bob")) world).answer = ⟨.authenticate, true, .bypassGroup "wheel"⟩ ∧
      (run ((gate.withGroups ["sudo", "ghost", "wheel"]).decideWithExemptions .authenticate
        (some "bob")) world).answer = ⟨.authenticate, true, .bypassGroup "sudo"⟩ ∧
      gate.CountsGroupsAsSet table.answers ∧
      gate.SamePassage (some "bob") ["wheel", "ghost", "sudo"] ["sudo", "ghost", "wheel"] := by
  intro table replies gate world
  have counts : gate.CountsGroupsAsSet table.answers :=
    countsGroupsAsSet_of_gives table.gives replies.gives.toReplies
  refine ⟨by decide +kernel, by decide +kernel, counts, counts.permuted _ _ ?_ _⟩
  decide

end Gate

end LoginGate
