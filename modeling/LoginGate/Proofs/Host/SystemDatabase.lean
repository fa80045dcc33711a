import LoginGate.Proofs.Host.NameService
import LoginGate.Proofs.Identity.Alike
import LoginGate.Proofs.Identity.GroupSearch
import LoginGate.Proofs.Identity.Questions

namespace LoginGate

/-!
# The host's accounts as a table in memory

Over a library that answers from a table, every search of the gate takes the same way
as over that table in memory. The library is called as its contract asks, and at most
twice for a group list.
-/

open Interaction

variable {σ τ φ α : Type}

namespace Interaction

/--
A computation over a host's library that is alike to one without a host, and calls the
library by its contract.
-/
structure Mirrors
    (first : Interaction σ (Effect HostEffect) α)
    (second : Interaction τ (Effect φ) α) : Prop where
  alike : Alike 0 (fun _ _ => True) first second
  calls : ∀ world, History.CallsByContract (run first world).effects

theorem Sequential.mirrors : Sequential fun _ => Mirrors (σ := σ) (τ := τ) (φ := φ) := by
  constructor
  case pure =>
    exact fun answer => ⟨.pure answer, fun _ => .nothing⟩
  case bind =>
    intro _ _ _ _ _ _ before after
    exact ⟨before.alike.bind fun answer => (after answer).alike,
      fun world => (before.calls world).append ((after _).calls _)⟩
  case note =>
    exact fun made => ⟨.perform rfl, fun _ => .note made⟩

/-- A question that the library answers under one name, if it can be given that name. -/
theorem Mirrors.lookup
    {call : IdentityCall}
    (isNoFill : call.groupListLookup? = none)
    {called : HostEffect}
    {name : String}
    (isNoList : Effect.groupListLookup? (.host called) = none)
    (isAbout : called.lookedUp? = some name)
    {first : Interaction σ HostEffect α}
    {second : Interaction τ φ α}
    (same : ∀ world other, (run first world).answer = (run second other).answer)
    (lookups :
      ∀ world, ∀ effect ∈ (run first world).effects,
        effect = called ∧ isCallableName name = true) :
    Mirrors (do .perform (.identity call); first.ofHost)
      (do .perform (.identity call); second.ofHost) := by
  constructor
  case alike =>
    refine .bind (.perform rfl) fun _ => .ofHost ?_
    exact fun world other _ => ⟨same world other, trivial⟩
  case calls =>
    intro world
    rw [run_bind, run_perform, run_ofHost]
    exact .lookup isNoFill isNoList isAbout (lookups world)

end Interaction

namespace NameLibrary.Follows

variable {library : NameLibrary σ} {table : NameTable}

theorem mirrors_askPrimaryGroup (follows : library.Follows table) (account : String) :
    Mirrors (library.database.askPrimaryGroup account)
      ((table.inMemory.database : IdentityDatabase τ φ).askPrimaryGroup account) :=
  .lookup rfl rfl rfl (fun world _ => follows.answer_primaryGroup account world)
    fun world => library.effects_primaryGroup account world ▸ follows.accountCalls account world

theorem mirrors_askGroupId (follows : library.Follows table) (group : String) :
    Mirrors (library.database.askGroupId group)
      ((table.inMemory.database : IdentityDatabase τ φ).askGroupId group) :=
  .lookup rfl rfl rfl (fun world _ => follows.answer_groupId group world)
    fun world => library.effects_groupId group world ▸ follows.groupCalls group world

theorem mirrors_askAttempt
    (follows : library.Follows table)
    {account : String}
    (isCallable : isCallableName account = true)
    (primary : GroupId)
    {capacity : Nat}
    (isTried : capacity ≤ maxGroupCapacity) :
    Mirrors (library.database.askAttempt account primary capacity)
      ((table.inMemory.database : IdentityDatabase τ φ).askAttempt account primary capacity) := by
  constructor
  case alike =>
    refine .bind (.perform rfl) fun _ => .ofHost ?_
    exact fun world other _ =>
      ⟨(follows.answer_attempt isCallable primary isTried world).trans
        (table.inMemory.gives.attempt account primary capacity other).symm, trivial⟩
  case calls =>
    intro world
    rw [IdentityDatabase.run_askAttempt, run_attempt library isCallable primary isTried]
    exact .fill primary capacity isCallable

theorem asked
    (follows : library.Follows table)
    {account : String}
    (isCallable : isCallableName account = true) :
    IdentityDatabase.Asked (fun _ => Mirrors) library.database
      (table.inMemory.database : IdentityDatabase τ φ) account := by
  constructor
  case primaryGroup =>
    exact follows.mirrors_askPrimaryGroup account
  case attempt =>
    exact fun primary _ isTried => follows.mirrors_askAttempt isCallable primary isTried
  case groupId =>
    exact follows.mirrors_askGroupId

/-- Nobody has a name that the library cannot be given, and so no group list is asked for. -/
theorem mirrors_membership (follows : library.Follows table) (account : String) :
    Mirrors (library.database.membership account)
      ((table.inMemory.database : IdentityDatabase τ φ).membership account) := by
  by_cases isCallable : isCallableName account = true
  · exact IdentityDatabase.related_membership .mirrors (follows.asked isCallable)
  · have inMemory : table.inMemory.primaryGroup account = .ok none :=
      if_neg isCallable
    have isAbsent (world : σ) :
        (run (library.database.primaryGroup account) world).answer = .ok none :=
      (follows.answer_primaryGroup account world).trans inMemory
    have isAbsentInMemory (world : τ) :
        (run ((table.inMemory.database : IdentityDatabase τ φ).primaryGroup account)
          world).answer = .ok none :=
      inMemory
    rw [IdentityDatabase.membership_of_absent isAbsent,
      IdentityDatabase.membership_of_absent isAbsentInMemory]
    exact Sequential.mirrors.bind (follows.mirrors_askPrimaryGroup account) fun _ =>
      Sequential.mirrors.pure _

end NameLibrary.Follows

/-- In memory, the groups of an account are read as the table says. -/
theorem NameTable.membership_inMemory (table : NameTable) (account : String) (world : τ) :
    let report :=
      run ((table.inMemory.database : IdentityDatabase τ φ).membership account) world
    report.answer = table.membership account ∧ report.attempts = table.attempts account := by
  have asked :
      run ((table.inMemory.database : IdentityDatabase τ φ).askPrimaryGroup account) world =
        ⟨table.inMemory.primaryGroup account, world, [.identity (.primaryGroup account)]⟩ :=
    rfl
  dsimp only
  unfold IdentityDatabase.membership NameTable.membership NameTable.attempts
  rw [attempts_bind, run_bind, asked]
  cases table.inMemory.primaryGroup account with
  | error failure =>
      exact ⟨rfl, rfl⟩
  | ok known =>
      cases known with
      | none =>
          exact ⟨rfl, rfl⟩
      | some primary =>
          dsimp only
          rw [attempts_bind, run_bind, AccountTable.run_groupList]
          dsimp only [inMemory]
          by_cases isBounded : (table.groupList account primary).length ≤ 65536
          · by_cases isUnread : 32 < (table.groupList account primary).length
            · simp only [if_pos isBounded, if_pos (And.intro isUnread isBounded)]
              exact ⟨rfl, rfl⟩
            · simp only [if_pos isBounded, if_neg fun both => isUnread (And.left both)]
              exact ⟨rfl, rfl⟩
          · simp only [if_neg isBounded, if_neg fun both => isBounded (And.right both)]
            exact ⟨rfl, rfl⟩

/--
A search over a host's library has the answer, the questions and the notes of the same
search in memory. Its attempts at group lists are those of the table, the library is
called once for each of them with the size of the buffer as the limit, and all its
calls are about names that it can be given.
-/
structure Report.AgreesWith
    (report : Report σ (Effect HostEffect) α)
    (table : NameTable)
    (account : String)
    (inMemory : Report τ (Effect φ) α) : Prop where
  answer : report.answer = inMemory.answer
  identityCalls : report.identityCalls = inMemory.identityCalls
  notes : report.notes = inMemory.notes
  attempts : report.attempts = table.attempts account
  groupLists :
    report.effects.filterMap Effect.groupListLookup? =
      (table.attempts account).filterMap IdentityCall.groupListLookup?
  callable :
    ∀ effect,
      .host effect ∈ report.effects →
      ∃ name, effect.lookedUp? = some name ∧ isCallableName name = true

theorem Interaction.Mirrors.agreesWith
    {first : Interaction σ (Effect HostEffect) α}
    {second : Interaction τ (Effect φ) α}
    (mirrors : Mirrors first second)
    {table : NameTable}
    {account : String}
    {world : σ}
    {other : τ}
    (attempts : (run second other).attempts = table.attempts account) :
    (run first world).AgreesWith table account (run second other) := by
  have alike := mirrors.alike world other trivial
  have calls := mirrors.calls world
  have sameAttempts : (run first world).attempts = table.attempts account := by
    rw [← attempts, Report.attempts, alike.identityCalls_eq, Report.attempts]
  constructor
  case answer =>
    exact alike.answer
  case identityCalls =>
    exact alike.identityCalls_eq
  case notes =>
    exact alike.notes_eq
  case attempts =>
    exact sameAttempts
  case groupLists =>
    rw [calls.groupLists, ← sameAttempts, Report.attempts, List.filterMap_filter]
    congr 1
    funext call
    cases call <;> rfl
  case callable =>
    exact calls.callable

/--
Everything that the gate looks up over a host's library agrees with the same look-ups in
memory. The groups of an account are what the table says, and nothing else can fail.
-/
structure IdentityDatabase.ResolvesAs
    (database : IdentityDatabase σ HostEffect)
    (table : NameTable)
    (inMemory : IdentityDatabase τ φ)
    (rules : BypassRules)
    (account : String)
    (world : σ)
    (other : τ) : Prop where
  membership :
    (run (database.membership account) world).AgreesWith table account
      (run (inMemory.membership account) other)
  bypassGroupOf :
    (run (database.bypassGroupOf rules.groups account) world).AgreesWith table account
      (run (inMemory.bypassGroupOf rules.groups account) other)
  exemption :
    (run (database.exemption rules account) world).AgreesWith table account
      (run (inMemory.exemption rules account) other)
  isExempt :
    (run (database.isExempt rules account) world).AgreesWith table account
      (run (inMemory.isExempt rules account) other)
  read :
    (run (database.membership account) world).answer = table.membership account
  failures :
    ∀ failure,
      (run (database.bypassGroupOf rules.groups account) world).answer = .error failure ∨
          (run (database.exemption rules account) world).answer = .error failure →
      table.membership account = .error failure

/-- A library that answers from a table makes every search that of the table in memory. -/
theorem NameLibrary.Follows.resolvesAs
    {library : NameLibrary σ}
    {table : NameTable}
    (follows : library.Follows table)
    (rules : BypassRules)
    (account : String)
    (world : σ)
    (other : τ) :
    library.database.ResolvesAs table (table.inMemory.database : IdentityDatabase τ φ) rules
      account world other := by
  obtain ⟨read, attempts⟩ := table.membership_inMemory (φ := φ) account other
  have memberships := follows.mirrors_membership (τ := τ) (φ := φ) account
  have groups := follows.mirrors_askGroupId (τ := τ) (φ := φ)
  have isRead : (run (library.database.membership account) world).answer =
      table.membership account :=
    (memberships.alike world other trivial).answer.trans read
  constructor
  case membership =>
    exact memberships.agreesWith attempts
  case bypassGroupOf =>
    exact (IdentityDatabase.related_bypassGroupOf .mirrors memberships groups
      rules.groups).agreesWith ((IdentityDatabase.attempts_bypassGroupOf ..).trans attempts)
  case exemption =>
    exact (IdentityDatabase.related_exemption .mirrors memberships groups
      rules).agreesWith ((IdentityDatabase.attempts_exemption ..).trans attempts)
  case isExempt =>
    exact (IdentityDatabase.related_isExempt .mirrors memberships groups
      rules).agreesWith ((IdentityDatabase.attempts_isExempt ..).trans attempts)
  case read =>
    exact isRead
  case failures =>
    intro failure failed
    rw [← isRead]
    exact failed.elim IdentityDatabase.membership_of_bypassGroupOf_error
      IdentityDatabase.membership_of_exemption_error

/--
An account in 41 groups, on a host whose entries need more than the first scratch
buffer, and where one of the bypass groups cannot be looked up.
-/
theorem NameLibrary.Follows.resolvesAs_many_groups :
    let table : NameTable :=
      ⟨fun name => .ok (if name = "alice" then some 1000 else none),
        fun name => if name = "wheel" then .ok (some 7) else .error 5,
        fun _ primary => primary :: List.replicate 40 7⟩
    let service : NameService Nat :=
      ⟨fun name scratch calls =>
          (if scratch < 2000 then
              .failed .bufferTooSmall
            else
              .returned (if name = "alice" then some 1000 else none),
            calls + 1),
        fun name _ calls =>
          (if name = "wheel" then .returned (some 7) else .failed 5, calls + 1),
        fun name primary limit _ buffer calls =>
          (.ofList limit buffer (table.groupList name primary), calls + 1)⟩
    let report :=
      run (service.library.database.isExempt ⟨["staff", "wheel"], "root"⟩ "alice") 0
    service.library.Follows table ∧
      report.answer = true ∧
      report.effects.filterMap Effect.groupListLookup? =
        [.groupListLookup "alice" 1000 32, .groupListLookup "alice" 1000 41] := by
  intro table service report
  have follows : service.library.Follows table := by
    apply NameService.Follows.library
    constructor
    case account =>
      intro name world _
      rfl
    case group =>
      intro name world _
      by_cases isWheel : name = "wheel"
      · rw [isWheel]
        rfl
      · simp only [service, table, if_neg isWheel]
        rfl
    case groupList =>
      intro name primary capacity buffer limit world _ _ _
      exact GroupListReply.tellsOf_ofList limit buffer _
  have agrees :=
    (follows.resolvesAs (φ := Empty) ⟨["staff", "wheel"], "root"⟩ "alice" 0 ()).isExempt
  exact ⟨follows, agrees.answer.trans (by decide +kernel), agrees.groupLists.trans rfl⟩

end LoginGate
