import LoginGate.Host.SystemDatabase
import LoginGate.Proofs.Identity.Attempt

namespace LoginGate

/-!
# How the host's library is called

The C library may be called with names that it can be given and with limits that the
buffer has room for. The database of the host calls it in no other way, whatever the
library answers.
-/

open Interaction

variable {σ ε : Type}

/-- The group list call for an attempt, with the whole buffer as its limit. -/
def IdentityCall.groupListLookup? : IdentityCall → Option HostEffect
  | .fillGroupList account primary capacity =>
      some (.groupListLookup account primary capacity)
  | _ =>
      none

/-- Extract a group list call of the host's library. -/
def Effect.groupListLookup? : Effect HostEffect → Option HostEffect
  | .host (.groupListLookup name primary limit) =>
      some (.groupListLookup name primary limit)
  | _ =>
      none

/-- The name that a call of the host's library is about. -/
def HostEffect.lookedUp? : HostEffect → Option String
  | .accountLookup name =>
      some name
  | .groupLookup name =>
      some name
  | .groupListLookup name _ _ =>
      some name
  | _ =>
      none

/--
The library is called once for each attempt at a group list, with the size of the
buffer as the limit, and never about a name that it cannot be given.
-/
structure History.CallsByContract (history : History HostEffect) : Prop where
  groupLists :
    history.filterMap Effect.groupListLookup? =
      history.identityCalls.filterMap IdentityCall.groupListLookup?
  callable :
    ∀ effect,
      .host effect ∈ history →
      ∃ name, effect.lookedUp? = some name ∧ isCallableName name = true

namespace History.CallsByContract

theorem nothing : CallsByContract [] :=
  ⟨rfl, by simp⟩

theorem append
    {first second : History HostEffect}
    (firstCalls : first.CallsByContract)
    (secondCalls : second.CallsByContract) :
    CallsByContract (first ++ second) := by
  constructor
  case groupLists =>
    rw [List.filterMap_append, identityCalls_append, List.filterMap_append,
      firstCalls.groupLists, secondCalls.groupLists]
  case callable =>
    intro effect isMember
    exact (List.mem_append.mp isMember).elim (firstCalls.callable effect)
      (secondCalls.callable effect)

theorem note (made : Note) : CallsByContract [.note made] :=
  ⟨rfl, by simp⟩

/-- A question for a single entry, with the calls that look the entry up. -/
theorem lookup
    {call : IdentityCall}
    (isNoFill : call.groupListLookup? = none)
    {called : HostEffect}
    {name : String}
    (isNoList : Effect.groupListLookup? (.host called) = none)
    (isAbout : called.lookedUp? = some name)
    {effects : List HostEffect}
    (lookups : ∀ effect ∈ effects, effect = called ∧ isCallableName name = true) :
    CallsByContract (.identity call :: effects.map .host) := by
  constructor
  case groupLists =>
    have noLists : (effects.map Effect.host).filterMap Effect.groupListLookup? = [] := by
      rw [List.filterMap_eq_nil_iff]
      intro effect isMember
      obtain ⟨asked, isAsked, rfl⟩ := List.mem_map.mp isMember
      rw [(lookups asked isAsked).1]
      exact isNoList
    have noFills : (identityCalls (.identity call :: effects.map .host)).filterMap
        IdentityCall.groupListLookup? = [] := by
      rw [← List.singleton_append, identityCalls_append, identityCalls_host, List.append_nil]
      simp [identityCalls, Effect.identity?, isNoFill]
    rw [noFills]
    exact noLists
  case callable =>
    intro effect isMember
    obtain ⟨rfl, isCallable⟩ := lookups effect (by simpa using isMember)
    exact ⟨name, isAbout, isCallable⟩

theorem fill
    {account : String}
    (primary : GroupId)
    (capacity : Nat)
    (isCallable : isCallableName account = true) :
    CallsByContract
      [.identity (.fillGroupList account primary capacity),
        .host (.groupListLookup account primary capacity)] := by
  constructor
  case groupLists =>
    rfl
  case callable =>
    intro effect isMember
    have isLookup : effect = .groupListLookup account primary capacity := by
      simpa using isMember
    exact ⟨account, by rw [isLookup, HostEffect.lookedUp?], isCallable⟩

end History.CallsByContract

namespace NameLibrary

variable (library : NameLibrary σ)

/-- The question for a primary group is the look-up of the account, and nothing else. -/
@[simp] theorem effects_primaryGroup (account : String) (world : σ) :
    (run (library.database.primaryGroup account) world).effects =
      (run (library.account account) world).effects :=
  List.append_nil _

@[simp] theorem effects_groupId (group : String) (world : σ) :
    (run (library.database.groupId group) world).effects =
      (run (library.group group) world).effects :=
  List.append_nil _

/-- A buffer that is ever tried is handed to the library as a whole. -/
theorem run_fillGroupList
    {account : String}
    (isCallable : isCallableName account = true)
    (primary : GroupId)
    {capacity : Nat}
    (isTried : capacity ≤ maxGroupCapacity)
    (buffer : GroupBuffer capacity)
    (world : σ) :
    run (library.fillGroupList account primary buffer) world =
      let asked := library.groupList account primary capacity buffer world
      ⟨(.ok asked.1.fill, asked.1.buffer), asked.2,
        [.groupListLookup account primary capacity]⟩ := by
  have isWhole : min (capacity : Int) maxInt = capacity := by
    unfold maxGroupCapacity at isTried
    unfold maxInt
    omega
  unfold NameLibrary.fillGroupList
  rw [if_pos isCallable, isWhole]
  rfl

theorem run_attempt
    {account : String}
    (isCallable : isCallableName account = true)
    (primary : GroupId)
    {capacity : Nat}
    (isTried : capacity ≤ maxGroupCapacity)
    (world : σ) :
    run (library.database.attempt account primary capacity) world =
      let asked :=
        library.groupList account primary capacity (GroupBuffer.zeros capacity) world
      ⟨.ok (asked.1.fill.reading asked.1.buffer), asked.2,
        [.groupListLookup account primary capacity]⟩ := by
  unfold IdentityDatabase.attempt
  rw [run_map]
  simp only [NameLibrary.database, run_fillGroupList library isCallable primary isTried]
  rfl

end NameLibrary

end LoginGate
