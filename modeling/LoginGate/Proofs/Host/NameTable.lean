import LoginGate.Proofs.Host.LibraryCalls
import LoginGate.Proofs.Identity.FixedAnswers
import LoginGate.Simulation.Names

namespace LoginGate

/-!
# Hosts whose accounts do not change

While nobody changes the accounts and groups of a host, its library answers from a
table, and so does the database that rests on its look-ups.
-/

open Interaction

variable {σ : Type}

/-- What a host's look-ups answer as long as its accounts and groups do not change. -/
structure NameTable where
  /-- How the look-up of an account ends. -/
  account : (name : String) → Except ErrorNumber (Option GroupId)
  /-- How the look-up of a group ends. -/
  group : (name : String) → Except ErrorNumber (Option GroupId)
  groupList : (name : String) → (primary : GroupId) → List GroupId

/--
A group list call tells of a list: the buffer has as much of it as the limit allows,
the count is its whole length, and the status is -1 when that is over the limit.
-/
structure GroupListReply.TellsOf
    {capacity : Nat}
    (reply : GroupListReply capacity)
    (limit : Int)
    (buffer : GroupBuffer capacity)
    (entries : List GroupId) : Prop where
  status : reply.status = -1 ↔ limit < entries.length
  count : reply.count = entries.length
  written : reply.buffer = buffer.overwrite (entries.take limit.toNat)

/--
A host's look-ups answer from a table, whatever else the host does meanwhile. An entry is
looked up by no other calls than the one for such entries, and those are never about a
name that the C library cannot be given; nobody has such a name. A group list call is
spoken for when its name can be given and the buffer has room for the limit.
-/
structure NameLibrary.Follows (library : NameLibrary σ) (table : NameTable) : Prop where
  account :
    ∀ name world,
      (run (library.account name) world).answer =
        if isCallableName name then table.account name else .ok none
  accountCalls :
    ∀ name world,
      ∀ effect ∈ (run (library.account name) world).effects,
        effect = .accountLookup name ∧ isCallableName name = true
  group :
    ∀ name world,
      (run (library.group name) world).answer =
        if isCallableName name then table.group name else .ok none
  groupCalls :
    ∀ name world,
      ∀ effect ∈ (run (library.group name) world).effects,
        effect = .groupLookup name ∧ isCallableName name = true
  groupList :
    ∀ name primary {capacity} (buffer : GroupBuffer capacity) (limit : Int) world,
      isCallableName name = true →
      0 ≤ limit →
      limit ≤ capacity →
      (library.groupList name primary limit buffer world).1.TellsOf limit buffer
        (table.groupList name primary)

namespace NameTable

/--
The same accounts and groups in memory. A failed look-up is the failure of its name,
and nobody has a name that the library cannot be given.
-/
def inMemory (table : NameTable) : AccountTable where
  primaryGroup account :=
    if isCallableName account then
      (table.account account).mapError fun number => .account account number.message
    else
      .ok none
  groupList :=
    table.groupList
  groupId group :=
    if isCallableName group then
      (table.group group).mapError fun number => .group group number.message
    else
      .ok none

/-- The membership that a table says an account has, if its list is not too large. -/
def membership (table : NameTable) (account : String) :
    Except IdentityError (Option Membership) :=
  match table.inMemory.primaryGroup account with
  | .error failure =>
      .error failure
  | .ok none =>
      .ok none
  | .ok (some primary) =>
      let entries := table.groupList account primary
      if entries.length ≤ 65536 then
        .ok (some ⟨primary, entries⟩)
      else
        .error (.groupListTooLarge account entries.length)

/-- The attempts at the group list of an account: one, and one more when it is of use. -/
def attempts (table : NameTable) (account : String) : List IdentityCall :=
  match table.inMemory.primaryGroup account with
  | .ok (some primary) =>
      let length := (table.groupList account primary).length
      .fillGroupList account primary 32 ::
        if 32 < length ∧ length ≤ 65536 then [.fillGroupList account primary length] else []
  | _ =>
      []

end NameTable

namespace GroupListReply.TellsOf

variable {capacity : Nat} {buffer : GroupBuffer capacity} {entries : List GroupId}
variable {reply : GroupListReply capacity}

/-- What the gate reads off a reply about a list is the list, or how long it is. -/
theorem reading_eq (tells : reply.TellsOf capacity buffer entries) :
    reply.fill.reading reply.buffer =
      if entries.length ≤ capacity then
        .whole entries
      else
        .insufficient (some entries.length) := by
  unfold GroupListReply.fill
  by_cases fits : entries.length ≤ capacity
  · have succeeds : reply.status ≠ -1 := by
      rw [ne_eq, tells.status]
      omega
    rw [if_neg succeeds, if_pos fits, tells.count, tells.written, Int.toNat_natCast,
      Int.toNat_natCast, List.take_of_length_le fits]
    exact congrArg GroupListReading.whole (buffer.take_overwrite fits)
  · have refuses : reply.status = -1 := by
      rw [tells.status]
      omega
    have isSaid : 0 < reply.count := by
      rw [tells.count]
      omega
    rw [if_pos refuses, if_neg fits, if_pos isSaid, tells.count, Int.toNat_natCast]
    rfl

end GroupListReply.TellsOf

/-- A simulated reply tells of its list. -/
theorem GroupListReply.tellsOf_ofList
    (limit : Int)
    {capacity : Nat}
    (buffer : GroupBuffer capacity)
    (entries : List GroupId) :
    (GroupListReply.ofList limit buffer entries).TellsOf limit buffer entries := by
  constructor
  case status =>
    dsimp only [GroupListReply.ofList]
    split <;> omega
  case count =>
    rfl
  case written =>
    rfl

namespace NameLibrary.Follows

variable {library : NameLibrary σ} {table : NameTable}

theorem answer_primaryGroup
    (follows : library.Follows table)
    (account : String)
    (world : σ) :
    (run (library.primaryGroup account) world).answer =
      table.inMemory.primaryGroup account := by
  simp only [primaryGroup, run_bind, run_pure, follows.account, NameTable.inMemory]
  split <;> rfl

theorem answer_groupId (follows : library.Follows table) (group : String) (world : σ) :
    (run (library.groupId group) world).answer = table.inMemory.groupId group := by
  simp only [groupId, run_bind, run_pure, follows.group, NameTable.inMemory]
  split <;> rfl

theorem answer_attempt
    (follows : library.Follows table)
    {account : String}
    (isCallable : isCallableName account = true)
    (primary : GroupId)
    {capacity : Nat}
    (isTried : capacity ≤ maxGroupCapacity)
    (world : σ) :
    (run (library.database.attempt account primary capacity) world).answer =
      table.inMemory.answers.attempt account primary capacity := by
  have tells := follows.groupList account primary (GroupBuffer.zeros capacity) capacity world
    isCallable (Int.natCast_nonneg capacity) (Int.le_refl capacity)
  rw [run_attempt library isCallable primary isTried]
  exact congrArg Except.ok tells.reading_eq

end NameLibrary.Follows

end LoginGate
