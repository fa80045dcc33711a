import LoginGate.Identity.Error
import LoginGate.Interaction

namespace LoginGate

/-!
# The account database

The gate sees the host's accounts and groups through three questions. Nothing
is assumed about a database: it may answer the same question differently the
next time, it may fail at any time, and it may have effects of its own.
-/

/-- A numeric group identifier. -/
abbrev GroupId :=
  UInt32

/-- Room for `capacity` group identifiers. -/
abbrev GroupBuffer (capacity : Nat) :=
  Vector GroupId capacity

namespace GroupBuffer

/-- A buffer of zeros. -/
def zeros (capacity : Nat) : GroupBuffer capacity :=
  Vector.replicate capacity 0

/-- A buffer whose front is overwritten by a list, as far as there is room. -/
def overwrite {capacity : Nat} (buffer : GroupBuffer capacity) (entries : List GroupId) :
    GroupBuffer capacity :=
  let written := entries.toArray
  buffer.mapIdx fun index old => written[index]?.getD old

end GroupBuffer

/-- How one attempt at filling a buffer with group identifiers ended. -/
inductive GroupListFill where
  /-- The given number of entries at the front of the buffer are the list. -/
  | complete (count : Nat)
  /-- The buffer is too small; the database may say how much room it needs. -/
  | insufficient (required : Option Nat)
  deriving Repr, DecidableEq

/--
A local database of accounts and groups, over a world `σ` and with effects `ε`
of its own.
-/
structure IdentityDatabase (σ ε : Type) where
  /-- The primary group of an account, if there is such an account. -/
  primaryGroup :
    (account : String) →
      Interaction σ ε (Except IdentityError (Option GroupId))
  /-- Write the groups of an account, its primary group among them, into a buffer. -/
  fillGroupList :
    (account : String) →
    (primary : GroupId) →
    {capacity : Nat} →
    GroupBuffer capacity →
      Interaction σ ε (Except IdentityError GroupListFill × GroupBuffer capacity)
  /-- The identifier of a group, if there is such a group. -/
  groupId :
    (group : String) →
      Interaction σ ε (Except IdentityError (Option GroupId))

/-- One question put to an account database. -/
inductive IdentityCall where
  | primaryGroup (account : String)
  | fillGroupList (account : String) (primary : GroupId) (capacity : Nat)
  | groupId (group : String)
  deriving Repr, DecidableEq

/--
The answer of a database that holds a whole list: the list when the buffer has
room for it, and otherwise the room that it needs.
-/
def GroupListFill.ofList {capacity : Nat} (entries : List GroupId) (buffer : GroupBuffer capacity) :
    GroupListFill × GroupBuffer capacity :=
  if entries.length ≤ capacity then
    (.complete entries.length, buffer.overwrite entries)
  else
    (.insufficient (some entries.length), buffer)

namespace IdentityDatabase

variable {σ τ ε : Type}

/-- A database that lives in one part of a larger world. -/
def within (part : τ → σ) (replace : σ → τ → τ) (database : IdentityDatabase σ ε) :
    IdentityDatabase τ ε where
  primaryGroup account :=
    (database.primaryGroup account).within part replace
  fillGroupList account primary _ buffer :=
    (database.fillGroupList account primary buffer).within part replace
  groupId group :=
    (database.groupId group).within part replace

end IdentityDatabase

end LoginGate
