import LoginGate.Effect

namespace LoginGate

/-!
# Reading an account's group list

The list is read into a buffer whose size has to be guessed. Each attempt
starts with a buffer of zeros; when it is too small, the next one is as large as
the database asked for, or twice as large when it asked for nothing useful.
Attempts and sizes are bounded, so a database cannot keep the gate busy.
-/

/-- The size of the first buffer. -/
def initialGroupCapacity : Nat :=
  32

/-- The largest buffer that is ever tried. -/
def maxGroupCapacity : Nat :=
  65536

/-- How many buffers are tried. -/
def maxGroupListAttempts : Nat :=
  8

/-- The largest size that fits in a machine word. -/
def maxSize : Nat :=
  UInt64.size - 1

/-- Twice a size, or the largest size when that is less. -/
def doubledSize (size : Nat) : Nat :=
  min (2 * size) maxSize

/-- The size of the buffer after one that was too small. -/
def nextGroupCapacity (capacity : Nat) (required : Option Nat) : Nat :=
  match required with
  | some size =>
      if capacity < size then size else doubledSize capacity
  | none =>
      doubledSize capacity

namespace IdentityDatabase

variable {σ ε : Type}

/-- Ask for the primary group of an account. -/
def askPrimaryGroup (database : IdentityDatabase σ ε) (account : String) :
    Interaction σ (Effect ε) (Except IdentityError (Option GroupId)) := do
  .perform (.identity (.primaryGroup account))
  (database.primaryGroup account).ofHost

/-- Ask for the group list of an account, in a fresh buffer of a given size. -/
def askGroupList
    (database : IdentityDatabase σ ε)
    (account : String)
    (primary : GroupId)
    (capacity : Nat) :
    Interaction σ (Effect ε) (Except IdentityError GroupListFill × GroupBuffer capacity) := do
  .perform (.identity (.fillGroupList account primary capacity))
  (database.fillGroupList account primary (GroupBuffer.zeros capacity)).ofHost

/-- Ask for the identifier of a group. -/
def askGroupId (database : IdentityDatabase σ ε) (group : String) :
    Interaction σ (Effect ε) (Except IdentityError (Option GroupId)) := do
  .perform (.identity (.groupId group))
  (database.groupId group).ofHost

/-- Try to read a group list with `attempts` buffers, the first of size `capacity`. -/
def readGroupList
    (database : IdentityDatabase σ ε)
    (account : String)
    (primary : GroupId) :
    (attempts capacity : Nat) →
      Interaction σ (Effect ε) (Except IdentityError (List GroupId))
  | 0, _ =>
      return .error (.groupListUnstable account maxGroupListAttempts)
  | attempts + 1, capacity => do
      let (answer, buffer) ← database.askGroupList account primary capacity
      match answer with
      | .error failure =>
          return .error failure
      | .ok (.complete count) =>
          return .ok (buffer.toList.take count)
      | .ok (.insufficient required) =>
          let next := nextGroupCapacity capacity required
          if maxGroupCapacity < next then
            return .error (.groupListTooLarge account next)
          else
            .perform (.note (.groupListGrowing account capacity next))
            database.readGroupList account primary attempts next

/-- Read the group list of an account. -/
def groupList (database : IdentityDatabase σ ε) (account : String) (primary : GroupId) :
    Interaction σ (Effect ε) (Except IdentityError (List GroupId)) :=
  database.readGroupList account primary maxGroupListAttempts initialGroupCapacity

end IdentityDatabase

end LoginGate
