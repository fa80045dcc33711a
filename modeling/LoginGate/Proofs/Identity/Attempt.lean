import LoginGate.Identity.Exemption

namespace LoginGate

/-!
# What one attempt at a group list tells

The gate looks into the buffer of an attempt only when the attempt is said to be
complete, and then only at the entries that are counted. What an attempt tells
is therefore a list or a wish for more room, and the rest of the buffer is of no
account.
-/

open Interaction

variable {σ ε : Type}

/-- What an attempt at a group list tells when it does not fail. -/
inductive GroupListReading where
  | whole (entries : List GroupId)
  | insufficient (required : Option Nat)
  deriving Repr, DecidableEq

/-- What the gate reads off an attempt and the buffer that it left. -/
def GroupListFill.reading {capacity : Nat} (buffer : GroupBuffer capacity) :
    GroupListFill → GroupListReading
  | .complete count =>
      .whole (buffer.toList.take count)
  | .insufficient required =>
      .insufficient required

/-- What is written over the front of a buffer can be read there. -/
theorem GroupBuffer.take_overwrite
    {capacity : Nat}
    (buffer : GroupBuffer capacity)
    {entries : List GroupId}
    (fits : entries.length ≤ capacity) :
    (buffer.overwrite entries).toList.take entries.length = entries := by
  apply List.ext_getElem
  · simp [Nat.min_eq_left fits]
  · intro index isTaken isEntry
    simp [GroupBuffer.overwrite, isEntry]

/-- The answer of a database that holds a whole list tells the list or its length. -/
theorem GroupListFill.reading_ofList
    {capacity : Nat}
    (entries : List GroupId)
    (buffer : GroupBuffer capacity) :
    (GroupListFill.ofList entries buffer).1.reading (GroupListFill.ofList entries buffer).2 =
      if entries.length ≤ capacity then
        .whole entries
      else
        .insufficient (some entries.length) := by
  unfold GroupListFill.ofList
  split
  · rename_i fits
    exact congrArg GroupListReading.whole (buffer.take_overwrite fits)
  · rfl

namespace IdentityDatabase

variable (database : IdentityDatabase σ ε) (account : String) (primary : GroupId)

/-- One attempt at a group list, in a buffer of zeros. -/
def attempt (capacity : Nat) : Interaction σ ε (Except IdentityError GroupListReading) :=
  (fun filled => filled.1.map (GroupListFill.reading filled.2)) <$>
    database.fillGroupList account primary (GroupBuffer.zeros capacity)

/-- One attempt at a group list, as a part of a run of the gate. -/
def askAttempt (capacity : Nat) :
    Interaction σ (Effect ε) (Except IdentityError GroupListReading) := do
  .perform (.identity (.fillGroupList account primary capacity))
  (database.attempt account primary capacity).ofHost

@[simp] theorem run_askAttempt (capacity : Nat) (world : σ) :
    run (database.askAttempt account primary capacity) world =
      ⟨(run (database.attempt account primary capacity) world).answer,
        (run (database.attempt account primary capacity) world).world,
        .identity (.fillGroupList account primary capacity) ::
          (run (database.attempt account primary capacity) world).effects.map .host⟩ := by
  simp [askAttempt]

/-- How the search for a group list goes on behind one attempt. -/
def behindAttempt (attempts capacity : Nat) :
    Except IdentityError GroupListReading →
      Interaction σ (Effect ε) (Except IdentityError (List GroupId))
  | .error failure =>
      return .error failure
  | .ok (.whole entries) =>
      return .ok entries
  | .ok (.insufficient required) =>
      let next := nextGroupCapacity capacity required
      if maxGroupCapacity < next then
        return .error (.groupListTooLarge account next)
      else do
        .perform (.note (.groupListGrowing account capacity next))
        database.readGroupList account primary attempts next

/-- The search for a group list makes one attempt and goes on with what it tells. -/
theorem readGroupList_succ (attempts capacity : Nat) :
    database.readGroupList account primary (attempts + 1) capacity =
      database.askAttempt account primary capacity >>=
        database.behindAttempt account primary attempts capacity := by
  apply ext_run
  intro world
  simp only [readGroupList, askGroupList, askAttempt, attempt, run_bind, run_perform,
    run_ofHost, run_map]
  rcases (run (database.fillGroupList account primary (GroupBuffer.zeros capacity))
    world).answer with ⟨answer, buffer⟩
  cases answer with
  | error failure =>
      rfl
  | ok fill =>
      cases fill <;> rfl

end IdentityDatabase

end LoginGate
