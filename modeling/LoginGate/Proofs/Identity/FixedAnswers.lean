import LoginGate.Proofs.Identity.Attempt

namespace LoginGate

/-!
# Databases with fixed answers

A table of answers says what a database answers to each question. A database
gives the answers of a table when it answers so in every world, however the
world changes meanwhile. A weaker database may also fail, or not find what the
table has.
-/

open Interaction

variable {σ ε : Type}

/-- What a database answers, as a function of the question. -/
structure IdentityAnswers where
  primaryGroup : (account : String) → Except IdentityError (Option GroupId)
  attempt :
    (account : String) → (primary : GroupId) → (capacity : Nat) →
      Except IdentityError GroupListReading
  groupId : (group : String) → Except IdentityError (Option GroupId)

/-- The answer of a look-up, or that nothing was found, or any failure. -/
inductive LookupWeakens (full : Except IdentityError (Option GroupId)) :
    Except IdentityError (Option GroupId) → Prop where
  | same : LookupWeakens full full
  | missing : LookupWeakens full (.ok none)
  | failed {failure : IdentityError} : LookupWeakens full (.error failure)

/-- What an attempt at a group list tells, or any failure. -/
inductive AttemptWeakens (full : Except IdentityError GroupListReading) :
    Except IdentityError GroupListReading → Prop where
  | same : AttemptWeakens full full
  | failed {failure : IdentityError} : AttemptWeakens full (.error failure)

namespace IdentityDatabase

/-- In every world, a database answers as a table says. -/
structure Gives (database : IdentityDatabase σ ε) (answers : IdentityAnswers) : Prop where
  primaryGroup :
    ∀ account world,
      (run (database.primaryGroup account) world).answer = answers.primaryGroup account
  attempt :
    ∀ account primary capacity world,
      (run (database.attempt account primary capacity) world).answer =
        answers.attempt account primary capacity
  groupId :
    ∀ group world, (run (database.groupId group) world).answer = answers.groupId group

/-- In every world, a database answers as a table says, or finds nothing, or fails. -/
structure Weakens (database : IdentityDatabase σ ε) (answers : IdentityAnswers) : Prop where
  primaryGroup :
    ∀ account world,
      LookupWeakens (answers.primaryGroup account)
        (run (database.primaryGroup account) world).answer
  attempt :
    ∀ account primary capacity world,
      AttemptWeakens (answers.attempt account primary capacity)
        (run (database.attempt account primary capacity) world).answer
  groupId :
    ∀ group world,
      LookupWeakens (answers.groupId group) (run (database.groupId group) world).answer

end IdentityDatabase

/-- Accounts and groups that do not change, with the whole group list of each account. -/
structure AccountTable where
  primaryGroup : (account : String) → Except IdentityError (Option GroupId)
  groupList : (account : String) → (primary : GroupId) → List GroupId
  groupId : (group : String) → Except IdentityError (Option GroupId)

namespace AccountTable

/-- The database that answers from a table, and says how much room a group list needs. -/
def database (table : AccountTable) : IdentityDatabase σ ε where
  primaryGroup account :=
    pure (table.primaryGroup account)
  fillGroupList account primary _ buffer :=
    let filled := GroupListFill.ofList (table.groupList account primary) buffer
    pure (.ok filled.1, filled.2)
  groupId group :=
    pure (table.groupId group)

/-- The answers of a table, as functions of the question. -/
def answers (table : AccountTable) : IdentityAnswers where
  primaryGroup :=
    table.primaryGroup
  attempt account primary capacity :=
    let entries := table.groupList account primary
    .ok (if entries.length ≤ capacity then
        .whole entries
      else
        .insufficient (some entries.length))
  groupId :=
    table.groupId

theorem gives (table : AccountTable) :
    (table.database : IdentityDatabase σ ε).Gives table.answers := by
  constructor
  case primaryGroup =>
    intro account world
    rfl
  case attempt =>
    intro account primary capacity world
    simp only [IdentityDatabase.attempt, run_map]
    exact congrArg Except.ok (GroupListFill.reading_ofList _ _)
  case groupId =>
    intro group world
    rfl

variable (table : AccountTable) (account : String) (primary : GroupId)

theorem run_attempt (capacity : Nat) (world : σ) :
    run ((table.database : IdentityDatabase σ ε).attempt account primary capacity) world =
      ⟨table.answers.attempt account primary capacity, world, []⟩ :=
  congrArg (fun answer => Report.mk answer world [])
    (table.gives.attempt account primary capacity world)

/-- How the search for a group list goes on behind an attempt in a buffer of some size. -/
theorem run_readGroupList_succ (attempts capacity : Nat) (world : σ) :
    run ((table.database : IdentityDatabase σ ε).readGroupList account primary (attempts + 1)
        capacity) world =
      let behind :=
        run ((table.database : IdentityDatabase σ ε).behindAttempt account primary attempts
          capacity (table.answers.attempt account primary capacity)) world
      ⟨behind.answer, behind.world,
        .identity (.fillGroupList account primary capacity) :: behind.effects⟩ := by
  rw [IdentityDatabase.readGroupList_succ, run_bind, IdentityDatabase.run_askAttempt,
    run_attempt]
  rfl

/-- A buffer that holds the list ends the search. -/
theorem run_readGroupList_of_fits
    (attempts : Nat)
    {capacity : Nat}
    (fits : (table.groupList account primary).length ≤ capacity)
    (world : σ) :
    run ((table.database : IdentityDatabase σ ε).readGroupList account primary (attempts + 1)
        capacity) world =
      ⟨.ok (table.groupList account primary), world,
        [.identity (.fillGroupList account primary capacity)]⟩ := by
  rw [run_readGroupList_succ]
  simp only [answers, if_pos fits]
  rfl

theorem run_groupList (world : σ) :
    run ((table.database : IdentityDatabase σ ε).groupList account primary) world =
      let entries := table.groupList account primary
      ⟨if entries.length ≤ 65536 then
          .ok entries
        else
          .error (.groupListTooLarge account entries.length),
        world,
        .identity (.fillGroupList account primary 32) ::
          if 32 < entries.length ∧ entries.length ≤ 65536 then
            [.note (.groupListGrowing account 32 entries.length),
              .identity (.fillGroupList account primary entries.length)]
          else
            []⟩ := by
  unfold IdentityDatabase.groupList maxGroupListAttempts initialGroupCapacity
  dsimp only
  by_cases fits : (table.groupList account primary).length ≤ 32
  · rw [table.run_readGroupList_of_fits account primary 7 fits, if_pos (by omega),
      if_neg (by omega)]
  · have isUnread : 32 < (table.groupList account primary).length :=
      Nat.lt_of_not_le fits
    rw [run_readGroupList_succ]
    by_cases isBounded : (table.groupList account primary).length ≤ 65536
    · rw [if_pos isBounded, if_pos ⟨isUnread, isBounded⟩]
      simp only [answers, if_neg fits, IdentityDatabase.behindAttempt, nextGroupCapacity,
        if_pos isUnread, maxGroupCapacity, if_neg (Nat.not_lt.mpr isBounded), run_bind,
        run_perform, table.run_readGroupList_of_fits account primary 6 (Nat.le_refl _)]
      rfl
    · rw [if_neg isBounded, if_neg (fun both => isBounded both.2)]
      simp only [answers, if_neg fits, IdentityDatabase.behindAttempt, nextGroupCapacity,
        if_pos isUnread, maxGroupCapacity, if_pos (Nat.lt_of_not_le isBounded), run_pure]

end AccountTable

end LoginGate
