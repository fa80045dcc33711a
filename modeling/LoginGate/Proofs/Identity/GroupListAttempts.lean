import LoginGate.Proofs.Alike
import LoginGate.Proofs.Identity.Attempt

namespace LoginGate

/-!
# The attempts at a group list

A database may answer every attempt at a group list as it likes. Its answers make
a sequence of attempts, each in a buffer of zeros that is larger than the one
before it, and the list is read off the first attempt that ends the search: one
that fails, one that is complete, one that asks for too much room, or the eighth.
-/

open Interaction

variable {σ ε : Type}

/-- One attempt at a group list: the size of its buffer, and the world in which it is made. -/
structure GroupListAttempt (σ : Type) where
  capacity : Nat
  world : σ

/-- The attempt with which a search begins. -/
def GroupListAttempt.first (world : σ) : GroupListAttempt σ :=
  ⟨32, world⟩

/-- The room behind a buffer that was too small: what is asked for if that is more, else double. -/
def grownCapacity (capacity : Nat) : (required : Option Nat) → Nat
  | some size =>
      if capacity < size then size else 2 * capacity
  | none =>
      2 * capacity

theorem lt_grownCapacity {capacity : Nat} (positive : 0 < capacity) (required : Option Nat) :
    capacity < grownCapacity capacity required := by
  unfold grownCapacity
  split
  · split <;> omega
  · omega

/-- A size that is tried is far from the largest one that there is. -/
theorem doubledSize_of_le {capacity : Nat} (isTried : capacity ≤ 65536) :
    doubledSize capacity = 2 * capacity := by
  unfold doubledSize maxSize UInt64.size
  omega

theorem nextGroupCapacity_of_le {capacity : Nat} (isTried : capacity ≤ 65536)
    (required : Option Nat) :
    nextGroupCapacity capacity required = grownCapacity capacity required := by
  unfold nextGroupCapacity grownCapacity
  cases required <;> simp only [doubledSize_of_le isTried]

namespace IdentityDatabase

variable (database : IdentityDatabase σ ε) (account : String) (primary : GroupId)

/-- What the database does in an attempt, to a buffer of zeros. -/
def filling (attempt : GroupListAttempt σ) :
    Report σ ε (Except IdentityError GroupListFill × GroupBuffer attempt.capacity) :=
  run (database.fillGroupList account primary (GroupBuffer.zeros attempt.capacity))
    attempt.world

/-- The room for the attempt behind one whose buffer was too small. -/
def wantedRoom? (attempt : GroupListAttempt σ) : Option Nat :=
  match (database.filling account primary attempt).answer.1 with
  | .ok (.insufficient required) =>
      some (grownCapacity attempt.capacity required)
  | _ =>
      none

/-- The attempt behind another one. -/
def nextAttempt (attempt : GroupListAttempt σ) : GroupListAttempt σ :=
  ⟨(database.wantedRoom? account primary attempt).getD attempt.capacity,
    (database.filling account primary attempt).world⟩

/-- The attempt at an index, when all before it found their buffers too small. -/
def attemptAt (first : GroupListAttempt σ) : (index : Nat) → GroupListAttempt σ
  | 0 =>
      first
  | index + 1 =>
      database.nextAttempt account primary (attemptAt first index)

/--
What the search ends with at an attempt, if it ends there, when so many attempts
are left behind it.

A complete attempt gives the counted entries of its own buffer, however many the
database counts. Too much room is refused before the attempts run out.
-/
def ending (left : Nat) (attempt : GroupListAttempt σ) :
    Option (Except IdentityError (List GroupId)) :=
  match (database.filling account primary attempt).answer with
  | (.error failure, _) =>
      some (.error failure)
  | (.ok (.complete count), buffer) =>
      some (.ok (buffer.toList.take (min count attempt.capacity)))
  | (.ok (.insufficient required), _) =>
      let room := grownCapacity attempt.capacity required
      if 65536 < room then
        some (.error (.groupListTooLarge account room))
      else if left = 0 then
        some (.error (.groupListUnstable account 8))
      else
        none

/-- What the gate does in an attempt: its question, and a note when the buffer is to grow. -/
def attemptDeeds (attempt : GroupListAttempt σ) : History Empty :=
  .identity (.fillGroupList account primary attempt.capacity) ::
    match database.wantedRoom? account primary attempt with
    | some room =>
        if 65536 < room then
          []
        else
          [.note (.groupListGrowing account attempt.capacity room)]
    | none =>
        []

theorem attemptAt_succ (first : GroupListAttempt σ) (index : Nat) :
    database.attemptAt account primary first (index + 1) =
      database.attemptAt account primary (database.nextAttempt account primary first)
        index := by
  induction index with
  | zero =>
      rfl
  | succ index inductionHypothesis =>
      exact congrArg (database.nextAttempt account primary) inductionHypothesis

variable {database account primary}

/-- A buffer that is too small ends the search when there is no room or no attempt left. -/
theorem ending_of_insufficient
    {attempt : GroupListAttempt σ}
    {required : Option Nat}
    (tooSmall :
      (database.filling account primary attempt).answer.1 = .ok (.insufficient required))
    (left : Nat) :
    database.ending account primary left attempt =
      if 65536 < grownCapacity attempt.capacity required then
        some (.error (.groupListTooLarge account (grownCapacity attempt.capacity required)))
      else if left = 0 then
        some (.error (.groupListUnstable account 8))
      else
        none := by
  rcases answered : (database.filling account primary attempt).answer with ⟨answer, buffer⟩
  rw [answered] at tooSmall
  cases tooSmall
  rw [ending, answered]

/-- An attempt that does not end the search has one of bounded room behind it. -/
theorem exists_room_of_ending_eq_none
    {left : Nat}
    {attempt : GroupListAttempt σ}
    (goesOn : database.ending account primary left attempt = none) :
    ∃ required,
      (database.filling account primary attempt).answer.1 = .ok (.insufficient required) ∧
        grownCapacity attempt.capacity required ≤ 65536 ∧
        left ≠ 0 := by
  rcases answered : (database.filling account primary attempt).answer with ⟨answer, buffer⟩
  cases answer with
  | error failure =>
      rw [ending, answered] at goesOn
      cases goesOn
  | ok fill =>
      cases fill with
      | complete count =>
          rw [ending, answered] at goesOn
          cases goesOn
      | insufficient required =>
          rw [ending_of_insufficient (congrArg Prod.fst answered)] at goesOn
          split at goesOn
          · cases goesOn
          · rename_i isBounded
            split at goesOn
            · cases goesOn
            · rename_i isFollowed
              exact ⟨required, rfl, Nat.le_of_not_lt isBounded, isFollowed⟩

theorem nextAttempt_of_insufficient
    {attempt : GroupListAttempt σ}
    {required : Option Nat}
    (tooSmall :
      (database.filling account primary attempt).answer.1 = .ok (.insufficient required)) :
    database.nextAttempt account primary attempt =
      ⟨grownCapacity attempt.capacity required,
        (database.filling account primary attempt).world⟩ := by
  simp [nextAttempt, wantedRoom?, tooSmall]

/-- What an attempt tells is read off what the database did in it. -/
theorem run_attempt (attempt : GroupListAttempt σ) :
    run (database.attempt account primary attempt.capacity) attempt.world =
      let filled := database.filling account primary attempt
      ⟨filled.answer.1.map (GroupListFill.reading filled.answer.2), filled.world,
        filled.effects⟩ := by
  rw [IdentityDatabase.attempt, run_map]
  rfl

/-- A search is one attempt, and what follows from it. -/
theorem run_readGroupList_succ (left : Nat) (attempt : GroupListAttempt σ) :
    run (database.readGroupList account primary (left + 1) attempt.capacity) attempt.world =
      let filled := database.filling account primary attempt
      let rest :=
        run (database.behindAttempt account primary left attempt.capacity
          (filled.answer.1.map (GroupListFill.reading filled.answer.2))) filled.world
      ⟨rest.answer, rest.world,
        .identity (.fillGroupList account primary attempt.capacity) ::
          (filled.effects.map .host ++ rest.effects)⟩ := by
  rw [readGroupList_succ, run_bind, run_askAttempt, run_attempt]
  rfl

/-- What a search does is its question, and what follows from the answer. -/
theorem deeds_cons_fill
    (capacity : Nat)
    (own : List ε)
    (rest : History ε) :
    History.deeds
        (.identity (.fillGroupList account primary capacity) :: (own.map .host ++ rest)) =
      .identity (.fillGroupList account primary capacity) :: rest.deeds := by
  rw [← List.singleton_append, History.deeds_append, History.deeds_append, History.deeds_host]
  rfl

/-- An attempt that ends the search is the last thing that the search does. -/
theorem readGroupList_of_ending
    {left : Nat}
    {attempt : GroupListAttempt σ}
    {listed : Except IdentityError (List GroupId)}
    (isTried : attempt.capacity ≤ 65536)
    (ends : database.ending account primary left attempt = some listed) :
    let report :=
      run (database.readGroupList account primary (left + 1) attempt.capacity) attempt.world
    report.answer = listed ∧
      report.world = (database.filling account primary attempt).world ∧
      History.deeds report.effects = database.attemptDeeds account primary attempt := by
  rw [run_readGroupList_succ]
  simp only [deeds_cons_fill]
  rcases answered : (database.filling account primary attempt).answer with ⟨answer, buffer⟩
  simp only [ending, answered] at ends
  simp only [attemptDeeds, wantedRoom?, answered]
  cases answer with
  | error failure =>
      cases ends
      exact ⟨rfl, rfl, rfl⟩
  | ok fill =>
      cases fill with
      | complete count =>
          cases ends
          have counted :
              buffer.toList.take count =
                buffer.toList.take (min count attempt.capacity) := by
            rw [List.take_eq_take_iff, Vector.length_toList, Nat.min_assoc, Nat.min_self]
          exact ⟨congrArg Except.ok counted, rfl, rfl⟩
      | insufficient required =>
          dsimp only at ends
          simp only [Except.map, GroupListFill.reading, behindAttempt,
            nextGroupCapacity_of_le isTried, maxGroupCapacity]
          split at ends
          · rename_i isTooLarge
            cases ends
            simp only [if_pos isTooLarge]
            exact ⟨rfl, rfl, rfl⟩
          · rename_i isBounded
            split at ends
            · rename_i isLast
              cases ends
              subst isLast
              simp only [if_neg isBounded]
              exact ⟨rfl, rfl, rfl⟩
            · cases ends

/-- An attempt that does not end the search is followed by the search with the next one. -/
theorem readGroupList_of_going_on
    {left : Nat}
    {attempt : GroupListAttempt σ}
    (isTried : attempt.capacity ≤ 65536)
    (goesOn : database.ending account primary left attempt = none) :
    let next := database.nextAttempt account primary attempt
    let report :=
      run (database.readGroupList account primary (left + 1) attempt.capacity) attempt.world
    let rest := run (database.readGroupList account primary left next.capacity) next.world
    report.answer = rest.answer ∧
      report.world = rest.world ∧
      History.deeds report.effects =
        database.attemptDeeds account primary attempt ++ History.deeds rest.effects := by
  obtain ⟨required, tooSmall, isBounded, -⟩ := exists_room_of_ending_eq_none goesOn
  have noEnd : ¬ 65536 < grownCapacity attempt.capacity required :=
    Nat.not_lt.mpr isBounded
  rw [run_readGroupList_succ, nextAttempt_of_insufficient tooSmall]
  simp only [deeds_cons_fill, attemptDeeds, wantedRoom?, tooSmall, Except.map,
    GroupListFill.reading, behindAttempt, nextGroupCapacity_of_le isTried, maxGroupCapacity,
    if_neg noEnd]
  exact ⟨rfl, rfl, rfl⟩

/--
A search that has so many attempts left behind its first one: what it answers and
does, by the index of the attempt that ends it.
-/
structure EndsAt
    (database : IdentityDatabase σ ε)
    (account : String)
    (primary : GroupId)
    (left : Nat)
    (first : GroupListAttempt σ)
    (last : Nat)
    (report : Report σ (Effect ε) (Except IdentityError (List GroupId))) : Prop where
  isMade : last ≤ left
  goesOn :
    ∀ index < last,
      database.ending account primary (left - index)
        (database.attemptAt account primary first index) = none
  ends :
    database.ending account primary (left - last)
      (database.attemptAt account primary first last) = some report.answer
  world :
    report.world =
      (database.filling account primary
        (database.attemptAt account primary first last)).world
  deeds :
    History.deeds report.effects =
      (List.range (last + 1)).flatMap fun index =>
        database.attemptDeeds account primary (database.attemptAt account primary first index)

/-- A search whose first attempt ends it ends there. -/
theorem EndsAt.of_ending
    {left : Nat}
    {first : GroupListAttempt σ}
    {listed : Except IdentityError (List GroupId)}
    (isTried : first.capacity ≤ 65536)
    (ends : database.ending account primary left first = some listed) :
    database.EndsAt account primary left first 0
      (run (database.readGroupList account primary (left + 1) first.capacity) first.world) := by
  obtain ⟨answer, world, deeds⟩ := readGroupList_of_ending isTried ends
  constructor
  case isMade =>
    exact Nat.zero_le left
  case goesOn =>
    intro index isEarlier
    cases isEarlier
  case ends =>
    exact ends.trans (congrArg some answer.symm)
  case world =>
    exact world
  case deeds =>
    simpa [attemptAt] using deeds

/-- A search that goes on ends where the search with the next attempt ends. -/
theorem EndsAt.of_going_on
    {left : Nat}
    {first : GroupListAttempt σ}
    (isTried : first.capacity ≤ 65536)
    (goesOn : database.ending account primary (left + 1) first = none)
    {last : Nat}
    (rest :
      let next := database.nextAttempt account primary first
      database.EndsAt account primary left next last
        (run (database.readGroupList account primary (left + 1) next.capacity) next.world)) :
    database.EndsAt account primary (left + 1) first (last + 1)
      (run (database.readGroupList account primary (left + 1 + 1) first.capacity)
        first.world) := by
  obtain ⟨answer, world, deeds⟩ := readGroupList_of_going_on isTried goesOn
  constructor
  case isMade =>
    exact Nat.succ_le_succ rest.isMade
  case goesOn =>
    intro index isEarlier
    cases index with
    | zero =>
        exact goesOn
    | succ index =>
        rw [attemptAt_succ, Nat.add_sub_add_right]
        exact rest.goesOn index (Nat.lt_of_succ_lt_succ isEarlier)
  case ends =>
    rw [attemptAt_succ, Nat.add_sub_add_right, answer]
    exact rest.ends
  case world =>
    rw [attemptAt_succ, world]
    exact rest.world
  case deeds =>
    rw [deeds, rest.deeds, List.range_succ_eq_map (n := last + 1)]
    simp only [List.flatMap_cons, List.flatMap_map, attemptAt_succ]
    rfl

/-- The search ends at one of its attempts. -/
theorem exists_endsAt
    (database : IdentityDatabase σ ε)
    (account : String)
    (primary : GroupId)
    (left : Nat)
    (first : GroupListAttempt σ)
    (isTried : first.capacity ≤ 65536) :
    ∃ last,
      database.EndsAt account primary left first last
        (run (database.readGroupList account primary (left + 1) first.capacity) first.world) := by
  -- The attempts behind the first one are a search of their own, with one attempt less.
  induction left generalizing first with
  | zero =>
      cases ends : database.ending account primary 0 first with
      | some listed =>
          exact ⟨0, .of_ending isTried ends⟩
      | none =>
          obtain ⟨_, _, _, notLast⟩ := exists_room_of_ending_eq_none ends
          exact (notLast rfl).elim
  | succ left inductionHypothesis =>
      cases ends : database.ending account primary (left + 1) first with
      | some listed =>
          exact ⟨0, .of_ending isTried ends⟩
      | none =>
          obtain ⟨required, tooSmall, isBounded, _⟩ := exists_room_of_ending_eq_none ends
          have nextIsTried :
              (database.nextAttempt account primary first).capacity ≤ 65536 := by
            rw [nextAttempt_of_insufficient tooSmall]
            exact isBounded
          obtain ⟨last, rest⟩ := inductionHypothesis _ nextIsTried
          exact ⟨last + 1, .of_going_on isTried ends rest⟩

namespace EndsAt

variable {left last : Nat} {first : GroupListAttempt σ}
variable {report : Report σ (Effect ε) (Except IdentityError (List GroupId))}

/-- From one attempt to the next there is more room, and never too much. -/
theorem growth
    (endsAt : database.EndsAt account primary left first last report)
    {index : Nat}
    (isEarlier : index < last)
    (positive : 0 < (database.attemptAt account primary first index).capacity) :
    (database.attemptAt account primary first index).capacity <
        (database.attemptAt account primary first (index + 1)).capacity ∧
      (database.attemptAt account primary first (index + 1)).capacity ≤ 65536 := by
  obtain ⟨required, tooSmall, isBounded, _⟩ :=
    exists_room_of_ending_eq_none (endsAt.goesOn index isEarlier)
  rw [attemptAt, nextAttempt_of_insufficient tooSmall]
  exact ⟨lt_grownCapacity positive required, isBounded⟩

/-- No buffer is smaller than the first one, and none is too large. -/
theorem bounds
    (endsAt : database.EndsAt account primary left first last report)
    (positive : 0 < first.capacity)
    (isTried : first.capacity ≤ 65536)
    {index : Nat}
    (isMade : index ≤ last) :
    first.capacity ≤ (database.attemptAt account primary first index).capacity ∧
      (database.attemptAt account primary first index).capacity ≤ 65536 := by
  induction index with
  | zero =>
      exact ⟨Nat.le_refl _, isTried⟩
  | succ index inductionHypothesis =>
      have before := inductionHypothesis (Nat.le_of_succ_le isMade)
      have grown := endsAt.growth isMade (Nat.lt_of_lt_of_le positive before.1)
      exact ⟨Nat.le_of_lt (Nat.lt_of_le_of_lt before.1 grown.1), grown.2⟩

end EndsAt

/--
The groups of an account are read in at most eight attempts, from a world `start`
in which its primary group is known. The first buffer has room for 32 groups, every
further one for more and none for over 65536, so that doubling is exact; and the
first attempt that ends the search says what is known about the account.
-/
structure ReadsMembership
    (database : IdentityDatabase σ ε)
    (account : String)
    (primary : GroupId)
    (start : σ)
    (last : Nat)
    (report : Report σ (Effect ε) (Except IdentityError (Option Membership))) : Prop where
  isMade : last < 8
  goesOn :
    ∀ index < last,
      database.ending account primary (7 - index)
        (database.attemptAt account primary (.first start) index) = none
  ends :
    ∃ listed,
      database.ending account primary (7 - last)
          (database.attemptAt account primary (.first start) last) = some listed ∧
        report.answer = listed.map fun supplementary => some ⟨primary, supplementary⟩
  world :
    report.world =
      (database.filling account primary
        (database.attemptAt account primary (.first start) last)).world
  deeds :
    History.deeds report.effects =
      .identity (.primaryGroup account) ::
        (List.range (last + 1)).flatMap fun index =>
          database.attemptDeeds account primary
            (database.attemptAt account primary (.first start) index)
  increasing :
    ∀ index < last,
      (database.attemptAt account primary (.first start) index).capacity <
        (database.attemptAt account primary (.first start) (index + 1)).capacity
  bounds :
    ∀ index ≤ last,
      32 ≤ (database.attemptAt account primary (.first start) index).capacity ∧
        (database.attemptAt account primary (.first start) index).capacity ≤ 65536
  doubling :
    ∀ index ≤ last,
      doubledSize (database.attemptAt account primary (.first start) index).capacity =
        2 * (database.attemptAt account primary (.first start) index).capacity

/-- The question of an attempt is the only one that it puts to the database. -/
theorem identityCalls_attemptDeeds (attempt : GroupListAttempt σ) :
    History.identityCalls (database.attemptDeeds account primary attempt) =
      [.fillGroupList account primary attempt.capacity] := by
  unfold attemptDeeds
  split
  · split <;> rfl
  · rfl

/-- The questions are one for the primary group, and one for each attempt. -/
theorem ReadsMembership.identityCalls_eq
    {start : σ}
    {last : Nat}
    {report : Report σ (Effect ε) (Except IdentityError (Option Membership))}
    (reads : database.ReadsMembership account primary start last report) :
    report.identityCalls =
      .primaryGroup account ::
        (List.range (last + 1)).map fun index =>
          .fillGroupList account primary
            (database.attemptAt account primary (.first start) index).capacity := by
  rw [Report.identityCalls, ← History.identityCalls_deeds, reads.deeds]
  simp only [History.identityCalls, List.filterMap_cons, Effect.identity?, List.filterMap_flatMap]
  congr 1
  rw [List.map_eq_flatMap]
  congr 1
  funext index
  exact identityCalls_attemptDeeds _

/-- Reading the groups of a known account is reading its group list. -/
theorem run_membership_of_known
    {world : σ}
    (known : (run (database.primaryGroup account) world).answer = .ok (some primary)) :
    let listing :=
      run (database.groupList account primary) (run (database.primaryGroup account) world).world
    let report := run (database.membership account) world
    report.answer = listing.answer.map (fun supplementary => some ⟨primary, supplementary⟩) ∧
      report.world = listing.world ∧
      History.deeds report.effects =
        .identity (.primaryGroup account) :: History.deeds listing.effects := by
  simp only [membership, askPrimaryGroup, run_bind, run_perform, run_ofHost, known]
  cases (run (database.groupList account primary)
      (run (database.primaryGroup account) world).world).answer <;>
    refine ⟨rfl, rfl, ?_⟩ <;>
    simp [History.deeds, Effect.deed?]

/-- The search for the group list of an account ends at one of at most eight attempts. -/
theorem exists_endsAt_groupList
    (database : IdentityDatabase σ ε)
    (account : String)
    (primary : GroupId)
    (world : σ) :
    ∃ last,
      database.EndsAt account primary 7 (.first world) last
        (run (database.groupList account primary) world) :=
  have isTried : 32 ≤ 65536 := by
    decide
  database.exists_endsAt account primary 7 (.first world) isTried

/-- The attempts for a known account, read as those of its membership. -/
theorem EndsAt.readsMembership
    {world : σ}
    (known : (run (database.primaryGroup account) world).answer = .ok (some primary))
    {last : Nat}
    (endsAt :
      database.EndsAt account primary 7
        (.first (run (database.primaryGroup account) world).world) last
        (run (database.groupList account primary)
          (run (database.primaryGroup account) world).world)) :
    database.ReadsMembership account primary
      (run (database.primaryGroup account) world).world last
      (run (database.membership account) world) := by
  have isPositive : 0 < 32 := by
    decide
  have isTried : 32 ≤ 65536 := by
    decide
  obtain ⟨answer, atEnd, deeds⟩ := run_membership_of_known known
  have bounds : ∀ index ≤ last, _ :=
    fun index isMade => endsAt.bounds isPositive isTried isMade
  constructor
  case isMade =>
    exact Nat.lt_succ_of_le endsAt.isMade
  case goesOn =>
    exact endsAt.goesOn
  case ends =>
    exact ⟨_, endsAt.ends, answer⟩
  case world =>
    exact atEnd.trans endsAt.world
  case deeds =>
    exact deeds.trans (congrArg _ endsAt.deeds)
  case increasing =>
    intro index isEarlier
    exact (endsAt.growth isEarlier
      (Nat.lt_of_lt_of_le isPositive (bounds index (Nat.le_of_lt isEarlier)).1)).1
  case bounds =>
    exact bounds
  case doubling =>
    intro index isMade
    exact doubledSize_of_le (bounds index isMade).2

/-- However a database answers, the groups of an account that it knows are read like this. -/
theorem exists_readsMembership
    (database : IdentityDatabase σ ε)
    (account : String)
    {primary : GroupId}
    {world : σ}
    (known : (run (database.primaryGroup account) world).answer = .ok (some primary)) :
    ∃ last,
      database.ReadsMembership account primary
        (run (database.primaryGroup account) world).world last
        (run (database.membership account) world) := by
  obtain ⟨last, endsAt⟩ := database.exists_endsAt_groupList account primary _
  exact ⟨last, endsAt.readsMembership known⟩

/--
A database that leaves entries in a buffer that it calls too small, asks for less
room than there was, and then counts more entries than there is room for: what it
wrote before is gone, and the count is cut.
-/
theorem exists_readsMembership_hostile :
    let hostile : IdentityDatabase Nat Empty :=
      ⟨fun _ => pure (.ok (some 1000)),
        fun _ _ _ buffer => do
          match ← .ask fun made => (made, made + 1) with
          | 0 =>
              return (.ok (.insufficient (some 5)), buffer.overwrite [1, 2, 3])
          | _ =>
              return (.ok (.complete 100), buffer.overwrite [7, 8]),
        fun _ => pure (.ok none)⟩
    (run (hostile.membership "mallory") 0).answer =
        .ok (some ⟨1000, [7, 8] ++ List.replicate 62 0⟩) ∧
      ∃ last,
        hostile.ReadsMembership "mallory" 1000 0 last
          (run (hostile.membership "mallory") 0) := by
  intro hostile
  have known : (run (hostile.primaryGroup "mallory") 0).answer = .ok (some 1000) := rfl
  exact ⟨by rfl, hostile.exists_readsMembership "mallory" known⟩

end IdentityDatabase

end LoginGate
