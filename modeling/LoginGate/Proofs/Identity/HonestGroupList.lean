import LoginGate.Proofs.Identity.GroupListAttempts
import LoginGate.Proofs.Identity.Questions
import Mathlib

namespace LoginGate

/-!
# Group lists of honest databases

A database is honest about the group list of an account when it gives all of it
wherever there is room, and otherwise says that the buffer is too small, with the
length of the list or without it. The gate then has the whole list or no list at
all: eight buffers that double hold 4096 groups, one report brings the list as long
as it has at most 65536 groups, and what is longer fails.
-/

open Interaction

variable {σ ε : Type}

namespace IdentityDatabase

/-- A database gives a whole list where there is room, and says otherwise that there is none. -/
structure Honest
    (database : IdentityDatabase σ ε)
    (account : String)
    (primary : GroupId)
    (entries : List GroupId) : Prop where
  whole :
    ∀ attempt,
      entries.length ≤ attempt.capacity →
      (database.filling account primary attempt).answer.1 = .ok (.complete entries.length) ∧
        (database.filling account primary attempt).answer.2.toList.take entries.length = entries
  tooSmall :
    ∀ attempt,
      attempt.capacity < entries.length →
      (database.filling account primary attempt).answer.1 = .ok (.insufficient none) ∨
        (database.filling account primary attempt).answer.1 =
          .ok (.insufficient (some entries.length))

/-- An attempt is made when none before it ended the search. -/
def Makes
    (database : IdentityDatabase σ ε)
    (account : String)
    (primary : GroupId)
    (start : σ)
    (index : Nat) : Prop :=
  index < 8 ∧
    ∀ earlier < index,
      database.ending account primary (7 - earlier)
        (database.attemptAt account primary (.first start) earlier) = none

/-- An attempt is told that the list needs so much room. -/
def ReportsAt
    (database : IdentityDatabase σ ε)
    (account : String)
    (primary : GroupId)
    (start : σ)
    (size index : Nat) : Prop :=
  (database.filling account primary
      (database.attemptAt account primary (.first start) index)).answer.1 =
    .ok (.insufficient (some size))

/-- One of the first attempts is made, and is told that the list needs so much room. -/
def ReportsWithin
    (database : IdentityDatabase σ ε)
    (account : String)
    (primary : GroupId)
    (start : σ)
    (size bound : Nat) : Prop :=
  ∃ index < bound,
    database.Makes account primary start index ∧
      database.ReportsAt account primary start size index

variable {database : IdentityDatabase σ ε} {account : String} {primary : GroupId}
variable {entries : List GroupId} {start : σ}

/-- The attempts that are made are those up to the last one. -/
theorem ReadsMembership.makes_iff
    {last : Nat}
    {report : Report σ (Effect ε) (Except IdentityError (Option Membership))}
    (reads : database.ReadsMembership account primary start last report)
    (index : Nat) :
    database.Makes account primary start index ↔ index ≤ last := by
  constructor
  · rintro ⟨_, goesOn⟩
    refine Nat.le_of_not_lt fun isLater => ?_
    obtain ⟨listed, ends, _⟩ := reads.ends
    cases ends.symm.trans (goesOn last isLater)
  · intro isMade
    exact ⟨Nat.lt_of_le_of_lt isMade reads.isMade,
      fun earlier isEarlier => reads.goesOn earlier (Nat.lt_of_lt_of_le isEarlier isMade)⟩

/-- An attempt that is made and ends the search is the last one. -/
theorem ReadsMembership.of_ending
    {last : Nat}
    {report : Report σ (Effect ε) (Except IdentityError (Option Membership))}
    (reads : database.ReadsMembership account primary start last report)
    {index : Nat}
    {listed : Except IdentityError (List GroupId)}
    (isMade : index ≤ last)
    (ends :
      database.ending account primary (7 - index)
        (database.attemptAt account primary (.first start) index) = some listed) :
    last = index ∧
      report.answer = listed.map fun supplementary => some ⟨primary, supplementary⟩ := by
  rcases Nat.lt_or_eq_of_le isMade with isEarlier | isLast
  · cases ends.symm.trans (reads.goesOn index isEarlier)
  · subst isLast
    obtain ⟨_, atEnd, answer⟩ := reads.ends
    cases ends.symm.trans atEnd
    exact ⟨rfl, answer⟩

theorem ReadsMembership.fills_eq
    {last : Nat}
    {report : Report σ (Effect ε) (Except IdentityError (Option Membership))}
    (reads : database.ReadsMembership account primary start last report) :
    report.fills = last + 1 := by
  have allFills :
      (IdentityCall.isFill ∘ fun index =>
        IdentityCall.fillGroupList account primary
          (database.attemptAt account primary (.first start) index).capacity) =
        fun _ => true :=
    rfl
  rw [Report.fills, reads.identityCalls_eq, List.countP_cons, List.countP_map, allFills,
    List.countP_true, List.length_range]
  rfl

namespace Honest

variable (honest : database.Honest account primary entries)
include honest

/-- An attempt with enough room ends the search with the whole list. -/
theorem ending_of_room
    {attempt : GroupListAttempt σ}
    (room : entries.length ≤ attempt.capacity)
    (left : Nat) :
    database.ending account primary left attempt = some (.ok entries) := by
  obtain ⟨complete, isWhole⟩ := honest.whole attempt room
  rcases answered : (database.filling account primary attempt).answer with ⟨answer, buffer⟩
  rw [answered] at complete isWhole
  cases complete
  rw [ending, answered]
  dsimp only
  rw [Nat.min_eq_left room]
  exact congrArg (some ∘ Except.ok) isWhole

/-- Only a buffer that the list does not fit in is called too small. -/
theorem lt_length_of_insufficient
    {attempt : GroupListAttempt σ}
    {required : Option Nat}
    (tooSmall :
      (database.filling account primary attempt).answer.1 = .ok (.insufficient required)) :
    attempt.capacity < entries.length := by
  refine Nat.lt_of_not_le fun room => ?_
  cases tooSmall.symm.trans (honest.whole attempt room).1

/-- Behind a report there is as much room as was asked for. -/
theorem capacity_behind_report
    {index : Nat}
    (reported : database.ReportsAt account primary start entries.length index) :
    (database.attemptAt account primary (.first start) (index + 1)).capacity =
      entries.length := by
  rw [attemptAt, nextAttempt_of_insufficient reported]
  exact if_pos (honest.lt_length_of_insufficient reported)

omit honest in
/-- Behind attempts that were all told nothing there is double the room each time. -/
theorem capacity_behind_silence
    {index : Nat}
    (silent :
      ∀ earlier < index,
        (database.filling account primary
            (database.attemptAt account primary (.first start) earlier)).answer.1 =
          .ok (.insufficient none)) :
    (database.attemptAt account primary (.first start) index).capacity = 32 * 2 ^ index := by
  induction index with
  | zero =>
      rfl
  | succ index inductionHypothesis =>
      have before :=
        inductionHypothesis fun earlier isEarlier => silent earlier (Nat.lt_succ_of_lt isEarlier)
      calc
        (database.attemptAt account primary (.first start) (index + 1)).capacity =
            2 * (database.attemptAt account primary (.first start) index).capacity := by
          rw [attemptAt, nextAttempt_of_insufficient (silent index (Nat.lt_succ_self index))]
          rfl
        _ = 2 * (32 * 2 ^ index) := by
          rw [before]
        _ = 32 * 2 ^ (index + 1) := by
          rw [Nat.pow_succ', Nat.mul_left_comm]

end Honest

/--
How the search for a list ends, by the length of the list and what the attempts
that were made were told.
-/
inductive HonestEnding
    (database : IdentityDatabase σ ε)
    (account : String)
    (primary : GroupId)
    (entries : List GroupId)
    (start : σ) :
    Except IdentityError (Option Membership) → Prop where
  | whole
      (isReached :
        entries.length ≤ 4096 ∨
          entries.length ≤ 65536 ∧
            database.ReportsWithin account primary start entries.length 7) :
      HonestEnding database account primary entries start (.ok (some ⟨primary, entries⟩))
  | tooLarge
      (isLong : 65536 < entries.length)
      (reported : database.ReportsWithin account primary start entries.length 8) :
      HonestEnding database account primary entries start
        (.error (.groupListTooLarge account entries.length))
  | unstable
      (isLong : 4096 < entries.length)
      (isUnreached : ¬ database.ReportsWithin account primary start entries.length 7)
      (isUnreported :
        65536 < entries.length →
          ¬ database.ReportsWithin account primary start entries.length 8) :
      HonestEnding database account primary entries start
        (.error (.groupListUnstable account 8))

namespace HonestEnding

variable {answer : Except IdentityError (Option Membership)}
variable (ending : database.HonestEnding account primary entries start answer)
include ending

theorem eq_of_ok {known : Option Membership} (answered : answer = .ok known) :
    known = some ⟨primary, entries⟩ := by
  subst answered
  cases ending
  rfl

theorem whole_iff :
    answer = .ok (some ⟨primary, entries⟩) ↔
      entries.length ≤ 4096 ∨
        entries.length ≤ 65536 ∧
          database.ReportsWithin account primary start entries.length 7 := by
  cases ending with
  | whole isReached =>
      exact iff_of_true rfl isReached
  | tooLarge isLong reported =>
      refine iff_of_false (by simp) ?_
      rintro (isShort | ⟨isBounded, _⟩) <;> omega
  | unstable isLong isUnreached isUnreported =>
      refine iff_of_false (by simp) ?_
      rintro (isShort | ⟨_, reported⟩)
      · exact Nat.not_lt.mpr isShort isLong
      · exact isUnreached reported

theorem tooLarge_iff :
    answer = .error (.groupListTooLarge account entries.length) ↔
      65536 < entries.length ∧
        database.ReportsWithin account primary start entries.length 8 := by
  cases ending with
  | whole isReached =>
      refine iff_of_false (by simp) ?_
      omega
  | tooLarge isLong reported =>
      exact iff_of_true rfl ⟨isLong, reported⟩
  | unstable isLong isUnreached isUnreported =>
      refine iff_of_false (by simp) ?_
      rintro ⟨isLonger, reported⟩
      exact isUnreported isLonger reported

theorem unstable_iff :
    answer = .error (.groupListUnstable account 8) ↔
      answer ≠ .ok (some ⟨primary, entries⟩) ∧
        answer ≠ .error (.groupListTooLarge account entries.length) := by
  cases ending <;> simp

end HonestEnding

section Reading

variable {last : Nat} {report : Report σ (Effect ε) (Except IdentityError (Option Membership))}
variable (honest : database.Honest account primary entries)
variable (reads : database.ReadsMembership account primary start last report)
include honest reads

omit honest in
/-- An attempt behind which none is left is the eighth one. -/
theorem last_eq_of_spent (isSpent : 7 - last = 0) : last = 7 :=
  Nat.le_antisymm (Nat.le_of_lt_succ reads.isMade) (Nat.le_of_sub_eq_zero isSpent)

omit honest in
/-- Eight buffers that double have room for 4096 groups at last. -/
theorem doubledRoom_le : 32 * 2 ^ last ≤ 4096 := by
  have isMade : last ≤ 7 := Nat.le_of_lt_succ reads.isMade
  exact Nat.mul_le_mul_left 32 (Nat.pow_le_pow_right Nat.two_pos isMade)

/-- Behind a report that the search survives comes the whole list. -/
theorem whole_behind_report
    {index : Nat}
    (isEarlier : index < last)
    (reported : database.ReportsAt account primary start entries.length index) :
    last = index + 1 ∧
      entries.length ≤ 65536 ∧
      report.answer = .ok (some ⟨primary, entries⟩) := by
  have room := honest.capacity_behind_report reported
  obtain ⟨isLast, answer⟩ :=
    reads.of_ending isEarlier (honest.ending_of_room (Nat.le_of_eq room.symm) _)
  exact ⟨isLast, room ▸ (reads.bounds (index + 1) isEarlier).2, answer⟩

/-- Attempts that were made, and were not told the length of the list, were told nothing. -/
theorem silent_of_unreported
    (unreported :
      ∀ index < last, ¬ database.ReportsAt account primary start entries.length index)
    {index : Nat}
    (isEarlier : index < last) :
    (database.filling account primary
        (database.attemptAt account primary (.first start) index)).answer.1 =
      .ok (.insufficient none) := by
  obtain ⟨required, tooSmall, _⟩ := exists_room_of_ending_eq_none (reads.goesOn index isEarlier)
  exact (honest.tooSmall _ (honest.lt_length_of_insufficient tooSmall)).resolve_right
    (unreported index isEarlier)

omit honest in
/-- A search whose attempts doubled their room, and that ends in silence, has made all of them. -/
theorem unstable_of_silence
    (capacity :
      (database.attemptAt account primary (.first start) last).capacity = 32 * 2 ^ last)
    (silent :
      (database.filling account primary
          (database.attemptAt account primary (.first start) last)).answer.1 =
        .ok (.insufficient none)) :
    last = 7 ∧ report.answer = .error (.groupListUnstable account 8) := by
  have isSmall := doubledRoom_le reads
  have isBounded :
      ¬ 65536 <
        grownCapacity (database.attemptAt account primary (.first start) last).capacity none := by
    rw [grownCapacity, capacity]
    omega
  obtain ⟨listed, ends, answer⟩ := reads.ends
  rw [ending_of_insufficient silent, if_neg isBounded] at ends
  split at ends
  · rename_i isSpent
    cases ends
    exact ⟨last_eq_of_spent reads isSpent, answer⟩
  · cases ends

/-- A search that runs out of attempts without any report had 4096 entries of room at last. -/
theorem unstable_of_unreported
    (isEighth : last = 7)
    (unreported :
      ∀ index < last, ¬ database.ReportsAt account primary start entries.length index)
    (isUnread :
      (database.attemptAt account primary (.first start) last).capacity < entries.length)
    (isBounded :
      database.ReportsAt account primary start entries.length last → entries.length ≤ 65536) :
    database.HonestEnding account primary entries start
      (.error (.groupListUnstable account 8)) := by
  have capacity :=
    Honest.capacity_behind_silence fun index isEarlier =>
      silent_of_unreported honest reads unreported isEarlier
  subst isEighth
  rw [capacity] at isUnread
  refine .unstable isUnread ?_ ?_
  · rintro ⟨index, isEarlier, _, reported⟩
    exact unreported index isEarlier reported
  · rintro isLong ⟨index, isMade, _, reported⟩
    rcases Nat.lt_or_eq_of_le (Nat.le_of_lt_succ isMade) with isEarlier | isLast
    · exact unreported index isEarlier reported
    · subst isLast
      exact Nat.not_lt.mpr (isBounded reported) isLong

/-- The search over an honest database ends as its reports and the length of the list say. -/
theorem honestEnding :
    database.HonestEnding account primary entries start report.answer := by
  by_cases reported :
      ∃ index < last, database.ReportsAt account primary start entries.length index
  · obtain ⟨index, isEarlier, reportsAt⟩ := reported
    obtain ⟨_, isBounded, answer⟩ := whole_behind_report honest reads isEarlier reportsAt
    rw [answer]
    refine .whole (.inr ⟨isBounded, index, ?_, ?_, reportsAt⟩)
    · exact Nat.lt_of_lt_of_le isEarlier (Nat.le_of_lt_succ reads.isMade)
    · exact (reads.makes_iff index).mpr (Nat.le_of_lt isEarlier)
  · have unreported :
        ∀ index < last, ¬ database.ReportsAt account primary start entries.length index :=
      fun index isEarlier reportsAt => reported ⟨index, isEarlier, reportsAt⟩
    have capacity :=
      Honest.capacity_behind_silence fun index isEarlier =>
        silent_of_unreported honest reads unreported isEarlier
    obtain ⟨listed, ends, answer⟩ := reads.ends
    rw [answer]
    by_cases room :
        entries.length ≤ (database.attemptAt account primary (.first start) last).capacity
    · cases (honest.ending_of_room room _).symm.trans ends
      exact .whole (.inl (Nat.le_trans room (capacity ▸ doubledRoom_le reads)))
    · have isUnread := Nat.lt_of_not_le room
      rcases honest.tooSmall _ isUnread with silent | reportsLast
      · obtain ⟨isEighth, spent⟩ := unstable_of_silence reads capacity silent
        rw [← answer, spent]
        refine unstable_of_unreported honest reads isEighth unreported isUnread ?_
        intro reportsLast
        cases silent.symm.trans reportsLast
      · rw [ending_of_insufficient reportsLast, grownCapacity, if_pos isUnread] at ends
        split at ends
        · rename_i isLong
          cases ends
          exact .tooLarge isLong
            ⟨last, reads.isMade, (reads.makes_iff last).mpr (Nat.le_refl last), reportsLast⟩
        · rename_i isBounded
          split at ends
          · rename_i isOver
            cases ends
            exact
              unstable_of_unreported honest reads (last_eq_of_spent reads isOver) unreported
                isUnread fun _ => Nat.le_of_not_lt isBounded
          · cases ends

/-- A list that fits in the first buffer is read at once. -/
theorem last_eq_zero_of_le (fits : entries.length ≤ 32) : last = 0 :=
  (reads.of_ending (Nat.zero_le last) (honest.ending_of_room fits 7)).1

/-- A report in the first attempt of a list that can be read brings it in the second one. -/
theorem last_eq_one_of_report
    (reported : database.ReportsAt account primary start entries.length 0)
    (isBounded : entries.length ≤ 65536) :
    last = 1 ∧ report.answer = .ok (some ⟨primary, entries⟩) := by
  have isEarlier : 0 < last := by
    refine Nat.pos_of_ne_zero fun isLast => ?_
    subst isLast
    obtain ⟨listed, ends, _⟩ := reads.ends
    have isUnread := honest.lt_length_of_insufficient reported
    rw [ending_of_insufficient reported, grownCapacity, if_pos isUnread,
      if_neg (Nat.not_lt.mpr isBounded)] at ends
    cases ends
  obtain ⟨isLast, _, answer⟩ := whole_behind_report honest reads isEarlier reported
  exact ⟨isLast, answer⟩

/-- A report in the first attempt of a list that is too long ends the search. -/
theorem last_eq_zero_of_report
    (reported : database.ReportsAt account primary start entries.length 0)
    (isLong : 65536 < entries.length) :
    last = 0 ∧ report.answer = .error (.groupListTooLarge account entries.length) := by
  have ends :
      database.ending account primary 7
          (database.attemptAt account primary (.first start) 0) =
        some (.error (.groupListTooLarge account entries.length)) := by
    rw [ending_of_insufficient reported, grownCapacity,
      if_pos (honest.lt_length_of_insufficient reported), if_pos isLong]
  exact reads.of_ending (Nat.zero_le last) ends

/-- A search without reports ends in the first buffer that doubling makes large enough. -/
theorem last_of_unreported
    (unreported :
      ∀ index ≤ last, ¬ database.ReportsAt account primary start entries.length index) :
    (∀ index < last, 32 * 2 ^ index < entries.length) ∧
      (entries.length ≤ 32 * 2 ^ last ∨ last = 7) := by
  have silent {index : Nat} (isEarlier : index < last) :=
    silent_of_unreported honest reads
      (fun earlier isEarlier => unreported earlier (Nat.le_of_lt isEarlier)) isEarlier
  have capacity {index : Nat} (isMade : index ≤ last) :=
    Honest.capacity_behind_silence fun _ isEarlier =>
      silent (Nat.lt_of_lt_of_le isEarlier isMade)
  constructor
  · intro index isEarlier
    rw [← capacity (Nat.le_of_lt isEarlier)]
    exact honest.lt_length_of_insufficient (silent isEarlier)
  · by_cases room :
        entries.length ≤ (database.attemptAt account primary (.first start) last).capacity
    · rw [capacity (Nat.le_refl last)] at room
      exact .inl room
    · have silentLast :=
        (honest.tooSmall _ (Nat.lt_of_not_le room)).resolve_right
          (unreported last (Nat.le_refl last))
      exact .inr (unstable_of_silence reads (capacity (Nat.le_refl last)) silentLast).1

end Reading

/--
What the gate reads of a list from an honest database: the whole list or an error, by
the length of the list and the reports of the attempts that were made; and how often
it asks a database that always reports the length, or never.
-/
structure ReadsHonestly
    (database : IdentityDatabase σ ε)
    (account : String)
    (primary : GroupId)
    (entries : List GroupId)
    (start : σ)
    (report : Report σ (Effect ε) (Except IdentityError (Option Membership))) : Prop where
  exact :
    ∀ known, report.answer = .ok known → known = some ⟨primary, entries⟩
  whole_iff :
    report.answer = .ok (some ⟨primary, entries⟩) ↔
      entries.length ≤ 4096 ∨
        entries.length ≤ 65536 ∧
          database.ReportsWithin account primary start entries.length 7
  tooLarge_iff :
    report.answer = .error (.groupListTooLarge account entries.length) ↔
      65536 < entries.length ∧
        database.ReportsWithin account primary start entries.length 8
  unstable_iff :
    report.answer = .error (.groupListUnstable account 8) ↔
      report.answer ≠ .ok (some ⟨primary, entries⟩) ∧
        report.answer ≠ .error (.groupListTooLarge account entries.length)
  alwaysReported :
    (∀ index,
        database.Makes account primary start index →
        (database.filling account primary
            (database.attemptAt account primary (.first start) index)).answer.1 ≠
          .ok (.insufficient none)) →
      (entries.length ≤ 32 → report.fills = 1) ∧
        (32 < entries.length → entries.length ≤ 65536 → report.fills = 2) ∧
        (entries.length ≤ 65536 → report.answer = .ok (some ⟨primary, entries⟩)) ∧
        (65536 < entries.length →
          report.answer = .error (.groupListTooLarge account entries.length) ∧
            report.fills = 1)
  neverReported :
    (∀ index,
        database.Makes account primary start index →
        ∀ size, ¬ database.ReportsAt account primary start size index) →
      (entries.length ≤ 4096 →
        report.answer = .ok (some ⟨primary, entries⟩) ∧
          entries.length ≤ 32 * 2 ^ (report.fills - 1) ∧
          ∀ count,
            0 < count → entries.length ≤ 32 * 2 ^ (count - 1) → report.fills ≤ count) ∧
        (4096 < entries.length →
          report.answer = .error (.groupListUnstable account 8) ∧ report.fills = 8)

/-- From a database that is honest about its group list, an account is read honestly. -/
theorem readsHonestly_of_honest
    (honest : database.Honest account primary entries)
    {world : σ}
    (known : (run (database.primaryGroup account) world).answer = .ok (some primary)) :
    database.ReadsHonestly account primary entries
      (run (database.primaryGroup account) world).world
      (run (database.membership account) world) := by
  obtain ⟨last, endsAt⟩ := database.exists_endsAt_groupList account primary _
  have reads := endsAt.readsMembership known
  have ending := honestEnding honest reads
  have fills := reads.fills_eq
  constructor
  case exact =>
    exact fun _ answered => ending.eq_of_ok answered
  case whole_iff =>
    exact ending.whole_iff
  case tooLarge_iff =>
    exact ending.tooLarge_iff
  case unstable_iff =>
    exact ending.unstable_iff
  case alwaysReported =>
    intro always
    have reported (isLong : 32 < entries.length) :
        database.ReportsAt account primary _ entries.length 0 :=
      (honest.tooSmall _ isLong).resolve_left
        (always 0 ((reads.makes_iff 0).mpr (Nat.zero_le last)))
    rw [fills]
    refine ⟨?_, ?_, ?_, ?_⟩
    · intro fits
      rw [last_eq_zero_of_le honest reads fits]
    · intro isLong isBounded
      rw [(last_eq_one_of_report honest reads (reported isLong) isBounded).1]
    · intro isBounded
      by_cases fits : entries.length ≤ 32
      · exact ending.whole_iff.mpr (.inl (Nat.le_trans fits (by decide)))
      · exact
          (last_eq_one_of_report honest reads (reported (Nat.lt_of_not_le fits)) isBounded).2
    · intro isLong
      have isUnread : 32 < entries.length :=
        Nat.lt_trans (by decide) isLong
      obtain ⟨isFirst, answer⟩ := last_eq_zero_of_report honest reads (reported isUnread) isLong
      exact ⟨answer, by rw [isFirst]⟩
  case neverReported =>
    intro never
    obtain ⟨outgrown, isEnough⟩ :=
      last_of_unreported honest reads fun index isMade =>
        never index ((reads.makes_iff index).mpr isMade) _
    have unreported (bound : Nat) :
        ¬ database.ReportsWithin account primary _ entries.length bound :=
      fun ⟨index, _, isMade, reported⟩ => never index isMade _ reported
    rw [fills]
    constructor
    · intro isShort
      refine ⟨ending.whole_iff.mpr (.inl isShort), ?_, ?_⟩
      · rcases isEnough with isEnough | isEighth
        · exact isEnough
        · rw [isEighth]
          exact isShort
      · intro count isPositive isSufficient
        refine Nat.le_of_not_lt fun isFewer => ?_
        exact Nat.not_lt.mpr isSufficient (outgrown (count - 1) (by omega))
    · intro isLong
      constructor
      · rw [ending.unstable_iff, Ne, Ne, ending.whole_iff, ending.tooLarge_iff]
        constructor
        · rintro (isShort | ⟨_, reported⟩)
          · exact Nat.not_lt.mpr isShort isLong
          · exact unreported 7 reported
        · exact fun ⟨_, reported⟩ => unreported 8 reported
      · rcases isEnough with isEnough | isEighth
        · exact (Nat.not_lt.mpr (Nat.le_trans isEnough (doubledRoom_le reads)) isLong).elim
        · rw [isEighth]

/--
A list of 5000 groups is too long for eight buffers that double, but a database that
is silent at first and then reports the length gets it across.
-/
theorem readsHonestly_late_report :
    let entries : List GroupId :=
      List.replicate 5000 7
    let wavering : IdentityDatabase (List Bool) Empty :=
      ⟨fun _ => pure (.ok (some 1000)),
        fun _ _ capacity buffer =>
          if entries.length ≤ capacity then
            pure (.ok (.complete entries.length), buffer.overwrite entries)
          else do
            let reporting ← .ask fun choices => (choices.headD false, choices.tail)
            return (.ok (.insufficient (if reporting then some entries.length else none)), buffer),
        fun _ => pure (.ok none)⟩
    wavering.Honest "alice" 1000 entries ∧
      (run (wavering.membership "alice") [false, true]).answer =
        .ok (some ⟨1000, entries⟩) := by
  intro entries wavering
  have length : entries.length = 5000 :=
    List.length_replicate
  have told
      (attempt : GroupListAttempt (List Bool))
      (isUnread : attempt.capacity < entries.length) :
      (wavering.filling "alice" 1000 attempt).answer.1 =
          .ok (.insufficient
            (if attempt.world.headD false then some entries.length else none)) ∧
        (wavering.filling "alice" 1000 attempt).world = attempt.world.tail := by
    simp only [filling, wavering, if_neg (Nat.not_le.mpr isUnread)]
    exact ⟨rfl, rfl⟩
  have honest : wavering.Honest "alice" 1000 entries := by
    constructor
    case whole =>
      intro attempt room
      simp only [filling, wavering, if_pos room]
      exact ⟨rfl, GroupBuffer.take_overwrite _ room⟩
    case tooSmall =>
      intro attempt isUnread
      rw [(told attempt isUnread).1]
      cases attempt.world.headD false with
      | false =>
          exact .inl rfl
      | true =>
          exact .inr rfl
  obtain ⟨silent, rest⟩ := told (.first [false, true]) (by rw [length]; decide)
  have next :
      wavering.attemptAt "alice" 1000 (.first [false, true]) 1 = ⟨64, [true]⟩ := by
    rw [attemptAt, attemptAt, nextAttempt_of_insufficient silent, rest]
    rfl
  have reported : wavering.ReportsAt "alice" 1000 [false, true] entries.length 1 := by
    rw [ReportsAt, next]
    exact (told ⟨64, [true]⟩ (by rw [length]; decide)).1
  have goesOn :
      wavering.ending "alice" 1000 7 (.first [false, true]) = none :=
    ending_of_insufficient silent 7
  have isMade : wavering.Makes "alice" 1000 [false, true] 1 := by
    refine ⟨by decide, fun earlier isEarlier => ?_⟩
    cases Nat.lt_one_iff.mp isEarlier
    exact goesOn
  exact ⟨honest, (readsHonestly_of_honest honest rfl).whole_iff.mpr
    (.inr ⟨by rw [length]; decide, 1, by decide, isMade, reported⟩)⟩

end IdentityDatabase

end LoginGate
