import LoginGate.Proofs.Identity.GroupListAttempts
import LoginGate.Proofs.Identity.GroupSearch

namespace LoginGate

/-!
# The order in which groups are looked up

The names of the bypass groups are looked up in their order, each in the world that
the names in front of it left, up to the first one that is a group of the account.
How a name is missed does not matter: one that is no group is passed over in silence,
one whose look-up fails is passed over with a note, and neither has a say in what
becomes of the other names.
-/

open Interaction

variable {σ ε : Type}

/-- A question for the identifier of a group. -/
def IdentityCall.isGroupId : IdentityCall → Bool
  | .groupId _ =>
      true
  | _ =>
      false

/-- A note about a group that is passed over. -/
def Note.isSkip : Note → Bool
  | .groupLookupSkipped _ _ =>
      true
  | _ =>
      false

/-- What belongs to the look-up of a group: its question, or the note that it failed. -/
def Effect.isScan : Effect ε → Bool
  | .identity call =>
      call.isGroupId
  | .note made =>
      made.isSkip
  | _ =>
      false

/-- The note about a name that is passed over, which is made when its look-up fails. -/
def skipNote? (name : String) : Except IdentityError (Option GroupId) → Option Note
  | .ok _ =>
      none
  | .error failure =>
      some (.groupLookupSkipped name failure)

/-- What the trace shows of a name that is looked up: one record when the look-up fails. -/
def skipRecords (name : String) : Except IdentityError (Option GroupId) → List TraceRecord
  | .ok _ =>
      []
  | .error failure =>
      [⟨.debug, "bypass group lookup failed, skipping",
        [("group", name), ("error", failure.message)]⟩]

theorem traceRecords_skipNote?
    (name : String)
    (answer : Except IdentityError (Option GroupId)) :
    (skipNote? name answer).toList.map Note.traceRecord = skipRecords name answer := by
  cases answer <;> rfl

/-- What one look-up of a name adds to the history of a search. -/
def lookupHistory (name : String) (looked : Report σ ε (Except IdentityError (Option GroupId))) :
    History ε :=
  .identity (.groupId name) ::
    (looked.effects.map .host ++ (skipNote? name looked.answer).toList.map .note)

theorem identityCalls_lookupHistory
    (name : String)
    (looked : Report σ ε (Except IdentityError (Option GroupId))) :
    History.identityCalls (lookupHistory name looked) = [.groupId name] := by
  have silent :
      History.identityCalls ((skipNote? name looked.answer).toList.map .note : History ε) = [] := by
    cases looked.answer <;> rfl
  rw [lookupHistory, ← List.singleton_append, History.identityCalls_append,
    History.identityCalls_append, History.identityCalls_host, silent]
  rfl

theorem notes_lookupHistory
    (name : String)
    (looked : Report σ ε (Except IdentityError (Option GroupId))) :
    History.notes (lookupHistory name looked) = (skipNote? name looked.answer).toList := by
  have noted :
      History.notes ((skipNote? name looked.answer).toList.map .note : History ε) =
        (skipNote? name looked.answer).toList := by
    cases looked.answer <;> rfl
  rw [lookupHistory, ← List.singleton_append, History.notes_append, History.notes_append,
    History.notes_host, noted]
  rfl

namespace IdentityDatabase

variable (database : IdentityDatabase σ ε)

/-- The look-up of the name at an index, in the world that the names in front of it left. -/
def lookupAt (names : List String) (start : σ) (index : Nat) (name : String) :
    Report σ ε (Except IdentityError (Option GroupId)) :=
  run (database.groupId name) (database.worldBehind (names.take index) start)

/-- The history of names that are looked up one after the other. -/
def scanHistory (names : List String) (start : σ) : History ε :=
  (names.mapIdx fun index name =>
    lookupHistory name (database.lookupAt names start index name)).flatten

/-- The notes about those of the names whose look-ups fail. -/
def skipNotes (names : List String) (start : σ) : List Note :=
  (names.mapIdx fun index name =>
    (skipNote? name (database.lookupAt names start index name).answer).toList).flatten

theorem scanHistory_cons (name : String) (rest : List String) (start : σ) :
    database.scanHistory (name :: rest) start =
      lookupHistory name (run (database.groupId name) start) ++
        database.scanHistory rest (run (database.groupId name) start).world := by
  simp only [scanHistory, List.mapIdx_cons, List.flatten_cons]
  rfl

theorem skipNotes_cons (name : String) (rest : List String) (start : σ) :
    database.skipNotes (name :: rest) start =
      (skipNote? name (run (database.groupId name) start).answer).toList ++
        database.skipNotes rest (run (database.groupId name) start).world := by
  simp only [skipNotes, List.mapIdx_cons, List.flatten_cons]
  rfl

/-- Each occurrence of a name is asked for once, in order. -/
theorem identityCalls_scanHistory (names : List String) (start : σ) :
    History.identityCalls (database.scanHistory names start) = names.map .groupId := by
  induction names generalizing start with
  | nil =>
      rfl
  | cons name rest inductionHypothesis =>
      rw [scanHistory_cons, History.identityCalls_append, identityCalls_lookupHistory,
        inductionHypothesis]
      rfl

/-- The failing look-ups are noted, each once, and nothing else is. -/
theorem notes_scanHistory (names : List String) (start : σ) :
    History.notes (database.scanHistory names start) = database.skipNotes names start := by
  induction names generalizing start with
  | nil =>
      rfl
  | cons name rest inductionHypothesis =>
      rw [scanHistory_cons, skipNotes_cons, History.notes_append, notes_lookupHistory,
        inductionHypothesis]

theorem filter_isSkip_skipNotes (names : List String) (start : σ) :
    (database.skipNotes names start).filter Note.isSkip = database.skipNotes names start := by
  rw [List.filter_eq_self]
  intro made isMade
  obtain ⟨skipped, isSkipped, isMember⟩ := List.mem_flatten.mp isMade
  obtain ⟨index, isNamed, rfl⟩ := List.mem_mapIdx.mp isSkipped
  cases looked : (database.lookupAt names start index names[index]).answer with
  | ok found =>
      simp [looked, skipNote?] at isMember
  | error failure =>
      rw [looked] at isMember
      obtain rfl := List.mem_singleton.mp isMember
      rfl

/-- What the trace shows of names that are passed over. -/
theorem traceRecords_skipNotes (names : List String) (asked : Nat) (start : σ) :
    (database.skipNotes (names.take asked) start).map Note.traceRecord =
      ((names.take asked).mapIdx fun index name =>
        skipRecords name (database.lookupAt names start index name).answer).flatten := by
  rw [skipNotes, List.map_flatten]
  congr 1
  apply List.ext_getElem
  · simp
  · intro index _ isAsked
    have isEarlier : index < asked := by
      simp only [List.length_mapIdx, List.length_take] at isAsked
      omega
    simp only [List.getElem_map, List.getElem_mapIdx, lookupAt, List.take_take,
      Nat.min_eq_left (Nat.le_of_lt isEarlier), traceRecords_skipNote?]

section Scan

variable {database}
variable {membership : Membership} {name : String} {rest : List String} {world : σ}

/-- Behind a first name that matches nothing is asked. -/
theorem run_firstGroupOf_of_match
    (headMatches : database.MatchesAt membership (name :: rest) world 0) :
    run (database.firstGroupOf membership (name :: rest)) world =
      ⟨some name, (run (database.groupId name) world).world,
        lookupHistory name (run (database.groupId name) world)⟩ := by
  obtain ⟨group, answered, contained⟩ := (matchesAt_zero ..).mp headMatches
  simp [firstGroupOf, askGroupId, answered, contained, lookupHistory, skipNote?]

/-- Behind a first name that does not match, the search begins anew with the names that are left. -/
theorem run_firstGroupOf_of_not_match
    (headFails : ¬ database.MatchesAt membership (name :: rest) world 0) :
    run (database.firstGroupOf membership (name :: rest)) world =
      let behind :=
        run (database.firstGroupOf membership rest) (run (database.groupId name) world).world
      ⟨behind.answer, behind.world,
        lookupHistory name (run (database.groupId name) world) ++ behind.effects⟩ := by
  rw [matchesAt_zero] at headFails
  cases answered : (run (database.groupId name) world).answer with
  | error failure =>
      simp [firstGroupOf, askGroupId, answered, lookupHistory, skipNote?]
  | ok found =>
      cases found with
      | none =>
          simp [firstGroupOf, askGroupId, answered, lookupHistory, skipNote?]
      | some group =>
          have notContained : membership.contains group = false :=
            Bool.eq_false_iff.mpr fun contained => headFails ⟨group, answered, contained⟩
          simp [firstGroupOf, askGroupId, answered, notContained, lookupHistory, skipNote?]

end Scan

/--
Where a search through names ends: at the first match, which it answers, or behind the
last name when there is none. The number says how many names are looked up.
-/
inductive ScanEnds (membership : Membership) (names : List String) (start : σ) :
    (asked : Nat) → Option String → Prop where
  | found {index : Nat} {name : String} :
      names[index]? = some name →
      database.MatchesAt membership names start index →
      (∀ earlier < index, ¬ database.MatchesAt membership names start earlier) →
      ScanEnds membership names start (index + 1) (some name)
  | missed :
      (∀ index, ¬ database.MatchesAt membership names start index) →
      ScanEnds membership names start names.length none

section Steps

variable {database}
variable {membership : Membership} {name : String} {rest : List String} {start : σ}

theorem ScanEnds.of_match
    (headMatches : database.MatchesAt membership (name :: rest) start 0) :
    database.ScanEnds membership (name :: rest) start 1 (some name) :=
  .found rfl headMatches fun _ isEarlier => (Nat.not_lt_zero _ isEarlier).elim

/-- A name that does not match moves the end by one and leaves it as it is. -/
theorem ScanEnds.behind
    {asked : Nat}
    {answer : Option String}
    (headFails : ¬ database.MatchesAt membership (name :: rest) start 0)
    (ends :
      database.ScanEnds membership rest (run (database.groupId name) start).world asked answer) :
    database.ScanEnds membership (name :: rest) start (asked + 1) answer := by
  cases ends with
  | found atIndex indexMatches noneBefore =>
      refine .found atIndex ((matchesAt_succ ..).mpr indexMatches) ?_
      intro earlier isEarlier earlierMatches
      cases earlier with
      | zero =>
          exact headFails earlierMatches
      | succ earlier =>
          exact noneBefore earlier (Nat.lt_of_succ_lt_succ isEarlier)
            ((matchesAt_succ ..).mp earlierMatches)
  | missed noMatch =>
      refine .missed ?_
      intro index indexMatches
      cases index with
      | zero =>
          exact headFails indexMatches
      | succ index =>
          exact noMatch index ((matchesAt_succ ..).mp indexMatches)

end Steps

/-- Every search through names looks up the names in front of its end, and nothing else. -/
theorem exists_scanEnds (membership : Membership) (names : List String) (start : σ) :
    ∃ asked answer,
      database.ScanEnds membership names start asked answer ∧
        run (database.firstGroupOf membership names) start =
          ⟨answer, database.worldBehind (names.take asked) start,
            database.scanHistory (names.take asked) start⟩ := by
  induction names generalizing start with
  | nil =>
      exact ⟨0, none, .missed fun index => by simp [MatchesAt], rfl⟩
  | cons name rest inductionHypothesis =>
      by_cases headMatches : database.MatchesAt membership (name :: rest) start 0
      · refine ⟨1, some name, .of_match headMatches, ?_⟩
        rw [run_firstGroupOf_of_match headMatches, List.take_succ_cons, scanHistory_cons]
        exact congrArg (Report.mk _ _) (List.append_nil _).symm
      · obtain ⟨asked, answer, ends, report⟩ :=
          inductionHypothesis (run (database.groupId name) start).world
        refine ⟨asked + 1, answer, ends.behind headMatches, ?_⟩
        rw [run_firstGroupOf_of_not_match headMatches, List.take_succ_cons, scanHistory_cons,
          report]
        rfl

/-- While the groups of an account are read, all that is done behind one question is attempts. -/
theorem exists_deeds_membership (account : String) (world : σ) :
    ∃ primary, ∃ attempts : List (GroupListAttempt σ),
      History.deeds (run (database.membership account) world).effects =
        .identity (.primaryGroup account) ::
          attempts.flatMap (database.attemptDeeds account primary) := by
  have asked :
      History.deeds (run (database.askPrimaryGroup account) world).effects =
        [.identity (.primaryGroup account)] := by
    simp only [askPrimaryGroup, run_bind, run_perform, run_ofHost, History.deeds_append,
      History.deeds_host]
    rfl
  cases known : (run (database.primaryGroup account) world).answer with
  | error failure =>
      refine ⟨0, [], ?_⟩
      rw [membership, run_bind, History.deeds_append, asked]
      simp only [askPrimaryGroup, run_bind, run_perform, run_ofHost, known]
      rfl
  | ok primary? =>
      cases primary? with
      | none =>
          refine ⟨0, [], ?_⟩
          rw [membership, run_bind, History.deeds_append, asked]
          simp only [askPrimaryGroup, run_bind, run_perform, run_ofHost, known]
          rfl
      | some primary =>
          obtain ⟨last, reads⟩ := database.exists_readsMembership account known
          refine ⟨primary, (List.range (last + 1)).map (database.attemptAt account primary
            (.first (run (database.primaryGroup account) world).world)), ?_⟩
          rw [reads.deeds, List.flatMap_map]

/-- Reading the groups of an account is over before the first group is looked up. -/
theorem not_isScan_of_mem_deeds_membership
    {account : String}
    {world : σ}
    {deed : Effect Empty}
    (isDeed : deed ∈ History.deeds (run (database.membership account) world).effects) :
    deed.isScan = false := by
  obtain ⟨primary, attempts, deeds⟩ := database.exists_deeds_membership account world
  rw [deeds] at isDeed
  rcases List.mem_cons.mp isDeed with rfl | isMade
  · rfl
  · obtain ⟨attempt, -, isPart⟩ := List.mem_flatMap.mp isMade
    unfold attemptDeeds at isPart
    rcases List.mem_cons.mp isPart with rfl | isNote
    · rfl
    · split at isNote
      · split at isNote
        · cases isNote
        · obtain rfl := List.mem_singleton.mp isNote
          rfl
      · cases isNote

/-- Nothing that belongs to a look-up of groups is among what a reading of an account leaves. -/
theorem filter_deeds_membership
    {part : Type}
    {extract : Effect Empty → Option part}
    {isOurs : part → Bool}
    (isScan_eq : ∀ deed found, extract deed = some found → deed.isScan = isOurs found)
    (account : String)
    (world : σ) :
    ((History.deeds (run (database.membership account) world).effects).filterMap extract).filter
      isOurs = [] := by
  rw [List.filter_eq_nil_iff]
  intro found isFound ours
  obtain ⟨deed, isDeed, extracted⟩ := List.mem_filterMap.mp isFound
  have noScan := database.not_isScan_of_mem_deeds_membership isDeed
  rw [isScan_eq deed found extracted] at noScan
  exact Bool.false_ne_true (noScan.symm.trans ours)

theorem groupCalls_membership (account : String) (world : σ) :
    (run (database.membership account) world).identityCalls.filter IdentityCall.isGroupId =
      [] := by
  rw [Report.identityCalls, ← History.identityCalls_deeds]
  apply filter_deeds_membership
  intro deed call extracted
  cases deed with
  | identity asked =>
      obtain rfl := Option.some.inj extracted
      rfl
  | _ =>
      simp [Effect.identity?] at extracted

theorem skips_membership (account : String) (world : σ) :
    (run (database.membership account) world).notes.filter Note.isSkip = [] := by
  rw [Report.notes, ← History.notes_deeds]
  apply filter_deeds_membership
  intro deed made extracted
  cases deed with
  | note noted =>
      obtain rfl := Option.some.inj extracted
      rfl
  | _ =>
      simp [Effect.note?] at extracted

/--
Look-ups of groups that find the same groups and leave the same worlds. Where nothing
is found, one may fail while the other says that there is no such group.
-/
structure FindAlike
    (first second : (group : String) → Interaction σ ε (Except IdentityError (Option GroupId))) :
    Prop where
  found :
    ∀ name world group,
      (run (second name) world).answer = .ok (some group) ↔
        (run (first name) world).answer = .ok (some group)
  world : ∀ name world, (run (second name) world).world = (run (first name) world).world

section Indifference

variable {database}
variable {lookUp : (group : String) → Interaction σ ε (Except IdentityError (Option GroupId))}
variable (alike : FindAlike database.groupId lookUp)

/-- The groups of an account are read without a look-up of bypass groups. -/
theorem membership_withLookUp (account : String) :
    { database with groupId := lookUp }.membership account = database.membership account := by
  have sameList (primary : GroupId) (attempts capacity : Nat) :
      { database with groupId := lookUp }.readGroupList account primary attempts capacity =
        database.readGroupList account primary attempts capacity := by
    induction attempts generalizing capacity with
    | zero =>
        rfl
    | succ attempts inductionHypothesis =>
        simp only [readGroupList, inductionHypothesis]
        rfl
  simp only [membership, groupList, sameList]
  rfl

include alike

theorem matchesAt_zero_of_alike
    (membership : Membership)
    (name : String)
    (rest : List String)
    (world : σ) :
    { database with groupId := lookUp }.MatchesAt membership (name :: rest) world 0 ↔
      database.MatchesAt membership (name :: rest) world 0 := by
  simp only [matchesAt_zero, alike.found]

/-- However names are missed, the same names are asked for and the same one is found. -/
theorem run_firstGroupOf_of_alike (membership : Membership) (names : List String) (world : σ) :
    let mine := run (database.firstGroupOf membership names) world
    let other := run ({ database with groupId := lookUp }.firstGroupOf membership names) world
    other.answer = mine.answer ∧
      other.world = mine.world ∧
      other.identityCalls = mine.identityCalls := by
  induction names generalizing world with
  | nil =>
      exact ⟨rfl, rfl, rfl⟩
  | cons name rest inductionHypothesis =>
      have sameWorld := alike.world name world
      by_cases headMatches : database.MatchesAt membership (name :: rest) world 0
      · have otherMatches := (matchesAt_zero_of_alike alike ..).mpr headMatches
        rw [run_firstGroupOf_of_match headMatches, run_firstGroupOf_of_match otherMatches]
        exact ⟨rfl, sameWorld, by
          simp only [Report.identityCalls, identityCalls_lookupHistory]⟩
      · have otherFails := mt (matchesAt_zero_of_alike alike ..).mp headMatches
        obtain ⟨sameAnswer, sameEnd, sameCalls⟩ :=
          inductionHypothesis (run (database.groupId name) world).world
        rw [run_firstGroupOf_of_not_match headMatches, run_firstGroupOf_of_not_match otherFails]
        simp only [sameWorld]
        refine ⟨sameAnswer, sameEnd, ?_⟩
        simp only [Report.identityCalls, History.identityCalls_append,
          identityCalls_lookupHistory] at sameCalls ⊢
        rw [sameCalls]

theorem run_bypassGroupOf_of_alike (groups : List String) (account : String) (world : σ) :
    let mine := run (database.bypassGroupOf groups account) world
    let other := run ({ database with groupId := lookUp }.bypassGroupOf groups account) world
    other.answer = mine.answer ∧
      other.world = mine.world ∧
      other.identityCalls = mine.identityCalls := by
  simp only [bypassGroupOf, membership_withLookUp, run_bind]
  cases (run (database.membership account) world).answer with
  | error failure =>
      exact ⟨rfl, rfl, rfl⟩
  | ok known =>
      cases known with
      | none =>
          exact ⟨rfl, rfl, rfl⟩
      | some membership =>
          obtain ⟨sameAnswer, sameEnd, sameCalls⟩ :=
            run_firstGroupOf_of_alike alike membership groups
              (run (database.membership account) world).world
          simp only [Report.identityCalls, run_bind, run_pure, List.append_nil,
            History.identityCalls_append] at sameCalls ⊢
          exact ⟨by rw [sameAnswer], sameEnd, by rw [sameCalls]⟩

end Indifference

/--
Where the search for a bypass group ends: with the failure to read the account's groups,
with nothing for an account that nobody has, and else where a search through the names
ends that begins behind the reading.
-/
inductive SearchEnds (groups : List String) (account : String) (start : σ) :
    (asked : Nat) → Except IdentityError (Option String) → Prop where
  | unread {failure : IdentityError} :
      (run (database.membership account) start).answer = .error failure →
      SearchEnds groups account start 0 (.error failure)
  | unknown :
      (run (database.membership account) start).answer = .ok none →
      SearchEnds groups account start 0 (.ok none)
  | known {membership : Membership} {asked : Nat} {answer : Option String} :
      (run (database.membership account) start).answer = .ok (some membership) →
      database.ScanEnds membership groups (run (database.membership account) start).world
        asked answer →
      SearchEnds groups account start asked (.ok answer)

/--
The search for a bypass group of an account, which looks up the first `asked` names.

The names in front of the end are asked for in order, once for each occurrence, and no
others. The look-ups that fail are noted, each once. A look-up that finds no group has
no bearing on the answer and on any other look-up, whether it fails or not.
-/
structure SearchesInOrder
    (groups : List String)
    (account : String)
    (start : σ)
    (asked : Nat)
    (report : Report σ (Effect ε) (Except IdentityError (Option String))) : Prop where
  ends : database.SearchEnds groups account start asked report.answer
  world :
    report.world =
      database.worldBehind (groups.take asked) (run (database.membership account) start).world
  history :
    report.effects =
      (run (database.membership account) start).effects ++
        database.scanHistory (groups.take asked) (run (database.membership account) start).world
  groupCalls :
    report.identityCalls.filter IdentityCall.isGroupId = (groups.take asked).map .groupId
  skips :
    (report.notes.filter Note.isSkip).map Note.traceRecord =
      ((groups.take asked).mapIdx fun index name =>
        skipRecords name
          (database.lookupAt groups (run (database.membership account) start).world
            index name).answer).flatten
  indifferent :
    ∀ lookUp,
      FindAlike database.groupId lookUp →
      let other := run ({ database with groupId := lookUp }.bypassGroupOf groups account) start
      other.answer = report.answer ∧
        other.world = report.world ∧
        other.identityCalls = report.identityCalls

/-- The search reads the groups of the account, and then looks up the names in front of its end. -/
theorem exists_searchEnds (groups : List String) (account : String) (start : σ) :
    ∃ asked answer,
      database.SearchEnds groups account start asked answer ∧
        run (database.bypassGroupOf groups account) start =
          let reading := run (database.membership account) start
          ⟨answer, database.worldBehind (groups.take asked) reading.world,
            reading.effects ++ database.scanHistory (groups.take asked) reading.world⟩ := by
  cases read : (run (database.membership account) start).answer with
  | error failure =>
      refine ⟨0, _, .unread read, ?_⟩
      simp only [bypassGroupOf, run_bind, read]
      rfl
  | ok known =>
      cases known with
      | none =>
          refine ⟨0, _, .unknown read, ?_⟩
          simp only [bypassGroupOf, run_bind, read]
          rfl
      | some membership =>
          obtain ⟨asked, answer, ends, report⟩ :=
            database.exists_scanEnds membership groups
              (run (database.membership account) start).world
          refine ⟨asked, _, .known read ends, ?_⟩
          simp only [bypassGroupOf, run_bind, read, report, run_pure, List.append_nil]

/-- Whatever the database answers, a bypass group is searched for in order. -/
theorem exists_searchesInOrder
    (database : IdentityDatabase σ ε)
    (groups : List String)
    (account : String)
    (start : σ) :
    ∃ asked,
      database.SearchesInOrder groups account start asked
        (run (database.bypassGroupOf groups account) start) := by
  obtain ⟨asked, answer, ends, report⟩ := database.exists_searchEnds groups account start
  refine ⟨asked, ?_⟩
  constructor
  case ends =>
    rw [report]
    exact ends
  case world =>
    rw [report]
  case history =>
    rw [report]
  case groupCalls =>
    rw [report, Report.identityCalls, History.identityCalls_append, identityCalls_scanHistory,
      List.filter_append]
    change (run (database.membership account) start).identityCalls.filter _ ++ _ = _
    rw [groupCalls_membership, List.nil_append, List.filter_eq_self]
    intro call isCall
    obtain ⟨name, -, rfl⟩ := List.mem_map.mp isCall
    rfl
  case skips =>
    rw [report, Report.notes, History.notes_append, notes_scanHistory, List.filter_append]
    change ((run (database.membership account) start).notes.filter _ ++ _).map _ = _
    rw [skips_membership, List.nil_append, filter_isSkip_skipNotes]
    exact database.traceRecords_skipNotes groups asked _
  case indifferent =>
    intro lookUp alike
    exact run_bypassGroupOf_of_alike alike groups account start

end IdentityDatabase

end LoginGate
