import LoginGate.Proofs.Gate.Course

namespace LoginGate

/-!
# The events of a decision tell the decision

A decision can be read back from what was recorded for it. Messages hold account
names, group names and reasons, any of which may look like a message of the gate,
so reading relies on places and severities first: errors and denials are told by
their severity, and everything else by how the last message begins.
-/

open Interaction

variable {σ τ ε φ : Type}

/-- What sort of reason a decision has. -/
inductive BasisKind where
  | noAccount
  | bypassGroup
  | rootAccount
  | authorityAllowed
  | authorityDenied
  | transportFailure
  deriving Repr, DecidableEq

namespace Basis

def kind : Basis → BasisKind
  | .noAccount =>
      .noAccount
  | .bypassGroup _ =>
      .bypassGroup
  | .rootAccount =>
      .rootAccount
  | .authorityAllowed =>
      .authorityAllowed
  | .authorityDenied =>
      .authorityDenied
  | .transportFailure _ =>
      .transportFailure

/-- Extract the text of a failure. -/
def failure? : Basis → Option String
  | .transportFailure reason =>
      some reason
  | _ =>
      none

theorem failure?_eq_some_iff {basis : Basis} {reason : String} :
    basis.failure? = some reason ↔ basis = .transportFailure reason := by
  cases basis <;> simp [failure?]

/-- The authority was asked and did not consent. -/
def IsDenial (basis : Basis) : Prop :=
  basis = .authorityDenied ∨ ∃ reason, basis = .transportFailure reason

end Basis

/-- Whether a reason of some sort lets an account pass. -/
def BasisKind.permits : BasisKind → Bool
  | .bypassGroup =>
      true
  | .rootAccount =>
      true
  | .authorityAllowed =>
      true
  | _ =>
      false

/-- The middle of a text with a known front and back. -/
def textBetween (front back text : String) : String :=
  .ofList ((text.toList.drop front.length).take (text.length - front.length - back.length))

theorem textBetween_append (front middle back : String) :
    textBetween front back (front ++ middle ++ back) = middle := by
  have room :
      (front ++ middle ++ back).length - front.length - back.length = middle.toList.length := by
    simp only [String.length_append, String.length_toList]
    omega
  rw [textBetween, room]
  simp only [String.toList_append, List.append_assoc, ← String.length_toList, List.drop_left,
    List.take_left, String.ofList_toList]

namespace BasisKind

/-- The sort of reason that the last message tells of, where nothing failed or was denied. -/
def ofClosing (message : String) : BasisKind :=
  match message.toList.head? with
  | some 'N' =>
      .noAccount
  | some 'U' =>
      if message = "User is root, allowing" then .rootAccount else .bypassGroup
  | _ =>
      .authorityAllowed

/-- The sort of reason that is told behind an announcement. -/
def told (trail : List Event) : BasisKind :=
  if trail.any (·.severity = .error) then
    .transportFailure
  else if trail.any (·.severity = .notice) then
    .authorityDenied
  else
    match trail.getLast? with
    | none =>
        .noAccount
    | some closing =>
        ofClosing closing.message

end BasisKind

/-- The reason that is told behind an announcement, about an account if there is one. -/
def Basis.told (account? : Option String) (trail : List Event) : Basis :=
  match BasisKind.told trail with
  | .noAccount =>
      .noAccount
  | .bypassGroup =>
      .bypassGroup
        (textBetween ("User " ++ account?.getD "" ++ " is in bypass group ") ", allowing"
          ((trail.getLast?.map Event.message).getD ""))
  | .rootAccount =>
      .rootAccount
  | .authorityAllowed =>
      .authorityAllowed
  | .authorityDenied =>
      .authorityDenied
  | .transportFailure =>
      .transportFailure (((trail.find? (·.severity = .error)).map Event.message).getD "")

/-- The words for a member of a bypass group are longer than those for the root account. -/
theorem message_bypassGroup_ne (phase : Phase) (account group : String) :
    (Exemption.event phase account (.bypassGroup group)).message ≠ "User is root, allowing" := by
  intro same
  have lengths := congrArg String.length same
  simp only [Exemption.event, Event.debug, String.length_append] at lengths
  have middle : " is in bypass group ".length = 20 := rfl
  have back : ", allowing".length = 10 := rfl
  have whole : "User is root, allowing".length = 22 := rfl
  omega

theorem BasisKind.ofClosing_bypassGroup (phase : Phase) (account group : String) :
    ofClosing (Exemption.event phase account (.bypassGroup group)).message = .bypassGroup := by
  have begins :
      (Exemption.event phase account (.bypassGroup group)).message.toList.head? = some 'U' := by
    simp [Exemption.event, Event.debug, String.toList_append]
  rw [ofClosing, begins]
  exact if_neg (message_bypassGroup_ne phase account group)

theorem BasisKind.ofClosing_consent (account : String) :
    ofClosing ("Access allowed by sessionwarden for " ++ account) = .authorityAllowed := by
  have begins :
      ("Access allowed by sessionwarden for " ++ account).toList.head? = some 'A' := by
    simp [String.toList_append]
  rw [ofClosing, begins]
  rfl

theorem BasisKind.ofClosing_nobody : ofClosing "No user found" = .noAccount := by
  simp [ofClosing]

theorem BasisKind.ofClosing_root : ofClosing "User is root, allowing" = .rootAccount := by
  simp [ofClosing]

theorem BasisKind.told_debug (phase : Phase) (message : String) :
    told [.debug phase message] = ofClosing message :=
  rfl

/-- A failed look-up is told in one event for the trace. -/
theorem IdentityError.debug_of_mem_missed
    {phase : Phase}
    {account : String}
    {missed : Option IdentityError}
    {event : Event}
    (isMissed : event ∈ (missed.map (IdentityError.event phase account)).toList) :
    event.severity = .debug ∧ event.phase = some phase := by
  obtain ⟨failure, _, rfl⟩ := Option.map_eq_some_iff.mp (Option.mem_toList.mp isMissed)
  exact ⟨rfl, rfl⟩

namespace Course

variable (course : Course) (phase : Phase)

/-- The account that a course is about. -/
def account? : Course → Option String
  | .nobody =>
      none
  | .exempt account _ =>
      some account
  | .asked account _ _ =>
      some account

/-- Everything that is recorded about a decision belongs to its checkpoint. -/
theorem phase_of_mem_trail {event : Event} (isEvent : event ∈ course.trail phase) :
    event.phase = some phase := by
  cases course with
  | nobody =>
      obtain rfl := List.mem_singleton.mp isEvent
      rfl
  | exempt account found =>
      obtain rfl := List.mem_singleton.mp isEvent
      cases found <;> rfl
  | asked account missed outcome =>
      rcases List.mem_append.mp isEvent with isMissed | isOutcome
      · exact (IdentityError.debug_of_mem_missed isMissed).2
      · cases outcome with
        | error failure =>
            simp only [Event.ofAuthority, AuthorityError.events, Event.denials, List.mem_append,
              List.mem_cons, List.not_mem_nil, or_false] at isOutcome
            rcases isOutcome with (rfl | rfl) | rfl | rfl <;> rfl
        | ok consent =>
            cases consent with
            | false =>
                simp only [Event.ofAuthority, Event.denials, List.mem_cons, List.not_mem_nil,
                  or_false] at isOutcome
                rcases isOutcome with rfl | rfl <;> rfl
            | true =>
                obtain rfl := List.mem_singleton.mp isOutcome
                rfl

/-- The errors of a course are the failure that it rests on, and nothing else. -/
theorem errors_trail :
    (course.trail phase).filter (·.severity = .error) =
      ((course.decision phase).basis.failure?.map (Event.error phase)).toList := by
  cases course with
  | nobody =>
      rfl
  | exempt account found =>
      cases found <;> rfl
  | asked account missed outcome =>
      cases missed <;> cases outcome with
      | error failure =>
          rfl
      | ok consent =>
          cases consent <;> rfl

/-- A denial of the authority is told at the end of its course, and nowhere before. -/
theorem exists_trail_of_denial (denial : (course.decision phase).basis.IsDenial) :
    ∃ between closing,
      course.trail phase = between ++ [closing] ∧
        closing.severity = .notice ∧
        ∀ event ∈ between, event.severity ≠ .notice := by
  cases course with
  | nobody =>
      simp [decision, Basis.IsDenial] at denial
  | exempt account found =>
      cases found <;> simp [decision, Exemption.basis, Basis.IsDenial] at denial
  | asked account missed outcome =>
      have debugging :
          ∀ event ∈ (missed.map (IdentityError.event phase account)).toList,
            event.severity ≠ .notice := by
        intro event isMissed
        simp [(IdentityError.debug_of_mem_missed isMissed).1]
      cases outcome with
      | error failure =>
          refine ⟨(missed.map (IdentityError.event phase account)).toList ++
            (failure.events phase account ++
              [.debug phase ("Access denied by sessionwarden for " ++ account)]),
            .notice phase ("sessionwarden denied access for " ++ account), ?_, rfl, ?_⟩
          · simp [trail, Event.ofAuthority, Event.denials]
          · intro event isEvent
            rcases List.mem_append.mp isEvent with isMissed | isReport
            · exact debugging event isMissed
            · simp only [AuthorityError.events, List.cons_append, List.nil_append,
                List.mem_cons, List.not_mem_nil, or_false] at isReport
              rcases isReport with rfl | rfl | rfl <;> simp [Event.error, Event.debug]
      | ok consent =>
          cases consent with
          | false =>
              refine ⟨(missed.map (IdentityError.event phase account)).toList ++
                [.debug phase ("Access denied by sessionwarden for " ++ account)],
                .notice phase ("sessionwarden denied access for " ++ account), ?_, rfl, ?_⟩
              · simp [trail, Event.ofAuthority, Event.denials]
              · intro event isEvent
                rcases List.mem_append.mp isEvent with isMissed | isReport
                · exact debugging event isMissed
                · obtain rfl := List.mem_singleton.mp isReport
                  simp [Event.debug]
          | true =>
              simp [decision, Decision.ofAuthority, Basis.IsDenial] at denial

/-- Without a denial of the authority nothing behind the announcement is for an administrator. -/
theorem severity_ne_notice
    (noDenial : ¬ (course.decision phase).basis.IsDenial)
    {event : Event}
    (isEvent : event ∈ course.trail phase) :
    event.severity ≠ .notice := by
  cases course with
  | nobody =>
      obtain rfl := List.mem_singleton.mp isEvent
      simp [Event.debug]
  | exempt account found =>
      obtain rfl := List.mem_singleton.mp isEvent
      cases found <;> simp [Exemption.event, Event.debug]
  | asked account missed outcome =>
      cases outcome with
      | error failure =>
          exact (noDenial (.inr ⟨_, rfl⟩)).elim
      | ok consent =>
          cases consent with
          | false =>
              exact (noDenial (.inl rfl)).elim
          | true =>
              rcases List.mem_append.mp isEvent with isMissed | isConsent
              · simp [(IdentityError.debug_of_mem_missed isMissed).1]
              · obtain rfl := List.mem_singleton.mp isConsent
                simp [Event.debug]

/-- The sort of reason that a course ends with is the one that its trail tells of. -/
theorem kindTold_trail :
    BasisKind.told (course.trail phase) = (course.decision phase).basis.kind := by
  cases course with
  | nobody =>
      exact (BasisKind.told_debug phase _).trans BasisKind.ofClosing_nobody
  | exempt account found =>
      cases found with
      | bypassGroup group =>
          exact (BasisKind.told_debug phase _).trans
            (BasisKind.ofClosing_bypassGroup phase account group)
      | rootAccount =>
          exact (BasisKind.told_debug phase _).trans BasisKind.ofClosing_root
  | asked account missed outcome =>
      cases missed <;> cases outcome with
      | error failure =>
          rfl
      | ok consent =>
          cases consent with
          | false =>
              rfl
          | true =>
              exact BasisKind.ofClosing_consent account

/-- The reason that a course ends with is the one that its trail tells about its account. -/
theorem told_trail :
    Basis.told course.account? (course.trail phase) = (course.decision phase).basis := by
  unfold Basis.told
  rw [kindTold_trail]
  cases course with
  | nobody =>
      rfl
  | exempt account found =>
      cases found with
      | bypassGroup group =>
          exact congrArg Basis.bypassGroup (textBetween_append _ group _)
      | rootAccount =>
          rfl
  | asked account missed outcome =>
      cases missed <;> cases outcome with
      | error failure =>
          rfl
      | ok consent =>
          cases consent <;> rfl

/-- Without the account the group is not told: a name can imitate the words around it. -/
example :
    trail .authenticate (.exempt "bob is in bypass group wheel" (.bypassGroup "sudo")) =
      trail .authenticate (.exempt "bob" (.bypassGroup "wheel is in bypass group sudo")) := by
  decide

/-- A decision is a checkpoint and a reason, whose sort says whether it is a permission. -/
theorem decision_eq :
    course.decision phase =
      ⟨phase, (course.decision phase).basis.kind.permits, (course.decision phase).basis⟩ := by
  cases course with
  | nobody =>
      rfl
  | exempt account found =>
      cases found <;> rfl
  | asked account missed outcome =>
      cases outcome with
      | error failure =>
          rfl
      | ok consent =>
          cases consent <;> rfl

end Course

namespace Gate

variable (gate : Gate σ ε) (named : Option String) (world : World σ)

theorem account?_exemptingCourse :
    (gate.exemptingCourse named world).account? = presentAccount named := by
  unfold exemptingCourse
  cases presentAccount named with
  | none =>
      rfl
  | some account =>
      dsimp only
      split <;> rfl

theorem account?_strictCourse :
    (gate.strictCourse named world).account? = presentAccount named := by
  unfold strictCourse
  cases presentAccount named <;> rfl

end Gate

/-- One decision: the gate that makes it, where and about whom, and in which world. -/
structure Invocation (σ ε : Type) where
  gate : Gate σ ε
  /-- Whether exempt accounts pass by themselves. -/
  exempting : Bool
  phase : Phase
  named : Option String
  world : World σ

namespace Invocation

/-- What an invocation leaves behind. -/
def report (invocation : Invocation σ ε) : Report (World σ) (Effect ε) Decision :=
  if invocation.exempting then
    run (invocation.gate.decideWithExemptions invocation.phase invocation.named) invocation.world
  else
    run (invocation.gate.decideStrictly invocation.phase invocation.named) invocation.world

/-- The decision of an invocation. -/
def decision (invocation : Invocation σ ε) : Decision :=
  invocation.report.answer

/-- What an invocation records. -/
def events (invocation : Invocation σ ε) : List Event :=
  invocation.report.events

/--
What it means that the events of an invocation tell its decision. They are
announced, belong to its checkpoint and hold an error or a final notice where the
authority failed or denied. And whatever other gate, account and world gives the
same events gives the same permission for the same sort of reason, and about the
same account the same decision.
-/
structure Audited (invocation : Invocation σ ε) : Prop where
  announced : ∃ trail, invocation.events = .announcement invocation.phase :: trail
  phases : ∀ event ∈ invocation.events, event.phase = some invocation.phase
  errorIff :
    (∃ event ∈ invocation.events, event.severity = .error) ↔
      ∃ reason, invocation.decision.basis = .transportFailure reason
  theError :
    ∀ reason,
      invocation.decision.basis = .transportFailure reason →
      invocation.events.filter (·.severity = .error) = [.error invocation.phase reason]
  noticeIff :
    (∃ event ∈ invocation.events.tail, event.severity = .notice) ↔
      invocation.decision.basis.IsDenial
  theNotice :
    invocation.decision.basis.IsDenial →
    ∃ between closing,
      invocation.events = .announcement invocation.phase :: between ++ [closing] ∧
        closing.severity = .notice ∧
        ∀ event ∈ between, event.severity ≠ .notice
  sameKind :
    ∀ {τ φ : Type} (other : Invocation τ φ),
      invocation.events = other.events →
      invocation.decision.allowed = other.decision.allowed ∧
        invocation.decision.basis.kind = other.decision.basis.kind
  sameDecision :
    ∀ {τ φ : Type} (other : Invocation τ φ),
      invocation.events = other.events →
      invocation.named = other.named →
      invocation.decision = other.decision

/-- An invocation is announced, and takes a course about the account that is named. -/
theorem exists_course (invocation : Invocation σ ε) :
    ∃ course : Course,
      course.account? = presentAccount invocation.named ∧
        invocation.decision = course.decision invocation.phase ∧
        invocation.events =
          .announcement invocation.phase :: course.trail invocation.phase := by
  obtain ⟨gate, exempting, phase, named, world⟩ := invocation
  cases exempting with
  | true =>
      exact ⟨gate.exemptingCourse named world, gate.account?_exemptingCourse named world,
        gate.follows_exemptingCourse phase named world⟩
  | false =>
      exact ⟨gate.strictCourse named world, gate.account?_strictCourse named world,
        gate.follows_strictCourse phase named world⟩

theorem errors_events (invocation : Invocation σ ε) :
    invocation.events.filter (·.severity = .error) =
      (invocation.decision.basis.failure?.map (Event.error invocation.phase)).toList := by
  obtain ⟨course, _, decided, recorded⟩ := invocation.exists_course
  rw [recorded, decided]
  exact course.errors_trail invocation.phase

theorem exists_error_iff (invocation : Invocation σ ε) :
    (∃ event ∈ invocation.events, event.severity = .error) ↔
      ∃ reason, invocation.decision.basis = .transportFailure reason := by
  have errors := invocation.errors_events
  constructor
  · rintro ⟨event, isEvent, isError⟩
    have found : event ∈ invocation.events.filter (·.severity = .error) :=
      List.mem_filter.mpr ⟨isEvent, decide_eq_true isError⟩
    rw [errors, Option.mem_toList] at found
    obtain ⟨reason, failed, _⟩ := Option.map_eq_some_iff.mp found
    exact ⟨reason, Basis.failure?_eq_some_iff.mp failed⟩
  · rintro ⟨reason, restsOn⟩
    rw [Basis.failure?_eq_some_iff.mpr restsOn] at errors
    have found :
        Event.error invocation.phase reason ∈
          invocation.events.filter (·.severity = .error) := by
      rw [errors]
      exact List.mem_singleton_self _
    exact ⟨_, (List.mem_filter.mp found).1, rfl⟩

/-- The same events come from the same checkpoint, with the same trail. -/
theorem eq_of_events_eq
    {first second : Phase}
    {firstCourse secondCourse : Course}
    (same :
      Event.announcement first :: firstCourse.trail first =
        Event.announcement second :: secondCourse.trail second) :
    first = second ∧ firstCourse.trail first = secondCourse.trail second := by
  obtain ⟨sameAnnouncement, sameTrail⟩ := List.cons.inj same
  exact ⟨Option.some.inj (congrArg Event.phase sameAnnouncement), sameTrail⟩

/-- Every invocation is audited by its events. -/
theorem audited (invocation : Invocation σ ε) : invocation.Audited := by
  obtain ⟨course, isAbout, decided, recorded⟩ := invocation.exists_course
  constructor
  case announced =>
    exact ⟨_, recorded⟩
  case phases =>
    intro event isEvent
    rw [recorded] at isEvent
    rcases List.mem_cons.mp isEvent with rfl | isLater
    · rfl
    · exact course.phase_of_mem_trail _ isLater
  case errorIff =>
    exact invocation.exists_error_iff
  case theError =>
    intro reason restsOn
    rw [errors_events, Basis.failure?_eq_some_iff.mpr restsOn]
    rfl
  case noticeIff =>
    rw [recorded, List.tail_cons, decided]
    constructor
    · rintro ⟨event, isEvent, isNotice⟩
      apply Classical.byContradiction
      intro noDenial
      exact course.severity_ne_notice _ noDenial isEvent isNotice
    · intro denial
      obtain ⟨between, closing, ends, isNotice, _⟩ := course.exists_trail_of_denial _ denial
      exact ⟨closing, by simp [ends], isNotice⟩
  case theNotice =>
    intro denial
    rw [decided] at denial
    obtain ⟨between, closing, ends, isNotice, onlyThere⟩ :=
      course.exists_trail_of_denial _ denial
    exact ⟨between, closing, by rw [recorded, ends, List.cons_append], isNotice, onlyThere⟩
  case sameKind =>
    intro τ φ other same
    obtain ⟨otherCourse, _, otherDecided, otherRecorded⟩ := other.exists_course
    rw [recorded, otherRecorded] at same
    obtain ⟨_, sameTrail⟩ := eq_of_events_eq same
    have kinds : invocation.decision.basis.kind = other.decision.basis.kind := by
      rw [decided, otherDecided, ← Course.kindTold_trail, ← Course.kindTold_trail, sameTrail]
    refine ⟨?_, kinds⟩
    rw [decided, otherDecided] at kinds ⊢
    rw [Course.decision_eq, otherCourse.decision_eq, kinds]
  case sameDecision =>
    intro τ φ other same sameName
    obtain ⟨otherCourse, otherIsAbout, otherDecided, otherRecorded⟩ := other.exists_course
    rw [recorded, otherRecorded] at same
    obtain ⟨samePhase, sameTrail⟩ := eq_of_events_eq same
    -- The account is what tells the group from the words around it.
    have sameAccount : course.account? = otherCourse.account? := by
      rw [isAbout, otherIsAbout, sameName]
    have bases :
        (course.decision invocation.phase).basis = (otherCourse.decision other.phase).basis := by
      rw [← Course.told_trail, ← Course.told_trail, sameAccount, sameTrail]
    rw [decided, otherDecided, Course.decision_eq, otherCourse.decision_eq, bases, samePhase]

end Invocation

end LoginGate
