import LoginGate.Proofs.Gate.StepDiscipline
import LoginGate.Proofs.Identity.Sparing

namespace LoginGate

/-!
# The course of a decision

A decision takes one of three courses: nobody is named, the account is exempt, or
the authority is asked, whether or not a look-up failed before. The course fixes
the decision and everything that is recorded for it.
-/

open Interaction

/-- How a decision comes about. -/
inductive Course where
  | nobody
  | exempt (account : String) (found : Exemption)
  /-- The authority is asked, perhaps because a look-up failed. -/
  | asked
      (account : String)
      (missed : Option IdentityError)
      (outcome : Except AuthorityError Bool)

namespace Course

/-- The decision at the end of a course. -/
def decision (phase : Phase) : Course → Decision
  | .nobody =>
      ⟨phase, false, .noAccount⟩
  | .exempt _ found =>
      ⟨phase, true, found.basis⟩
  | .asked _ _ outcome =>
      .ofAuthority phase outcome

/-- What is recorded behind the announcement of a decision. -/
def trail (phase : Phase) : Course → List Event
  | .nobody =>
      [.debug phase "No user found"]
  | .exempt account found =>
      [found.event phase account]
  | .asked account missed outcome =>
      (missed.map (IdentityError.event phase account)).toList ++
        Event.ofAuthority phase account outcome

end Course

namespace History

variable {ε : Type}

@[simp] theorem events_cons_event (event : Event) (history : History ε) :
    events (.event event :: history) = event :: events history :=
  rfl

@[simp] theorem authorityActions_cons_event (event : Event) (history : History ε) :
    authorityActions (.event event :: history) = authorityActions history :=
  rfl

@[simp] theorem authorityActions_map_event (recorded : List Event) :
    authorityActions (recorded.map .event : History ε) = [] := by
  simp [authorityActions, Function.comp_def, Effect.authority?]

end History

namespace Gate

variable {σ ε : Type}
variable (gate : Gate σ ε) (phase : Phase) (named : Option String) (account : String)
variable (world : World σ)

/-- What is done with the authority for a question about an account. -/
def consultation : List AuthorityAction :=
  .connect gate.configuration.endpoint ::
    match (gate.opening world).answer with
    | .error _ =>
        []
    | .ok () =>
        [.call (world.sessionsOpened + 1) gate.configuration.endpoint .checkLogin account,
          .release (world.sessionsOpened + 1)]

/-- The course of a decision that exempt accounts pass by themselves. -/
def exemptingCourse : Course :=
  match presentAccount named with
  | none =>
      .nobody
  | some account =>
      let outcome :=
        (run (gate.queryAuthority account) (gate.worldBehindLookups world account)).answer
      match (gate.lookingUp world account).answer with
      | .ok (some found) =>
          .exempt account found
      | .ok none =>
          .asked account none outcome
      | .error failure =>
          .asked account (some failure) outcome

/-- The course of a decision that nobody passes by himself. -/
def strictCourse : Course :=
  match presentAccount named with
  | none =>
      .nobody
  | some account =>
      .asked account none (run (gate.queryAuthority account) world).answer

/-- Look-ups for an account make no dealings and record nothing. -/
theorem leaves_lookingUp :
    Leaves (fun _ => ()) world.outside (gate.lookingUp world account) :=
  IdentityDatabase.spares_exemption ⟨fun _ _ => rfl, fun _ _ _ _ => rfl, fun _ _ => rfl⟩
    gate.configuration.bypass account world.outside

theorem events_queryAuthority : (run (gate.queryAuthority account) world).events = [] := by
  cases accepted : (gate.opening world).answer with
  | error failure =>
      rw [gate.run_queryAuthority_of_refused account accepted]
      exact gate.events_openingEffects world
  | ok _ =>
      rw [gate.run_queryAuthority_of_accepted account accepted, Report.events]
      simp only [History.events_append, events_openingEffects, events_questioningEffects,
        events_releasingEffects, List.append_nil]

theorem authorityActions_queryAuthority :
    (run (gate.queryAuthority account) world).authorityActions =
      gate.consultation account world := by
  unfold consultation
  cases accepted : (gate.opening world).answer with
  | error failure =>
      rw [gate.run_queryAuthority_of_refused account accepted]
      exact gate.authorityActions_openingEffects world
  | ok _ =>
      rw [gate.run_queryAuthority_of_accepted account accepted, Report.authorityActions]
      simp only [History.authorityActions_append, authorityActions_openingEffects,
        authorityActions_questioningEffects, authorityActions_releasingEffects]
      rfl

theorem events_askAuthority :
    (run (gate.askAuthority phase account) world).events =
      Event.ofAuthority phase account (run (gate.queryAuthority account) world).answer := by
  have silent := gate.events_queryAuthority account world
  rw [Report.events] at silent ⊢
  rw [run_askAuthority, History.events_append, silent, History.events_map_event,
    List.nil_append]

theorem authorityActions_askAuthority :
    (run (gate.askAuthority phase account) world).authorityActions =
      gate.consultation account world := by
  have dealt := gate.authorityActions_queryAuthority account world
  rw [Report.authorityActions] at dealt ⊢
  rw [run_askAuthority, History.authorityActions_append, dealt,
    History.authorityActions_map_event, List.append_nil]

/-- A decision with exemptions is announced, and then takes its course. -/
theorem follows_exemptingCourse :
    (run (gate.decideWithExemptions phase named) world).answer =
        (gate.exemptingCourse named world).decision phase ∧
      (run (gate.decideWithExemptions phase named) world).events =
        .announcement phase :: (gate.exemptingCourse named world).trail phase := by
  cases present : presentAccount named with
  | none =>
      rw [gate.run_decideWithExemptions_of_nobody phase world present]
      simp only [exemptingCourse, present]
      exact ⟨rfl, rfl⟩
  | some account =>
      have silent := (gate.leaves_lookingUp account world).events
      have asked := gate.events_askAuthority phase account (gate.worldBehindLookups world account)
      have decided := gate.run_askAuthority phase (gate.worldBehindLookups world account) account
      rw [Report.events] at silent asked
      cases looked : (gate.lookingUp world account).answer with
      | error failure =>
          rw [gate.run_decideWithExemptions_of_failure phase world present looked]
          simp only [exemptingCourse, present, looked]
          refine ⟨congrArg Report.answer decided, ?_⟩
          simp only [Report.events, List.cons_append, History.events_cons_event,
            History.events_append, silent, asked]
          rfl
      | ok found? =>
          cases found? with
          | none =>
              rw [gate.run_decideWithExemptions_of_stranger phase world present looked]
              simp only [exemptingCourse, present, looked]
              refine ⟨congrArg Report.answer decided, ?_⟩
              simp only [Report.events, List.cons_append, History.events_cons_event,
                History.events_append, silent, asked]
              rfl
          | some found =>
              rw [gate.run_decideWithExemptions_of_exempt phase world present looked]
              simp only [exemptingCourse, present, looked]
              refine ⟨rfl, ?_⟩
              simp only [Report.events, List.cons_append, History.events_cons_event,
                History.events_append, silent]
              rfl

/-- A strict decision is announced, and then takes its course. -/
theorem follows_strictCourse :
    (run (gate.decideStrictly phase named) world).answer =
        (gate.strictCourse named world).decision phase ∧
      (run (gate.decideStrictly phase named) world).events =
        .announcement phase :: (gate.strictCourse named world).trail phase := by
  cases present : presentAccount named with
  | none =>
      rw [gate.run_decideStrictly_of_nobody phase world present]
      simp only [strictCourse, present]
      exact ⟨rfl, rfl⟩
  | some account =>
      have asked := gate.events_askAuthority phase account world
      rw [gate.run_decideStrictly_of_present phase world present]
      simp only [strictCourse, present]
      exact ⟨congrArg Report.answer (gate.run_askAuthority phase world account),
        congrArg (List.cons _) asked⟩

end Gate

end LoginGate
