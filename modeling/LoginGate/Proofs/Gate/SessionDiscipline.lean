import LoginGate.Proofs.Gate.StepDiscipline

namespace LoginGate

/-!
# What a gate does with its authority over a whole run

Steps follow each other with nothing in common but the number of sessions that
were opened. What holds of each step therefore holds of every run: there is never
more than one open session, none between two steps, and no session is used in two
of them.
-/

open Interaction

variable {σ ε : Type}

namespace AuthorityError

/-- The first character of a failure's text. -/
def initial : AuthorityError → Char
  | .unexpectedType _ =>
      'u'
  | .send _ =>
      'f'
  | .alreadySent .checkLogin =>
      'C'
  | .alreadySent .notifyLogout =>
      'N'
  | _ =>
      'D'

theorem head?_toList_append
    {front : String}
    {first : Char}
    (starts : front.toList.head? = some first)
    (rest : String) :
    (front ++ rest).toList.head? = some first := by
  rw [String.toList_append, List.head?_append, starts]
  rfl

theorem head?_message (failure : AuthorityError) :
    failure.message.toList.head? = some failure.initial := by
  cases failure with
  | connect reason =>
      exact head?_toList_append rfl _
  | call reason =>
      exact head?_toList_append rfl _
  | noArguments =>
      rfl
  | unexpectedType signature =>
      exact head?_toList_append (head?_toList_append rfl _) _
  | send reason =>
      exact head?_toList_append rfl _
  | alreadySent method =>
      cases method with
      | checkLogin =>
          exact head?_toList_append rfl _
      | notifyLogout =>
          exact head?_toList_append rfl _

/-- No other failure has the text of a repeated method. -/
theorem eq_alreadySent_of_message_eq
    {failure : AuthorityError}
    {method : Method}
    (same : failure.message = (AuthorityError.alreadySent method).message) :
    failure = .alreadySent method := by
  have sameInitial : failure.initial = (AuthorityError.alreadySent method).initial := by
    rw [← Option.some.injEq, ← head?_message, ← head?_message, same]
  cases failure with
  | alreadySent other =>
      cases other <;> cases method <;> simp [initial] at sameInitial ⊢
  | _ =>
      cases method <;> simp [initial] at sameInitial

end AuthorityError

/-- Steps that serve requests one after the other, each within its errand. -/
inductive Disciplined (configuration : Configuration) :
    (before : Nat) → List GateRequest → List (GateAnswer × History (Recorded ε)) → Prop where
  | done {before : Nat} :
      Disciplined configuration before [] []
  | next {before after : Nat}
      {request : GateRequest}
      {requests : List GateRequest}
      {step : GateAnswer × History (Recorded ε)}
      {steps : List (GateAnswer × History (Recorded ε))} :
      request.Discipline configuration before after step →
      Disciplined configuration after requests steps →
      Disciplined configuration before (request :: requests) (step :: steps)

/-- Extract the session that a dealing opens or uses. -/
def Dealing.used? (dealing : Dealing) : Option Nat :=
  dealing.opened? <|> dealing.messaged? <|> dealing.released?

/-- The sessions that dealings open or use. -/
def usedSessions (dealings : List Dealing) : List Nat :=
  dealings.filterMap Dealing.used?

/-- The dealings of several steps, in order. -/
def dealingsOf (steps : List (GateAnswer × History (Recorded ε))) : List Dealing :=
  steps.flatMap fun step => step.2.dealings

/-- A step tells of a failure: in an error event, or as what its decision rests on. -/
inductive Reports (step : GateAnswer × History ε) (text : String) : Prop where
  | event {event : Event} :
      event ∈ History.events step.2 →
      event.severity = .error →
      event.message = text →
      Reports step text
  | basis {decision : Decision} :
      step.1 = .decision decision →
      decision.basis = .transportFailure text →
      Reports step text

section Steps

variable {session : Nat} {endpoint : Endpoint} {errand : Errand} {dealings : List Dealing}

theorem Consults.used_eq
    {account : String}
    {method : Method}
    (consults : Consults session endpoint account method dealings)
    {used : Nat}
    (isUsed : used ∈ usedSessions dealings) :
    used = session ∧ openedSessions dealings = [session] := by
  cases consults with
  | refused =>
      simp [usedSessions, Dealing.used?, Dealing.opened?, Dealing.messaged?,
        Dealing.released?] at isUsed
  | exchanged carries =>
      cases carries <;>
        simp_all [usedSessions, Dealing.used?, Dealing.opened?, Dealing.messaged?,
          Dealing.released?]

theorem Errand.Deals.used_eq
    (deals : errand.Deals session endpoint dealings)
    {used : Nat}
    (isUsed : used ∈ usedSessions dealings) :
    used = session ∧ openedSessions dealings = [session] := by
  rcases deals with rfl | ⟨account, method, _, _, consults⟩
  · simp [usedSessions] at isUsed
  · exact consults.used_eq isUsed

theorem Consults.atMostOneOpen
    {account : String}
    {method : Method}
    (consults : Consults session endpoint account method dealings) :
    openSessions dealings = [] ∧
      ∀ earlier, earlier <+: dealings → (openSessions earlier).length ≤ 1 := by
  cases consults with
  | refused =>
      refine ⟨rfl, ?_⟩
      intro earlier isEarlier
      rcases List.prefix_cons_iff.mp isEarlier with rfl | ⟨behind, rfl, isBehind⟩
      · exact Nat.zero_le 1
      · obtain rfl := List.prefix_nil.mp isBehind
        exact Nat.zero_le 1
  | exchanged carries =>
      constructor
      · cases carries <;> simp [openSessions, Dealing.track]
      · intro earlier isEarlier
        rcases List.prefix_cons_iff.mp isEarlier with rfl | ⟨afterConnect, rfl, isAfter⟩
        · exact Nat.zero_le 1
        rcases List.prefix_cons_iff.mp isAfter with rfl | ⟨afterMessage, rfl, isLast⟩
        · exact Nat.le_refl 1
        rcases List.prefix_cons_iff.mp isLast with rfl | ⟨afterRelease, rfl, isBehind⟩
        · cases carries <;> exact Nat.le_refl 1
        obtain rfl := List.prefix_nil.mp isBehind
        cases carries <;> simp [openSessions, Dealing.track]

/-- Behind the dealings of a step no session is open, and within them at most one is. -/
theorem Errand.Deals.atMostOneOpen (deals : errand.Deals session endpoint dealings) :
    openSessions dealings = [] ∧
      ∀ earlier, earlier <+: dealings → (openSessions earlier).length ≤ 1 := by
  rcases deals with rfl | ⟨account, method, _, _, consults⟩
  · simp
  · exact consults.atMostOneOpen

theorem Errand.Discipline.deals
    {configuration : Configuration}
    {before after : Nat}
    {history : History (Recorded ε)}
    (discipline : errand.Discipline configuration before after history) :
    errand.Deals (before + 1) configuration.endpoint history.dealings := by
  obtain ⟨lookups, dealings, contacts, _, deals⟩ := discipline.contacts
  have sameDealings : history.dealings = dealings := by
    rw [History.dealings_eq_contacts, contacts]
    simp [Contact.dealing?, Function.comp_def]
  rw [sameDealings]
  exact deals

end Steps

/-- Where no session is open, the open sessions are counted anew. -/
theorem openSessions_append_of_closed
    {past : List Dealing}
    (closed : openSessions past = [])
    (later : List Dealing) :
    openSessions (past ++ later) = openSessions later := by
  unfold openSessions at closed ⊢
  rw [List.foldl_append, closed]

namespace Disciplined

variable {configuration : Configuration} {before : Nat} {requests : List GateRequest}
variable {steps : List (GateAnswer × History (Recorded ε))}

/-- Between two steps no session is open. -/
theorem closedBetween (disciplined : Disciplined configuration before requests steps) :
    ∀ count, openSessions (dealingsOf (steps.take count)) = [] := by
  induction disciplined with
  | done =>
      simp [dealingsOf]
  | next discipline _ inductionHypothesis =>
      intro count
      cases count with
      | zero =>
          rfl
      | succ count =>
          rw [List.take_succ_cons, dealingsOf, List.flatMap_cons,
            openSessions_append_of_closed discipline.errand.deals.atMostOneOpen.1]
          exact inductionHypothesis count

/-- At every point of a run at most one session is open. -/
theorem atMostOneOpen (disciplined : Disciplined configuration before requests steps) :
    ∀ earlier, earlier <+: dealingsOf steps → (openSessions earlier).length ≤ 1 := by
  induction disciplined with
  | done =>
      intro earlier isEarlier
      obtain rfl := List.prefix_nil.mp isEarlier
      exact Nat.zero_le 1
  | @next before after request requests step steps discipline _ inductionHypothesis =>
      intro earlier isEarlier
      obtain ⟨closed, atMostOne⟩ := discipline.errand.deals.atMostOneOpen
      rw [dealingsOf, List.flatMap_cons] at isEarlier
      rcases List.prefix_or_prefix_of_prefix isEarlier (List.prefix_append _ _) with
        within | ⟨behind, rfl⟩
      · exact atMostOne earlier within
      · rw [openSessions_append_of_closed closed]
        exact inductionHypothesis behind ((List.prefix_append_right_inj _).mp isEarlier)

/-- Every session is used behind those that were opened before. -/
theorem before_lt_of_used
    (disciplined : Disciplined configuration before requests steps) :
    ∀ step ∈ steps, ∀ used ∈ usedSessions step.2.dealings, before < used := by
  induction disciplined with
  | done =>
      simp
  | @next before after request requests step steps discipline _ inductionHypothesis =>
      intro other isOther used isUsed
      rcases List.mem_cons.mp isOther with rfl | isLater
      · obtain ⟨rfl, _⟩ := discipline.errand.deals.used_eq isUsed
        exact Nat.lt_succ_self before
      · have later := inductionHypothesis other isLater used isUsed
        have sessions := discipline.errand.sessions
        omega

/-- No session is used in two steps. -/
theorem separate (disciplined : Disciplined configuration before requests steps) :
    steps.Pairwise fun first second =>
      ∀ used ∈ usedSessions first.2.dealings, used ∉ usedSessions second.2.dealings := by
  induction disciplined with
  | done =>
      exact .nil
  | @next before after request requests step steps discipline rest inductionHypothesis =>
      refine .cons ?_ inductionHypothesis
      intro other isOther used isUsed isUsedLater
      obtain ⟨rfl, opened⟩ := discipline.errand.deals.used_eq isUsed
      have later := rest.before_lt_of_used other isOther _ isUsedLater
      have sessions := discipline.errand.sessions
      rw [opened, List.length_singleton] at sessions
      omega

/-- A step reports no repeated method unless the authority does. -/
theorem noRepeat (disciplined : Disciplined configuration before requests steps) :
    ∀ step ∈ steps,
      (∀ dealing ∈ step.2.dealings, ∀ method,
        dealing.failure? ≠ some (.alreadySent method)) →
      ∀ method, ¬ Reports step (AuthorityError.alreadySent method).message := by
  induction disciplined with
  | done =>
      simp
  | next discipline _ inductionHypothesis =>
      intro other isOther notReported method reports
      rcases List.mem_cons.mp isOther with rfl | isLater
      · obtain ⟨event, isEvent, isError, text⟩ :
            ∃ event ∈ History.events other.2,
              event.severity = .error ∧
                event.message = (AuthorityError.alreadySent method).message := by
          cases reports with
          | event isEvent isError text =>
              exact ⟨_, isEvent, isError, text⟩
          | basis answered restsOn =>
              exact discipline.reported _ answered _ restsOn
        obtain ⟨failure, message, explains⟩ := discipline.errand.failures event isEvent isError
        obtain rfl := AuthorityError.eq_alreadySent_of_message_eq (message.symm.trans text)
        rcases explains with ⟨dealing, isDealing, reported⟩ | impossible | ⟨_, impossible⟩
        · exact notReported dealing isDealing method reported
        · simp at impossible
        · simp at impossible
      · exact inductionHypothesis other isLater notReported method reports

end Disciplined

namespace Gate

variable (gate : Gate σ ε) (requests : List GateRequest) (world : World σ)

/-- What a run of a gate leaves behind when the dealings with its authority are recorded. -/
def serving : Report (World σ) (Effect (Recorded ε)) (List (GateAnswer × History (Recorded ε))) :=
  run (gate.recorded.serveEach requests) world

theorem disciplined_serving :
    Disciplined gate.configuration world.sessionsOpened requests
      (gate.serving requests world).answer := by
  unfold serving serveEach
  induction requests generalizing world with
  | nil =>
      exact .done
  | cons request rest inductionHypothesis =>
      simp only [List.map_cons, transcript, run_bind, run_observe, run_pure]
      exact .next (gate.discipline_serve world request) (inductionHypothesis _)

theorem dealings_serving :
    History.dealings (gate.serving requests world).effects =
      dealingsOf (gate.serving requests world).answer := by
  unfold serving serveEach
  rw [effects_run_transcript, dealingsOf, History.dealings, List.filterMap_flatMap]
  rfl

/--
What can be said of a whole run of a gate: recording changes nothing; every step
keeps to its errand; at every point at most one session is open, and none between
two steps; no session is used in two steps; and no step reports a repeated method
that its authority did not report.
-/
structure SessionDiscipline : Prop where
  faithful :
    run (gate.serveEach requests) world =
      ⟨(gate.serving requests world).answer.map fun step =>
          (step.1, History.withoutRecord step.2),
        (gate.serving requests world).world,
        History.withoutRecord (gate.serving requests world).effects⟩
  disciplined :
    Disciplined gate.configuration world.sessionsOpened requests
      (gate.serving requests world).answer
  atMostOneOpen :
    ∀ earlier, earlier <+: History.dealings (gate.serving requests world).effects →
      (openSessions earlier).length ≤ 1
  closedBetween :
    ∀ count, openSessions (dealingsOf ((gate.serving requests world).answer.take count)) = []
  separate :
    (gate.serving requests world).answer.Pairwise fun first second =>
      ∀ used ∈ usedSessions first.2.dealings, used ∉ usedSessions second.2.dealings
  noRepeat :
    ∀ step ∈ (gate.serving requests world).answer,
      (∀ dealing ∈ step.2.dealings, ∀ method,
        dealing.failure? ≠ some (.alreadySent method)) →
      ∀ method, ¬ Reports step (AuthorityError.alreadySent method).message

/-- Every run of a gate keeps the discipline, over any database and any authority. -/
theorem sessionDiscipline : gate.SessionDiscipline requests world := by
  have disciplined := gate.disciplined_serving requests world
  constructor
  case faithful =>
    exact gate.run_serveEach_of_recorded requests world
  case disciplined =>
    exact disciplined
  case atMostOneOpen =>
    rw [dealings_serving]
    exact disciplined.atMostOneOpen
  case closedBetween =>
    exact disciplined.closedBetween
  case separate =>
    exact disciplined.separate
  case noRepeat =>
    exact disciplined.noRepeat

end Gate

end LoginGate
