import LoginGate.Proofs.Gate.Errand
import LoginGate.Proofs.Gate.Faithful
import LoginGate.Proofs.Gate.Paths

namespace LoginGate

/-!
# What a gate does with its authority in one step

Every function of the gate keeps within the errand that its account and its
method make, and a decision that rests on a failure comes with an event about it.
-/

open Interaction

variable {σ ε : Type}

namespace Authority

variable (authority : Authority σ ε) (endpoint : Endpoint) (account : String) (world : World σ)

theorem opening_recorded :
    authority.recorded.opening endpoint world =
      ⟨(authority.opening endpoint world).answer, (authority.opening endpoint world).world,
        (authority.opening endpoint world).effects.map .inl ++
          [.inr (.connect (world.sessionsOpened + 1) endpoint
            (authority.opening endpoint world).answer)]⟩ := by
  simp [opening, recorded]

theorem questioning_recorded :
    authority.recorded.questioning endpoint account world =
      ⟨(authority.questioning endpoint account world).answer,
        (authority.questioning endpoint account world).world,
        (authority.questioning endpoint account world).effects.map .inl ++
          [.inr (.call (world.sessionsOpened + 1) endpoint .checkLogin account
            (authority.questioning endpoint account world).answer)]⟩ := by
  simp [questioning, opening, recorded]

theorem notifying_recorded :
    authority.recorded.notifying endpoint account world =
      ⟨(authority.notifying endpoint account world).answer,
        (authority.notifying endpoint account world).world,
        (authority.notifying endpoint account world).effects.map .inl ++
          [.inr (.send (world.sessionsOpened + 1) endpoint .notifyLogout account
            (authority.notifying endpoint account world).answer)]⟩ := by
  simp [notifying, opening, recorded]

end Authority

namespace Gate

section Effects

variable (gate : Gate σ ε) (account : String) (world : World σ) (session : Nat) (outside : σ)

theorem contacts_openingEffects :
    History.contacts (gate.recorded.openingEffects world) =
      [.dealing (.connect (world.sessionsOpened + 1) gate.configuration.endpoint
        (gate.opening world).answer)] := by
  simp [openingEffects, recorded, opening, Authority.opening_recorded,
    -List.map_append]

theorem contacts_questioningEffects :
    History.contacts (gate.recorded.questioningEffects account world) =
      [.dealing (.call (world.sessionsOpened + 1) gate.configuration.endpoint .checkLogin account
        (gate.questioning account world).answer)] := by
  simp [questioningEffects, recorded, questioning, Authority.questioning_recorded,
    -List.map_append]

theorem contacts_notifyingEffects :
    History.contacts (gate.recorded.notifyingEffects account world) =
      [.dealing (.send (world.sessionsOpened + 1) gate.configuration.endpoint .notifyLogout account
        (gate.notifying account world).answer)] := by
  simp [notifyingEffects, recorded, notifying, Authority.notifying_recorded,
    -List.map_append]

theorem contacts_releasingEffects :
    History.contacts (gate.recorded.releasingEffects session outside) =
      [.dealing (.release session)] := by
  simp [releasingEffects, recorded, releasing, Authority.recorded, -List.map_append]

theorem events_openingEffects : History.events (gate.openingEffects world) = [] :=
  History.events_host _

theorem events_questioningEffects : History.events (gate.questioningEffects account world) = [] :=
  History.events_host _

theorem events_notifyingEffects : History.events (gate.notifyingEffects account world) = [] :=
  History.events_host _

theorem events_releasingEffects : History.events (gate.releasingEffects session outside) = [] :=
  History.events_host _

theorem authorityActions_openingEffects :
    History.authorityActions (gate.openingEffects world) =
      [.connect gate.configuration.endpoint] :=
  congrArg (List.cons _) (History.authorityActions_host _)

theorem authorityActions_questioningEffects :
    History.authorityActions (gate.questioningEffects account world) =
      [.call (world.sessionsOpened + 1) gate.configuration.endpoint .checkLogin account] :=
  congrArg (List.cons _) (History.authorityActions_host _)

theorem authorityActions_notifyingEffects :
    History.authorityActions (gate.notifyingEffects account world) =
      [.send (world.sessionsOpened + 1) gate.configuration.endpoint .notifyLogout account] :=
  congrArg (List.cons _) (History.authorityActions_host _)

theorem authorityActions_releasingEffects :
    History.authorityActions (gate.releasingEffects session outside) = [.release session] :=
  congrArg (List.cons _) (History.authorityActions_host _)

end Effects

section Steps

variable (gate : Gate σ ε) {account : String} {account? : Option String} (world : World σ)

/-- A failed question is explained by its call, or by an answer that is no decision. -/
theorem explains_of_call
    {session : Nat}
    {endpoint : Endpoint}
    {answer : Except AuthorityError Reply}
    {failure : AuthorityError}
    {dealings : List Dealing}
    (isMember : .call session endpoint .checkLogin account answer ∈ dealings)
    (failed : answer.bind Reply.decision = .error failure) :
    Explains dealings failure := by
  cases answer with
  | error reported =>
      obtain rfl := Except.error.inj failed
      exact .inl ⟨_, isMember, rfl⟩
  | ok reply =>
      cases reply with
      | noArguments =>
          exact .inr (.inl (Except.error.inj failed).symm)
      | boolean value =>
          simp [Except.bind, Reply.decision] at failed
      | other signature =>
          exact .inr (.inr ⟨signature, (Except.error.inj failed).symm⟩)

/-- A question to the authority consults it once, and fails only for a reason. -/
theorem consults_queryAuthority (account : String) :
    ∃ dealings,
      History.contacts (run (gate.recorded.queryAuthority account) world).effects =
          dealings.map .dealing ∧
        Consults (world.sessionsOpened + 1) gate.configuration.endpoint account .checkLogin
          dealings ∧
        History.events (run (gate.recorded.queryAuthority account) world).effects = [] ∧
        (run (gate.recorded.queryAuthority account) world).world.sessionsOpened =
          world.sessionsOpened + (openedSessions dealings).length ∧
        ∀ failure,
          (run (gate.recorded.queryAuthority account) world).answer = .error failure →
          Explains dealings failure := by
  cases opened : (gate.opening world).answer with
  | error reported =>
      have refused : (gate.recorded.opening world).answer = .error reported :=
        opened
      rw [run_queryAuthority_of_refused _ _ refused]
      refine ⟨[.connect _ _ (.error reported)], ?_, .refused, events_openingEffects _ _, rfl, ?_⟩
      · rw [contacts_openingEffects, opened]
        rfl
      · intro failure failed
        obtain rfl := Except.error.inj failed
        exact .inl ⟨_, List.mem_singleton_self _, rfl⟩
  | ok _ =>
      have accepted : (gate.recorded.opening world).answer = .ok () :=
        opened
      rw [run_queryAuthority_of_accepted _ _ accepted]
      refine ⟨[.connect _ _ (.ok ()),
        .call _ _ .checkLogin account (gate.questioning account world).answer, .release _],
        ?_, .exchanged .question, ?_, rfl, ?_⟩
      · simp only [History.contacts_append, contacts_openingEffects, contacts_questioningEffects,
          contacts_releasingEffects, opened]
        rfl
      · simp only [History.events_append, events_openingEffects, events_questioningEffects,
          events_releasingEffects, List.append_nil]
      · intro failure failed
        exact explains_of_call (List.mem_cons_of_mem _ List.mem_cons_self) failed

theorem severity_ne_error_of_denials
    {phase : Phase}
    {account : String} :
    ∀ event ∈ Event.denials phase account, event.severity ≠ .error := by
  simp [Event.denials, Event.debug, Event.notice]

/-- The only error behind a question to the authority is the failure of the question. -/
theorem failed_of_error_event
    {phase : Phase}
    {account : String}
    {answer : Except AuthorityError Bool}
    {event : Event}
    (isEvent : event ∈ Event.ofAuthority phase account answer)
    (isError : event.severity = .error) :
    ∃ failure, answer = .error failure ∧ event.message = failure.message := by
  cases answer with
  | error failure =>
      refine ⟨failure, rfl, ?_⟩
      rcases List.mem_append.mp isEvent with isReport | isDenial
      · simp only [AuthorityError.events, List.mem_cons, List.not_mem_nil, or_false] at isReport
        rcases isReport with rfl | rfl
        · rfl
        · simp [Event.debug] at isError
      · exact (severity_ne_error_of_denials event isDenial isError).elim
  | ok consent =>
      cases consent with
      | false =>
          exact (severity_ne_error_of_denials event isEvent isError).elim
      | true =>
          obtain rfl := List.mem_singleton.mp isEvent
          simp [Event.debug] at isError

/-- A question to the authority is a step of an errand for the account. -/
theorem discipline_askAuthority
    {errand : Errand}
    (phase : Phase)
    (named : errand.account = some account)
    (asks : errand.method = some .checkLogin) :
    errand.Discipline gate.configuration world.sessionsOpened
      (run (gate.recorded.askAuthority phase account) world).world.sessionsOpened
      (run (gate.recorded.askAuthority phase account) world).effects := by
  obtain ⟨dealings, contacts, consults, silent, sessions, failures⟩ :=
    gate.consults_queryAuthority world account
  refine .of_consults named asks ?_ consults ?_ ?_
  · rw [run_askAuthority, History.contacts_append, contacts, History.contacts_events,
      List.append_nil]
  · simpa [run_askAuthority] using sessions
  · intro event isEvent isError
    rw [run_askAuthority, History.events_append, silent, List.nil_append,
      History.events_map_event] at isEvent
    obtain ⟨failure, failed, message⟩ := failed_of_error_event isEvent isError
    exact ⟨failure, message, failures failure failed⟩

theorem prelude_announcement (errand : Errand) (phase : Phase) :
    errand.Prelude gate.configuration
      ([.event (.announcement phase)] : History (Recorded ε)) :=
  .of_event (by simp [Event.announcement, Event.notice])

theorem prelude_debug (errand : Errand) (phase : Phase) (text : String) :
    errand.Prelude gate.configuration
      ([.event (.debug phase text)] : History (Recorded ε)) :=
  .of_event (by simp [Event.debug])

theorem discipline_decideStrictly
    {errand : Errand}
    (phase : Phase)
    (named : errand.account = presentAccount account?)
    (asks : errand.method = some .checkLogin) :
    errand.Discipline gate.configuration world.sessionsOpened
      (run (gate.recorded.decideStrictly phase account?) world).world.sessionsOpened
      (run (gate.recorded.decideStrictly phase account?) world).effects := by
  have announced := gate.prelude_announcement errand phase
  cases present : presentAccount account? with
  | none =>
      rw [gate.recorded.run_decideStrictly_of_nobody phase world present]
      exact (announced.append (gate.prelude_debug errand phase "No user found")).discipline
  | some account =>
      rw [gate.recorded.run_decideStrictly_of_present phase world present]
      exact announced.precedes
        (gate.discipline_askAuthority world phase (named.trans present) asks)

theorem discipline_decideWithExemptions
    {errand : Errand}
    (phase : Phase)
    (named : errand.account = presentAccount account?)
    (asks : errand.method = some .checkLogin)
    (exempting : errand.exempting = true) :
    errand.Discipline gate.configuration world.sessionsOpened
      (run (gate.recorded.decideWithExemptions phase account?) world).world.sessionsOpened
      (run (gate.recorded.decideWithExemptions phase account?) world).effects := by
  have announced := gate.prelude_announcement errand phase
  cases present : presentAccount account? with
  | none =>
      rw [gate.recorded.run_decideWithExemptions_of_nobody phase world present]
      exact (announced.append (gate.prelude_debug errand phase "No user found")).discipline
  | some account =>
      have lookedUp :
          errand.Prelude gate.configuration
            (gate.recorded.lookingUp world account).effects :=
        .of_looksUp exempting (named.trans present)
          (gate.database.looksUp_exemption account gate.configuration.bypass world.outside)
      have asked :=
        gate.discipline_askAuthority (gate.recorded.worldBehindLookups world account) phase
          (named.trans present) asks
      cases looked : (gate.recorded.lookingUp world account).answer with
      | error failure =>
          rw [gate.recorded.run_decideWithExemptions_of_failure phase world present looked]
          have told :
              errand.Prelude gate.configuration
                ([.event (failure.event phase account)] : History (Recorded ε)) :=
            gate.prelude_debug errand phase _
          exact (announced.append lookedUp).precedes (told.precedes asked)
      | ok found =>
          cases found with
          | none =>
              rw [gate.recorded.run_decideWithExemptions_of_stranger phase world present looked]
              exact (announced.append lookedUp).precedes asked
          | some exemption =>
              rw [gate.recorded.run_decideWithExemptions_of_exempt phase world present looked]
              have told :
                  errand.Prelude gate.configuration
                    ([.event (exemption.event phase account)] : History (Recorded ε)) := by
                cases exemption <;> exact gate.prelude_debug errand phase _
              exact ((announced.append lookedUp).append told).discipline

/-- The only error behind a notice is the failure of the notice. -/
theorem failed_of_notice_event
    {account : String}
    {sent : Except AuthorityError Unit}
    {event : Event}
    (isEvent : event ∈ History.events (noticeEffects account sent : History (Recorded ε)))
    (isError : event.severity = .error) :
    ∃ failure, sent = .error failure ∧ event.message = failure.message := by
  cases sent with
  | error failure =>
      refine ⟨failure, rfl, ?_⟩
      simp only [noticeEffects, History.events, Effect.event?, List.filterMap_cons,
        List.filterMap_nil, List.mem_cons, List.not_mem_nil, or_false] at isEvent
      rcases isEvent with rfl | rfl
      · rfl
      · simp [Event.debug] at isError
  | ok _ =>
      obtain rfl := List.mem_singleton.mp isEvent
      simp [Event.debug] at isError

theorem contacts_noticeEffects (account : String) (sent : Except AuthorityError Unit) :
    History.contacts (noticeEffects account sent : History (Recorded ε)) = [] := by
  cases sent <;> rfl

/-- The notice about the end of a session is a step of an errand for the account. -/
theorem discipline_announceSessionEnd
    {errand : Errand}
    (named : errand.account = presentAccount account?)
    (tells : errand.method = some .notifyLogout) :
    errand.Discipline gate.configuration world.sessionsOpened
      (run (gate.recorded.announceSessionEnd account?) world).world.sessionsOpened
      (run (gate.recorded.announceSessionEnd account?) world).effects := by
  cases present : presentAccount account? with
  | none =>
      rw [gate.recorded.run_announceSessionEnd_of_nobody present]
      exact (gate.prelude_debug errand .closeSession _).discipline
  | some account =>
      cases opened : (gate.opening world).answer with
      | error failure =>
          have refused : (gate.recorded.opening world).answer = .error failure :=
            opened
          rw [gate.recorded.run_announceSessionEnd_of_refused account present refused]
          have consults :
              Consults (world.sessionsOpened + 1) gate.configuration.endpoint account .notifyLogout
                [.connect (world.sessionsOpened + 1) gate.configuration.endpoint
                  (.error failure)] :=
            .refused
          refine .of_consults (named.trans present) tells ?_ consults rfl ?_
          · rw [History.contacts_append, contacts_openingEffects, contacts_noticeEffects, opened]
            rfl
          · intro event isEvent isError
            rw [History.events_append, events_openingEffects, List.nil_append] at isEvent
            obtain ⟨reported, failed, message⟩ := failed_of_notice_event isEvent isError
            obtain rfl := Except.error.inj failed
            exact ⟨failure, message, .inl ⟨_, List.mem_singleton_self _, rfl⟩⟩
      | ok _ =>
          have accepted : (gate.recorded.opening world).answer = .ok () :=
            opened
          rw [gate.recorded.run_announceSessionEnd_of_accepted account present accepted]
          have consults :
              Consults (world.sessionsOpened + 1) gate.configuration.endpoint account .notifyLogout
                [.connect (world.sessionsOpened + 1) gate.configuration.endpoint (.ok ()),
                  .send (world.sessionsOpened + 1) gate.configuration.endpoint .notifyLogout account
                    (gate.notifying account world).answer,
                  .release (world.sessionsOpened + 1)] :=
            .exchanged .notice
          refine .of_consults (named.trans present) tells ?_ consults rfl ?_
          · simp only [History.contacts_append, contacts_openingEffects, contacts_notifyingEffects,
              contacts_noticeEffects, contacts_releasingEffects, opened]
            rfl
          · intro event isEvent isError
            simp only [History.events_append, events_openingEffects, events_notifyingEffects,
              events_releasingEffects, List.nil_append, List.append_nil] at isEvent
            obtain ⟨failure, failed, message⟩ := failed_of_notice_event isEvent isError
            refine ⟨failure, message,
              .inl ⟨_, List.mem_cons_of_mem _ List.mem_cons_self, ?_⟩⟩
            have reported : (gate.notifying account world).answer = .error failure :=
              failed
            rw [reported]
            rfl

/-- A decision that rests on a failure comes with an error event about it. -/
def ReportsFailure (decision : Decision) (history : History ε) : Prop :=
  ∀ text,
    decision.basis = .transportFailure text →
    ∃ event ∈ history.events, event.severity = .error ∧ event.message = text

theorem reportsFailure_askAuthority (phase : Phase) (account : String) :
    ReportsFailure (run (gate.askAuthority phase account) world).answer
      (run (gate.askAuthority phase account) world).effects := by
  intro text restsOn
  rw [run_askAuthority] at restsOn ⊢
  cases answered : (run (gate.queryAuthority account) world).answer with
  | error failure =>
      rw [answered] at restsOn
      obtain rfl := Basis.transportFailure.inj restsOn
      refine ⟨.error phase failure.message, ?_, rfl, rfl⟩
      simp [History.events, Effect.event?, Function.comp_def, Event.ofAuthority,
        AuthorityError.events]
  | ok consent =>
      rw [answered] at restsOn
      cases consent <;> simp [Decision.ofAuthority] at restsOn

/-- What came before a decision does not take its reports away. -/
theorem ReportsFailure.behind
    {decision : Decision}
    {history : History ε}
    (reports : ReportsFailure decision history)
    (before : History ε) :
    ReportsFailure decision (before ++ history) := by
  intro text restsOn
  obtain ⟨event, isEvent, isError, message⟩ := reports text restsOn
  refine ⟨event, ?_, isError, message⟩
  rw [History.events_append]
  exact List.mem_append_right _ isEvent

theorem reportsFailure_decideStrictly (phase : Phase) :
    ReportsFailure (run (gate.decideStrictly phase account?) world).answer
      (run (gate.decideStrictly phase account?) world).effects := by
  cases present : presentAccount account? with
  | none =>
      rw [gate.run_decideStrictly_of_nobody phase world present]
      intro text restsOn
      simp at restsOn
  | some account =>
      rw [gate.run_decideStrictly_of_present phase world present]
      exact (gate.reportsFailure_askAuthority world phase account).behind [_]

theorem reportsFailure_decideWithExemptions (phase : Phase) :
    ReportsFailure (run (gate.decideWithExemptions phase account?) world).answer
      (run (gate.decideWithExemptions phase account?) world).effects := by
  cases present : presentAccount account? with
  | none =>
      rw [gate.run_decideWithExemptions_of_nobody phase world present]
      intro text restsOn
      simp at restsOn
  | some account =>
      have asked :=
        gate.reportsFailure_askAuthority (gate.worldBehindLookups world account) phase account
      cases looked : (gate.lookingUp world account).answer with
      | error failure =>
          rw [gate.run_decideWithExemptions_of_failure phase world present looked]
          exact (asked.behind [_]).behind _
      | ok found =>
          cases found with
          | none =>
              rw [gate.run_decideWithExemptions_of_stranger phase world present looked]
              exact asked.behind _
          | some exemption =>
              rw [gate.run_decideWithExemptions_of_exempt phase world present looked]
              intro text restsOn
              cases exemption <;> simp [Exemption.basis] at restsOn

end Steps

end Gate

/-- What a checkpoint is for: no exemptions are looked up at the strict one. -/
def Phase.errand (phase : Phase) (account : Option String) : Errand :=
  match phase with
  | .authenticate =>
      ⟨account, some .checkLogin, true⟩
  | .setCredentials =>
      ⟨account, none, false⟩
  | .accountManagement =>
      ⟨account, some .checkLogin, true⟩
  | .openSession =>
      ⟨account, some .checkLogin, false⟩
  | .closeSession =>
      ⟨account, some .notifyLogout, false⟩

/-- What a request is for. -/
def GateRequest.errand : GateRequest → Errand
  | .checkpoint phase named =>
      phase.errand (presentAccount named)
  | .checkpointBytes phase bytes =>
      phase.errand (presentAccount (bytes.bind phase.decodeAccount))
  | .decideWithExemptions _ named =>
      ⟨presentAccount named, some .checkLogin, true⟩
  | .decideStrictly _ named =>
      ⟨presentAccount named, some .checkLogin, false⟩
  | .sessionEnd named =>
      ⟨presentAccount named, some .notifyLogout, false⟩

/-- One step of a gate, between two numbers of sessions opened. -/
structure GateRequest.Discipline
    (request : GateRequest)
    (configuration : Configuration)
    (before after : Nat)
    (step : GateAnswer × History (Recorded ε)) : Prop where
  errand : request.errand.Discipline configuration before after step.2
  reported : ∀ decision, step.1 = .decision decision → Gate.ReportsFailure decision step.2

namespace Gate

variable (gate : Gate σ ε) (world : World σ)

theorem discipline_answer (phase : Phase) (named : Option String) :
    (phase.errand (presentAccount named)).Discipline gate.configuration world.sessionsOpened
      (run (gate.recorded.answer phase named) world).world.sessionsOpened
      (run (gate.recorded.answer phase named) world).effects := by
  cases phase with
  | authenticate =>
      simp only [answer, run_bind, run_pure, List.append_nil]
      exact gate.discipline_decideWithExemptions world .authenticate rfl rfl rfl
  | setCredentials =>
      exact Errand.Prelude.nothing.discipline
  | accountManagement =>
      simp only [answer, run_bind, run_pure, List.append_nil]
      exact gate.discipline_decideWithExemptions world .accountManagement rfl rfl rfl
  | openSession =>
      simp only [answer, run_bind, run_pure, List.append_nil]
      exact gate.discipline_decideStrictly world .openSession rfl rfl
  | closeSession =>
      exact gate.discipline_announceSessionEnd world rfl rfl

/-- Every request is served within its errand. -/
theorem discipline_serve (request : GateRequest) :
    request.Discipline gate.configuration world.sessionsOpened
      (run (gate.recorded.serve request) world).world.sessionsOpened
      ((run (gate.recorded.serve request) world).answer,
        (run (gate.recorded.serve request) world).effects) := by
  cases request with
  | checkpoint phase named =>
      simp only [serve, run_map]
      exact ⟨gate.discipline_answer world phase named, by simp⟩
  | checkpointBytes phase bytes =>
      simp only [serve, run_map]
      exact ⟨gate.discipline_answer world phase _, by simp⟩
  | decideWithExemptions phase named =>
      simp only [serve, run_map]
      refine ⟨gate.discipline_decideWithExemptions world phase rfl rfl rfl, ?_⟩
      intro decision answered
      obtain rfl := GateAnswer.decision.inj answered
      exact gate.recorded.reportsFailure_decideWithExemptions world phase
  | decideStrictly phase named =>
      simp only [serve, run_map]
      refine ⟨gate.discipline_decideStrictly world phase rfl rfl, ?_⟩
      intro decision answered
      obtain rfl := GateAnswer.decision.inj answered
      exact gate.recorded.reportsFailure_decideStrictly world phase
  | sessionEnd named =>
      simp only [serve, run_map]
      exact ⟨gate.discipline_announceSessionEnd world rfl rfl, by simp⟩

end Gate

end LoginGate
