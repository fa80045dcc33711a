import LoginGate.Proofs.Gate.Alike
import LoginGate.Proofs.Host.PamContract

namespace LoginGate

/-!
# A gate remembers nothing

Over a database and an authority whose answers do not change, it makes no
difference what a gate was asked before. Every step of a run is the step that a
fresh gate would have made, apart from the numbers of its sessions. A host that
builds a gate for each call therefore gets what it would get from one gate that
serves all calls.
-/

open Interaction

variable {σ τ ε φ α : Type}

/-- Each step of a transcript is a run of its own, in the world that the steps before it left. -/
theorem Interaction.getElem?_answer_transcript
    (interactions : List (Interaction σ ε α))
    (world : σ)
    (index : Nat) :
    (run (transcript interactions) world).answer[index]? =
      interactions[index]?.map fun interaction =>
        let report := run interaction (run (transcript (interactions.take index)) world).world
        (report.answer, report.effects) := by
  induction interactions generalizing world index with
  | nil =>
      rfl
  | cons first rest inductionHypothesis =>
      cases index with
      | zero =>
          simp [transcript]
      | succ index =>
          simp [transcript, inductionHypothesis]

namespace Gate

/-- The database and the authority of a gate answer as two tables say, whenever they are asked. -/
structure Gives
    (gate : Gate σ ε)
    (identity : IdentityAnswers)
    (replies : AuthorityAnswers) : Prop where
  database : gate.database.Gives identity
  authority : gate.authority.Gives replies

/-- What a request leaves behind when a fresh gate is asked nothing else. -/
def servingAlone (gate : Gate σ ε) (request : GateRequest) (outside : σ) :
    Report (World σ) (Effect ε) GateAnswer :=
  run (gate.serve request) (.ofOutside outside)

/-- How many sessions were opened when a run has come to the request at an index. -/
def sessionsBefore
    (gate : Gate σ ε)
    (requests : List GateRequest)
    (world : World σ)
    (index : Nat) : Nat :=
  (run (gate.serveEach (requests.take index)) world).world.sessionsOpened

end Gate

namespace PamHost

variable (clock : Clock) (host : PamHost σ)

/-- Calls at several checkpoints, one after the other. -/
def answerEach (phases : List Phase) :
    Interaction (σ × TraceFile) HostEffect (List (Outcome × List HostEffect)) :=
  .transcript (phases.map (host.answerCheckpoint clock))

/-- The world in which a host makes the call at an index. -/
def worldBefore (phases : List Phase) (worlds : σ × TraceFile) (index : Nat) : σ × TraceFile :=
  (run (host.answerEach clock (phases.take index)) worlds).world

/-- The requests that the calls amount to, with the bytes that the host gives for the user. -/
def requests (phases : List Phase) (worlds : σ × TraceFile) : List GateRequest :=
  phases.mapIdx fun index phase =>
    .checkpointBytes phase
      (host.pam.userBytes? (host.userAnswer (host.worldBefore clock phases worlds index).1))

end PamHost

namespace Gate

variable {identity : IdentityAnswers} {replies : AuthorityAnswers}

/-- A request is served in any world as a fresh gate with the same answers serves it. -/
theorem alike_servingAlone
    {gate : Gate σ ε}
    (gives : gate.Gives identity replies)
    {fresh : Gate τ φ}
    (sameConfiguration : fresh.configuration = gate.configuration)
    (freshGives : fresh.Gives identity replies)
    (request : GateRequest)
    (world : World σ)
    (outside : τ) :
    (run (gate.serve request) world).Alike world.sessionsOpened
      (World.Related world.sessionsOpened fun _ _ => True)
      (fresh.servingAlone request outside) := by
  have agree : Agree world.sessionsOpened (fun _ _ => True) gate fresh :=
    ⟨sameConfiguration.symm, gives.database.agree freshGives.database,
      gives.authority.agree freshGives.authority _⟩
  have areRelated :
      World.Related world.sessionsOpened (fun _ _ => True) world (.ofOutside outside) :=
    ⟨trivial, (Nat.zero_add _).symm⟩
  exact alike_serve agree request world (.ofOutside outside) areRelated

/-- The step of a run at an index serves the request there. -/
theorem getElem?_answer_serveEach
    (gate : Gate σ ε)
    {requests : List GateRequest}
    (world : World σ)
    {index : Nat}
    {request : GateRequest}
    (asked : requests[index]? = some request) :
    (run (gate.serveEach requests) world).answer[index]? =
      some
        (let report :=
          run (gate.serve request) (run (gate.serveEach (requests.take index)) world).world
        (report.answer, report.effects)) := by
  unfold serveEach
  rw [getElem?_answer_transcript, List.getElem?_map, asked, ← List.map_take]
  rfl

theorem length_answer_serveEach
    (gate : Gate σ ε)
    (requests : List GateRequest)
    (world : World σ) :
    (run (gate.serveEach requests) world).answer.length = requests.length := by
  unfold serveEach
  induction requests generalizing world with
  | nil =>
      rfl
  | cons request rest inductionHypothesis =>
      simp [transcript, inductionHypothesis]

/--
What it means that a gate remembers nothing. Each step of a run answers and does
what a fresh gate with the same answers does when it is asked nothing else, with
its sessions behind those opened earlier; so the answers of a run are those of
its requests, one by one. And the calls of a Linux-PAM host, which has a fresh
gate for each of them, get the answers and the deeds of one gate that serves all.
-/
structure Forgetful
    (gate : Gate σ ε)
    (identity : IdentityAnswers)
    (replies : AuthorityAnswers) : Prop where
  step :
    ∀ {τ φ : Type} (fresh : Gate τ φ) (outside : τ),
      fresh.configuration = gate.configuration →
      fresh.Gives identity replies →
      ∀ requests world index request,
        requests[index]? = some request →
        ∃ step,
          (run (gate.serveEach requests) world).answer[index]? = some step ∧
            step.1 = (fresh.servingAlone request outside).answer ∧
            History.deeds step.2 =
              (History.deeds (fresh.servingAlone request outside).effects).behind
                (gate.sessionsBefore requests world index)
  answers :
    ∀ {τ φ : Type} (fresh : Gate τ φ) (outside : τ),
      fresh.configuration = gate.configuration →
      fresh.Gives identity replies →
      ∀ requests world,
        (run (gate.serveEach requests) world).answer.map Prod.fst =
          requests.map fun request => (fresh.servingAlone request outside).answer
  calls :
    ∀ {τ : Type} (host : PamHost τ) (clock : Clock),
      host.gate.configuration = gate.configuration →
      host.gate.Gives identity replies →
      ∀ phases worlds world index phase,
        phases[index]? = some phase →
        ∃ step call,
          (run (gate.serveEach (host.requests clock phases worlds)) world).answer[index]? =
              some step ∧
            (run (host.answerEach clock phases) worlds).answer[index]? = some call ∧
            step.1 = .outcome call.1 ∧
            History.deeds step.2 =
              (History.deeds
                (host.deciding phase
                  (host.worldBefore clock phases worlds index).1).effects).behind
                (gate.sessionsBefore (host.requests clock phases worlds) world index)

/-- The step of a run at an index is the one that a fresh gate makes. -/
theorem exists_step_alone
    {gate : Gate σ ε}
    (gives : gate.Gives identity replies)
    {fresh : Gate τ φ}
    (outside : τ)
    (sameConfiguration : fresh.configuration = gate.configuration)
    (freshGives : fresh.Gives identity replies)
    {requests : List GateRequest}
    (world : World σ)
    {index : Nat}
    {request : GateRequest}
    (asked : requests[index]? = some request) :
    ∃ step,
      (run (gate.serveEach requests) world).answer[index]? = some step ∧
        step.1 = (fresh.servingAlone request outside).answer ∧
        History.deeds step.2 =
          (History.deeds (fresh.servingAlone request outside).effects).behind
            (gate.sessionsBefore requests world index) := by
  have alike :=
    alike_servingAlone gives sameConfiguration freshGives request
      (run (gate.serveEach (requests.take index)) world).world outside
  exact ⟨_, gate.getElem?_answer_serveEach world asked, alike.answer, alike.deeds⟩

/-- A gate whose database and authority always answer the same remembers nothing. -/
theorem forgetful_of_gives
    (gate : Gate σ ε)
    (gives : gate.Gives identity replies) :
    gate.Forgetful identity replies := by
  constructor
  case step =>
    intro τ φ fresh outside sameConfiguration freshGives requests world index request asked
    exact exists_step_alone gives outside sameConfiguration freshGives world asked
  case answers =>
    intro τ φ fresh outside sameConfiguration freshGives requests world
    apply List.ext_getElem?
    intro index
    rw [List.getElem?_map, List.getElem?_map]
    cases asked : requests[index]? with
    | none =>
        have noStep : (run (gate.serveEach requests) world).answer[index]? = none := by
          rw [List.getElem?_eq_none_iff, length_answer_serveEach]
          exact List.getElem?_eq_none_iff.mp asked
        rw [noStep]
        rfl
    | some request =>
        obtain ⟨step, isStep, sameAnswer, _⟩ :=
          exists_step_alone gives outside sameConfiguration freshGives world asked
        rw [isStep]
        exact congrArg some sameAnswer
  case calls =>
    intro τ host clock sameConfiguration hostGives phases worlds world index phase isPhase
    -- A call is a step alone, over the gate and in the world that the host has for it.
    have asked :
        (host.requests clock phases worlds)[index]? =
          some (.checkpointBytes phase
            (host.pam.userBytes?
              (host.userAnswer (host.worldBefore clock phases worlds index).1))) := by
      rw [PamHost.requests, List.getElem?_mapIdx, isPhase]
      rfl
    obtain ⟨step, isStep, sameAnswer, sameDeeds⟩ :=
      exists_step_alone gives
        (host.worldBehindUser (host.worldBefore clock phases worlds index).1)
        sameConfiguration hostGives world asked
    have called :
        (run (host.answerEach clock phases) worlds).answer[index]? =
          some
            (let report :=
              run (host.answerCheckpoint clock phase)
                (host.worldBefore clock phases worlds index)
            (report.answer, report.effects)) := by
      unfold PamHost.worldBefore PamHost.answerEach
      rw [getElem?_answer_transcript, List.getElem?_map, isPhase, ← List.map_take]
      rfl
    refine ⟨step, _, isStep, called, ?_, ?_⟩
    · rw [sameAnswer, servingAlone, serve, run_map]
      rfl
    · rw [sameDeeds, servingAlone, serve, run_map]
      rfl

/--
A consent at one checkpoint and a notice at the end of a session leave nothing
that would help the account that comes next.
-/
theorem forgetful_third_step :
    let identity : AccountTable :=
      ⟨fun _ => .ok none, fun _ primary => [primary], fun _ => .ok none⟩
    let replies : AuthorityAnswers :=
      ⟨fun _ => .ok (), fun _ _ account => .ok (.boolean (account == "alice")),
        fun _ _ _ => .ok ()⟩
    let gate : Gate Unit Empty :=
      ⟨{}, identity.database, replies.authority⟩
    gate.Gives identity.answers replies ∧
      (run (gate.serveEach
          [.checkpoint .openSession (some "alice"), .sessionEnd (some "alice"),
            .checkpoint .openSession (some "root")]) (.ofOutside ())).answer.map Prod.fst =
        [.outcome .allow, .outcome .allow, .outcome .deny] := by
  intro identity replies gate
  have gives : gate.Gives identity.answers replies :=
    ⟨identity.gives, replies.gives⟩
  refine ⟨gives, ?_⟩
  rw [(forgetful_of_gives gate gives).answers gate () rfl gives]
  rfl

end Gate

end LoginGate
