import LoginGate.Host.Pam
import LoginGate.Proofs.Bus.Client
import LoginGate.Proofs.Host.PamLibrary
import LoginGate.Simulation.Host

namespace LoginGate

/-!
# The contract of the Linux-PAM module

From the bytes that the host gives for the user to the bus and back to a
status. Whatever the look-ups and the bus answer, a login goes on only for an
account that was named in full, and then only for an exempt one or with a plain yes
from the bus; and an answer that names nobody reaches neither of them. This rests on
what the libraries in between are documented to do, and on nothing else about them.
-/

open Interaction

variable {σ : Type}

/-- Whether an effect reaches the name service or the bus. -/
def HostEffect.reachesOut : HostEffect → Bool
  | .accountLookup _ =>
      true
  | .groupLookup _ =>
      true
  | .groupListLookup .. =>
      true
  | .message _ =>
      true
  | .userQuery .. =>
      false
  | .delivery _ =>
      false

/-- What a sink does is no more than deliveries, so the host sees the outside's own effects. -/
theorem reachesOut_of_mem_tellEach
    {clock : Clock}
    {sink : Sink}
    {history : History HostEffect}
    {file : TraceFile}
    {seen : HostEffect}
    (isSeen : seen ∈ (run (tellEach (Effect.shown clock sink) history) file).effects)
    (reaches : seen.reachesOut = true) :
    Effect.host seen ∈ history := by
  induction history generalizing file with
  | nil =>
      simp [tellEach, Interaction.pure, run] at isSeen
  | cons first rest inductionHypothesis =>
      have split :
          seen ∈ (run (first.shown clock sink) file).effects ∨
            seen ∈ (run (tellEach (Effect.shown clock sink) rest)
              (run (first.shown clock sink) file).world).effects :=
        List.mem_append.mp isSeen
      rcases split with fromFirst | fromRest
      · cases first with
        | host done =>
            obtain rfl : seen = done := by
              simpa [Effect.shown] using fromFirst
            simp
        | event recorded =>
            simp only [Effect.shown, run_retell, List.mem_flatMap, List.mem_singleton] at fromFirst
            obtain ⟨delivery, _, rfl⟩ := fromFirst
            simp [HostEffect.reachesOut] at reaches
        | note made =>
            obtain rfl : seen = .delivery (.traced made.traceRecord) := by
              simpa [Effect.shown] using fromFirst
            simp [HostEffect.reachesOut] at reaches
        | identity call =>
            simp [Effect.shown] at fromFirst
        | authority action =>
            simp [Effect.shown] at fromFirst
      · exact List.mem_cons_of_mem _ (inductionHypothesis fromRest)

theorem Outcome.pamStatus_cases (outcome : Outcome) :
    outcome.pamStatus = pamSuccess ∨ outcome.pamStatus = pamPermissionDenied := by
  cases outcome <;> decide

/-- The status of an outcome tells whether the host goes on. -/
theorem Outcome.pamStatus_eq_pamSuccess_iff (outcome : Outcome) :
    outcome.pamStatus = pamSuccess ↔ outcome.permits = true := by
  cases outcome <;> decide

namespace PamHost

variable (clock : Clock) (host : PamHost σ) (phase : Phase) (worlds : σ × TraceFile)
variable {outcome : (connection : Nat) → BusMessage → σ → CallOutcome}

/-- The answer of the host when it is asked for the user's name. -/
abbrev userAnswer (world : σ) : UserAnswer :=
  (host.user world).1

/-- The world in which the host has named the user. -/
abbrev worldBehindUser (world : σ) : σ :=
  (host.user world).2

/-- The world that the look-ups about an account leave. -/
abbrev worldBehindLookups (account : String) (world : σ) : σ :=
  (run (host.names.database.exemption {} account) world).world

/-- The gate's own run at a checkpoint. -/
def deciding (world : σ) : Report (World σ) (Effect HostEffect) Outcome :=
  run (host.gate.answerBytes phase (host.pam.userBytes? (host.userAnswer world)))
    (.ofOutside (host.worldBehindUser world))

/-- A checkpoint asks for the user and then shows the host what the gate does. -/
theorem run_answerCheckpoint :
    run (host.answerCheckpoint clock phase) worlds =
      let decided := host.deciding phase worlds.1
      let told :=
        run (tellEach (Effect.shown clock Sink.standard) decided.effects) worlds.2
      ⟨decided.answer, (decided.world.outside, told.world),
        .userQuery (host.userAnswer worlds.1).name (host.userAnswer worlds.1).status ::
          told.effects⟩ :=
  rfl

/-- The gate of a host gets the authority's consent exactly when its bus consents. -/
theorem consents_gate_iff
    (reports : host.bus.Reports outcome)
    (account : String)
    (world : σ) :
    host.gate.Consents account (.ofOutside world) ↔
      host.bus.Consents outcome account world := by
  have granted :
      (host.gate.questioning account (.ofOutside world)).answer = .ok (.boolean true) ↔
        ∃ returned,
          outcome 1 (.loginQuestion account) (run (host.bus.connect 1) world).world =
              .methodReturn returned ∧
            returned.SaysYes := by
    rw [← host.bus.world_connect {} world]
    exact reports.answer_call_eq_yes_iff account _
  constructor
  · rintro ⟨opened, saysYes⟩
    exact ⟨(host.bus.answer_connect_eq_ok_iff {} world).mp opened, granted.mp saysYes⟩
  · rintro ⟨opened, saysYes⟩
    exact ⟨(host.bus.answer_connect_eq_ok_iff {} world).mpr opened, granted.mpr saysYes⟩

/-- What a call at a checkpoint leaves behind. -/
def calling
    (argumentCount : Int)
    (arguments : List (List UInt8)) :
    Report (σ × TraceFile) HostEffect Int :=
  run (host.answer clock (.checkpoint phase) argumentCount arguments) worlds

/--
What the host can rely on for a call at a checkpoint: which status it gets and
when, and that a call for nobody is the same with any look-ups and any bus.
-/
structure Contract
    (outcome : (connection : Nat) → BusMessage → σ → CallOutcome)
    (argumentCount : Int)
    (arguments : List (List UInt8)) : Prop where
  status :
    phase.IsCheck →
    (host.calling clock phase worlds argumentCount arguments).answer = pamSuccess ∨
      (host.calling clock phase worlds argumentCount arguments).answer = pamPermissionDenied
  exempting :
    phase = .authenticate ∨ phase = .accountManagement →
    ((host.calling clock phase worlds argumentCount arguments).answer = pamSuccess ↔
      ∃ account,
        (host.userAnswer worlds.1).Names account ∧
          (account = "root" ∨
            (∃ group,
              host.names.database.Belongs ["wheel", "sudo"] account
                (host.worldBehindUser worlds.1) group) ∨
            host.bus.Consents outcome account
              (host.worldBehindLookups account (host.worldBehindUser worlds.1))))
  strict :
    phase = .openSession →
    ((host.calling clock phase worlds argumentCount arguments).answer = pamSuccess ↔
      ∃ account,
        (host.userAnswer worlds.1).Names account ∧
          host.bus.Consents outcome account (host.worldBehindUser worlds.1))
  unchecked :
    phase = .setCredentials ∨ phase = .closeSession →
    (host.calling clock phase worlds argumentCount arguments).answer = pamSuccess
  nobody :
    (host.userAnswer worlds.1).NamesNobody phase →
    (host.calling clock phase worlds argumentCount arguments).world.1 =
        host.worldBehindUser worlds.1 ∧
      (∀ effect ∈ (host.calling clock phase worlds argumentCount arguments).effects,
        effect.reachesOut = false) ∧
      ∀ names bus,
        { host with names := names, bus := bus }.calling clock phase worlds argumentCount
            arguments =
          host.calling clock phase worlds argumentCount arguments

section Deciding

variable {host} {phase} {world : σ}
variable (handsOver : host.pam.HandsOver)
variable (nullFree : ∀ bytes, (host.userAnswer world).name = some bytes → 0 ∉ bytes)

include handsOver nullFree

theorem deciding_of_nobody (nobody : (host.userAnswer world).NamesNobody phase) :
    host.deciding phase world =
      ⟨phase.nobodyOutcome, .ofOutside (host.worldBehindUser world),
        phase.nobodyEvents.map .event⟩ :=
  host.gate.run_answer_of_nobody phase _ (handsOver.presentAccount_eq_none nullFree nobody)

variable (reports : host.bus.Reports outcome)

include reports

theorem permits_deciding_exempting_iff
    (exempting : phase = .authenticate ∨ phase = .accountManagement) :
    (host.deciding phase world).answer.permits = true ↔
      ∃ account,
        (host.userAnswer world).Names account ∧
          (account = "root" ∨
            (∃ group,
              host.names.database.Belongs ["wheel", "sudo"] account
                (host.worldBehindUser world) group) ∨
            host.bus.Consents outcome account
              (host.worldBehindLookups account (host.worldBehindUser world))) := by
  have isCheck : phase.IsCheck :=
    exempting.imp_right .inl
  unfold deciding Gate.answerBytes
  rw [Gate.permits_answer_iff_exempt_or_consent exempting]
  refine exists_congr fun account => ?_
  rw [← and_assoc, ← handsOver.names_iff nullFree isCheck, ← or_assoc]
  exact and_congr_right fun _ => or_congr_right (host.consents_gate_iff reports account _)

theorem permits_deciding_strict_iff :
    (host.deciding .openSession world).answer.permits = true ↔
      ∃ account,
        (host.userAnswer world).Names account ∧
          host.bus.Consents outcome account (host.worldBehindUser world) := by
  have isCheck : Phase.openSession.IsCheck :=
    .inr (.inr rfl)
  unfold deciding Gate.answerBytes
  rw [Gate.permits_answer_iff_consent]
  refine exists_congr fun account => ?_
  rw [← and_assoc, ← handsOver.names_iff nullFree isCheck]
  exact and_congr_right fun _ => host.consents_gate_iff reports account _

end Deciding

/-- A call whose arguments are handed over is a decision that is told to the host as a status. -/
theorem calling_of_arguments
    {argumentCount : Int}
    {arguments : List (List UInt8)}
    {texts : List String}
    (handedOver : host.pam.arguments argumentCount arguments = .ok texts) :
    host.calling clock phase worlds argumentCount arguments =
      let decided := host.deciding phase worlds.1
      let told :=
        run (tellEach (Effect.shown clock Sink.standard) decided.effects) worlds.2
      ⟨decided.answer.pamStatus, (decided.world.outside, told.world),
        .userQuery (host.userAnswer worlds.1).name (host.userAnswer worlds.1).status ::
          told.effects⟩ := by
  simp [calling, answer, handedOver, run_answerCheckpoint]

end PamHost

end LoginGate
