import LoginGate.Bus.Library
import LoginGate.Gate
import LoginGate.Host.PamLibrary
import LoginGate.Host.SystemDatabase

namespace LoginGate

/-!
# The Linux-PAM module

Linux-PAM calls the module at each checkpoint. The module asks for the user's
name, lets a gate of its own decide, and answers with a status. The gate rests
on the host's name service and on the system bus, has the compiled-in
configuration, and is forgotten afterwards. The module reads none of its arguments.
-/

/-- The calls that a Linux-PAM module may get. -/
inductive PamCall where
  | checkpoint (phase : Phase)
  /-- The change of a password, which the module does not offer. -/
  | changePassword
  deriving Repr, DecidableEq

/-- A host, over a world `σ`, and the libraries through which the module sees it. -/
structure PamHost (σ : Type) where
  user : σ → UserAnswer × σ
  names : NameLibrary σ
  bus : BusLibrary σ
  pam : PamLibrary

/-- One effect of a gate as the host sees it, with events recorded through a sink. -/
def Effect.shown (clock : Clock) (sink : Sink) :
    Effect HostEffect → Interaction TraceFile HostEffect Unit
  | .host done =>
      .perform done
  | .event recorded =>
      (sink.record clock recorded).retell fun delivery => [.delivery delivery]
  | .note made =>
      .perform (.delivery (.traced made.traceRecord))
  | .identity _ =>
      return ()
  | .authority _ =>
      return ()

namespace PamHost

variable {σ : Type}

/-- The gate that a host has, with the compiled-in configuration. -/
def gate (host : PamHost σ) : Gate σ HostEffect where
  configuration := {}
  database := host.names.database
  authority := host.bus.authority

/-- Ask the host for the user's name. -/
def queryUser (host : PamHost σ) : Interaction σ HostEffect UserAnswer := do
  let answer ← .ask host.user
  .perform (.userQuery answer.name answer.status)
  return answer

/-- Let a fresh gate answer at a checkpoint, with its events in the standard sinks. -/
def answerCheckpoint (clock : Clock) (host : PamHost σ) (phase : Phase) :
    Interaction (σ × TraceFile) HostEffect Outcome := do
  let answer ← host.queryUser.onFirst
  (host.gate.answerBytes phase (host.pam.userBytes? answer)).withFreshSessions.interpret
    (Effect.shown clock Sink.standard)

/-- Answer a call of the host. -/
def answer
    (clock : Clock)
    (host : PamHost σ)
    (call : PamCall)
    (argumentCount : Int)
    (arguments : List (List UInt8)) :
    Interaction (σ × TraceFile) HostEffect Int := do
  match call with
  | .changePassword =>
      return host.pam.missingCall
  | .checkpoint phase =>
      match host.pam.arguments argumentCount arguments with
      | .error status =>
          return status
      | .ok _ =>
          let outcome ← host.answerCheckpoint clock phase
          return outcome.pamStatus

end PamHost

end LoginGate
