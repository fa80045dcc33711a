import LoginGate.Gate

namespace LoginGate

/-!
# A gate in service

One gate may be asked any number of questions, in any order and of any kind.
-/

/-- A question to a gate. -/
inductive GateRequest where
  /-- The host asks at a checkpoint. -/
  | checkpoint (phase : Phase) (account : Option String)
  /-- The host asks at a checkpoint and hands over bytes. -/
  | checkpointBytes (phase : Phase) (bytes : Option (List UInt8))
  | decideWithExemptions (phase : Phase) (account : Option String)
  | decideStrictly (phase : Phase) (account : Option String)
  | sessionEnd (account : Option String)
  deriving Repr, DecidableEq

/-- What a gate answers. -/
inductive GateAnswer where
  | outcome (outcome : Outcome)
  | decision (decision : Decision)
  deriving Repr, DecidableEq

namespace Gate

variable {σ ε : Type}

/-- Answer one question. -/
def serve (gate : Gate σ ε) (request : GateRequest) : GateRun σ ε GateAnswer :=
  match request with
  | .checkpoint phase account =>
      .outcome <$> gate.answer phase account
  | .checkpointBytes phase bytes =>
      .outcome <$> gate.answerBytes phase bytes
  | .decideWithExemptions phase account =>
      .decision <$> gate.decideWithExemptions phase account
  | .decideStrictly phase account =>
      .decision <$> gate.decideStrictly phase account
  | .sessionEnd account =>
      .outcome <$> gate.announceSessionEnd account

/-- Answer questions one after the other, each with what was done for it. -/
def serveEach (gate : Gate σ ε) (requests : List GateRequest) :
    GateRun σ ε (List (GateAnswer × History ε)) :=
  .transcript (requests.map gate.serve)

end Gate

end LoginGate
