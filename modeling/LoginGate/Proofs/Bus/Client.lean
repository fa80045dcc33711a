import LoginGate.Bus.Client
import LoginGate.Proofs.Bus.Consent

namespace LoginGate

/-!
# The client reports what the bus answers

What the bus sends for a message tells what becomes of it, and the client reports
that as the gate relies on. So a consent is there for all to see in what the bus
sends: a body that is one truth value, and bytes that spell a true one.
-/

open Interaction

/-- The names of the compiled-in endpoint are in order, so only U+0000 spoils a question. -/
theorem BusMessage.fault?_loginQuestion (account : String) :
    (BusMessage.loginQuestion account).fault? =
      if '\x00' ∈ account.toList then some .argument else none := by
  have path : objectPathFault? objectPath = none := by
    cbv
  have peer : peerNameFault? serviceName = none := by
    cbv
  have interface : interfaceNameFault? interfaceName = none := by
    cbv
  simp only [loginQuestion, fault?, ofCall, path, peer, interface]
  rfl

/-- What becomes of a message for which this comes back. -/
def BusAnswer.outcome : BusAnswer → CallOutcome
  | .closed =>
      .broken
  | .errorReply name _ =>
      .errorReply name
  | .methodReturn body =>
      if (signatureFault? body.signature).isSome then
        .broken
      else
        .methodReturn body.methodReturn

/-- A body is handed over of a method return, and of nothing else. -/
theorem BusAnswer.body_eq_ok_iff (answer : BusAnswer) (content : MessageBody) :
    answer.body = .ok content ↔
      answer = .methodReturn content ∧ signatureFault? content.signature = none := by
  cases answer with
  | closed =>
      simp [body, incoming, bind, Except.bind]
  | errorReply name detail =>
      simp only [body, incoming]
      split
      · simp [bind, Except.bind]
      · split <;> simp [IncomingMessage.answer, bind, Except.bind]
  | methodReturn given =>
      simp only [body, incoming]
      split
      · rename_i fault isFault
        simp only [bind, Except.bind, reduceCtorEq, false_iff, not_and, methodReturn.injEq]
        rintro rfl
        simp [isFault]
      · rename_i inOrder
        simp only [IncomingMessage.answer, bind, Except.bind, Except.ok.injEq,
          methodReturn.injEq]
        constructor
        · rintro rfl
          exact ⟨rfl, inOrder⟩
        · exact And.left

/-- So a message that gets an answer becomes a method return exactly when it has a body. -/
theorem BusAnswer.outcome_eq_methodReturn_iff (answer : BusAnswer) (returned : MethodReturn) :
    answer.outcome = .methodReturn returned ↔
      ∃ content, answer.body = .ok content ∧ content.methodReturn = returned := by
  simp only [body_eq_ok_iff]
  cases answer with
  | closed =>
      simp [outcome]
  | errorReply name detail =>
      simp [outcome]
  | methodReturn given =>
      simp only [outcome, methodReturn.injEq]
      constructor
      · intro became
        split at became
        · cases became
        · rename_i noFault
          exact ⟨given, ⟨rfl, by simpa using noFault⟩, CallOutcome.methodReturn.inj became⟩
      · rintro ⟨content, ⟨rfl, inOrder⟩, rfl⟩
        simp [inOrder]

namespace BusServer

variable {σ : Type} (server : BusServer σ)

/-- What becomes of a message on a connection to a bus. -/
def outcome (connection : Nat) (message : BusMessage) (world : σ) : CallOutcome :=
  match message.fault? with
  | some _ =>
      .unsent
  | none =>
      match (server.exchange connection message world).1 with
      | none =>
          .broken
      | some answer =>
          answer.outcome

/-- A message that is in order gets what the other end sends for it. -/
theorem outcome_eq_methodReturn_iff
    {message : BusMessage}
    (inOrder : message.fault? = none)
    (connection : Nat)
    (world : σ)
    (returned : MethodReturn) :
    server.outcome connection message world = .methodReturn returned ↔
      ∃ answer,
        (server.exchange connection message world).1 = some answer ∧
          answer.outcome = .methodReturn returned := by
  simp only [outcome, inOrder]
  cases (server.exchange connection message world).1 <;> simp

/-- A call succeeds exactly with the method return that a message becomes. -/
theorem answer_call_eq_ok_iff
    (connection : Nat)
    (message : BusMessage)
    (world : σ)
    (returned : MethodReturn) :
    (run (server.library.call connection message) world).answer = .ok returned ↔
      server.outcome connection message world = .methodReturn returned := by
  cases inOrder : message.fault? with
  | some fault =>
      simp [library, callMethod, outcome, inOrder, Except.mapError]
  | none =>
      rw [server.outcome_eq_methodReturn_iff inOrder]
      simp only [library, callMethod, inOrder, run_bind, run_ask, run_pure]
      cases (server.exchange connection message world).1 with
      | none =>
          simp [Except.mapError]
      | some answer =>
          simp only [Option.some.injEq, exists_eq_left', answer.outcome_eq_methodReturn_iff,
            run_bind, run_pure]
          cases answer.body <;> simp [Except.map, Except.mapError]

/-- The client reports truly what becomes of messages. -/
theorem reports : server.library.Reports server.outcome := by
  have fails
      {connection : Nat} {message : BusMessage} {world : σ}
      (noReturn :
        ∀ returned, server.outcome connection message world ≠ .methodReturn returned) :
      ∃ reason, (run (server.library.call connection message) world).answer = .error reason := by
    cases given : (run (server.library.call connection message) world).answer with
    | error reason =>
        exact ⟨reason, rfl⟩
    | ok returned =>
        exact absurd ((server.answer_call_eq_ok_iff ..).mp given) (noReturn returned)
  constructor
  case methodReturn =>
    intro connection message world returned became
    exact (server.answer_call_eq_ok_iff ..).mpr became
  case errorReply =>
    intro connection message world name became
    exact fails (by simp [became])
  case broken =>
    intro connection message world became
    exact fails (by simp [became])
  case unsent =>
    intro connection message world became
    exact fails (by simp [became])

end BusServer

/-- A body that is exactly one truth value, and says yes. -/
structure MessageBody.SaysYes (body : MessageBody) : Prop where
  signature : body.signature = "b"
  value : body.readBoolean? = some true

theorem MessageBody.saysYes_methodReturn_iff (body : MessageBody) :
    body.methodReturn.SaysYes ↔ body.SaysYes := by
  constructor
  · rintro ⟨isBoolean, read⟩
    have signature : body.signature = "b" := by
      by_cases isEmpty : body.signature = ""
      · simp [methodReturn, isEmpty] at isBoolean
      · simpa [methodReturn, isEmpty] using isBoolean
    exact ⟨signature, by simpa [methodReturn, signature, booleanSignature] using read⟩
  · rintro ⟨signature, value⟩
    constructor
    case signature =>
      simp [methodReturn, signature]
    case truth =>
      simp [methodReturn, signature, booleanSignature, value]

/-- What comes back becomes a method return that says yes exactly when its bytes say so. -/
theorem BusAnswer.exists_saysYes_iff (answer : BusAnswer) :
    (∃ returned, answer.outcome = .methodReturn returned ∧ returned.SaysYes) ↔
      ∃ body, answer = .methodReturn body ∧ body.SaysYes := by
  simp only [outcome_eq_methodReturn_iff, body_eq_ok_iff]
  constructor
  · rintro ⟨_, ⟨body, ⟨isReturn, _⟩, rfl⟩, yes⟩
    exact ⟨body, isReturn, body.saysYes_methodReturn_iff.mp yes⟩
  · rintro ⟨body, isReturn, yes⟩
    have inOrder : signatureFault? body.signature = none := by
      rw [yes.signature]
      cbv
    exact ⟨_, ⟨body, ⟨isReturn, inOrder⟩, rfl⟩, body.saysYes_methodReturn_iff.mpr yes⟩

/--
Through the client, a bus consents exactly when a connection opens and the question is
answered by a method return whose bytes say yes.
-/
theorem BusServer.consents_library_iff
    {σ : Type}
    (server : BusServer σ)
    {account : String}
    (composable : '\x00' ∉ account.toList)
    (world : σ) :
    server.library.Consents server.outcome account world ↔
      (run (server.openConnection 1) world).answer = .ok () ∧
        ∃ body,
          (server.exchange 1 (.loginQuestion account)
              (run (server.openConnection 1) world).world).1 = some (.methodReturn body) ∧
            body.SaysYes := by
  have inOrder : (BusMessage.loginQuestion account).fault? = none := by
    rw [BusMessage.fault?_loginQuestion, if_neg composable]
  have opens :
      (run (server.library.connect 1) world).answer = .ok () ↔
        (run (server.openConnection 1) world).answer = .ok () := by
    simp only [library, run_bind, run_pure]
    cases (run (server.openConnection 1) world).answer <;> simp [Except.mapError]
  constructor
  · rintro ⟨opened, returned, became, yes⟩
    obtain ⟨answer, came, isReturn⟩ :=
      (server.outcome_eq_methodReturn_iff inOrder 1 _ returned).mp became
    obtain ⟨body, rfl, bodySaysYes⟩ := answer.exists_saysYes_iff.mp ⟨returned, isReturn, yes⟩
    exact ⟨opens.mp opened, body, came, bodySaysYes⟩
  · rintro ⟨opened, body, came, bodySaysYes⟩
    obtain ⟨returned, isReturn, yes⟩ := (BusAnswer.exists_saysYes_iff _).mpr ⟨body, rfl, bodySaysYes⟩
    exact ⟨opens.mpr opened, returned,
      (server.outcome_eq_methodReturn_iff inOrder 1 _ returned).mpr ⟨_, came, isReturn⟩, yes⟩

end LoginGate
