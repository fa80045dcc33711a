import LoginGate.Bus.Library
import Mathlib

namespace LoginGate

/-!
# When the bus consents

Between the authority's "yes" and the gate stand a library and the shape of what it
hands over. A library is asked for no more than its documentation says: it hands over
the method return that answers a message, and reports everything else as a failure.
Then only a method return whose body is one truth value that reads as true gets
through.
-/

open Interaction

variable {σ : Type}

/-- The message with which the compiled-in endpoint is asked about an account. -/
def BusMessage.loginQuestion (account : String) : BusMessage :=
  .ofCall {} .checkLogin account false

/-- The body of a method return is exactly one truth value, and says yes. -/
structure MethodReturn.SaysYes (returned : MethodReturn) : Prop where
  signature : returned.signature = some "b"
  truth : returned.truth = some true

theorem MethodReturn.reply_eq_boolean_true_iff (returned : MethodReturn) :
    returned.reply = .boolean true ↔ returned.SaysYes := by
  constructor
  · intro yes
    cases given : returned.signature with
    | none =>
        simp [reply, given] at yes
    | some signature =>
        simp only [reply, given, Option.getD_some] at yes
        split at yes
        · cases yes
        split at yes
        · rename_i isBoolean
          split at yes
          · rename_i value read
            obtain rfl := Reply.boolean.inj yes
            exact ⟨given.trans (congrArg some isBoolean), read⟩
          · cases yes
        · cases yes
  · rintro ⟨isBoolean, read⟩
    simp [reply, isBoolean, booleanSignature, read]

/-- What becomes of a message that wants an answer. -/
inductive CallOutcome where
  /-- The message is not in order, and nothing goes out. -/
  | unsent
  /-- The connection breaks, or what comes back is no message. -/
  | broken
  /-- The answer is an error under this name. -/
  | errorReply (name : String)
  | methodReturn (returned : MethodReturn)
  deriving Repr, DecidableEq

namespace BusLibrary

/--
A library reports truly what becomes of messages: the method return that answers is
handed over, with the signature of its body, and everything else is a failure.
-/
structure Reports
    (library : BusLibrary σ)
    (outcome : (connection : Nat) → BusMessage → σ → CallOutcome) : Prop where
  methodReturn :
    ∀ connection message world returned,
      outcome connection message world = .methodReturn returned →
      (run (library.call connection message) world).answer = .ok returned
  errorReply :
    ∀ connection message world name,
      outcome connection message world = .errorReply name →
      ∃ reason, (run (library.call connection message) world).answer = .error reason
  broken :
    ∀ connection message world,
      outcome connection message world = .broken →
      ∃ reason, (run (library.call connection message) world).answer = .error reason
  unsent :
    ∀ connection message world,
      outcome connection message world = .unsent →
      ∃ reason, (run (library.call connection message) world).answer = .error reason

variable {library : BusLibrary σ}
variable {outcome : (connection : Nat) → BusMessage → σ → CallOutcome}

/-- So a call succeeds exactly with the method return that answers it. -/
theorem Reports.answer_call_eq_ok_iff
    (reports : library.Reports outcome)
    (connection : Nat)
    (message : BusMessage)
    (world : σ)
    (returned : MethodReturn) :
    (run (library.call connection message) world).answer = .ok returned ↔
      outcome connection message world = .methodReturn returned := by
  constructor
  · intro succeeds
    cases became : outcome connection message world with
    | methodReturn actual =>
        have handedOver := reports.methodReturn _ _ _ _ became
        rw [Except.ok.inj (succeeds.symm.trans handedOver)]
    | errorReply name =>
        obtain ⟨reason, fails⟩ := reports.errorReply _ _ _ _ became
        cases succeeds.symm.trans fails
    | broken =>
        obtain ⟨reason, fails⟩ := reports.broken _ _ _ became
        cases succeeds.symm.trans fails
    | unsent =>
        obtain ⟨reason, fails⟩ := reports.unsent _ _ _ became
        cases succeeds.symm.trans fails
  · exact reports.methodReturn _ _ _ _

/--
The connection to the bus opens, and the question about an account is answered by a
method return that says yes.
-/
structure Consents
    (library : BusLibrary σ)
    (outcome : (connection : Nat) → BusMessage → σ → CallOutcome)
    (account : String)
    (world : σ) : Prop where
  opened : (run (library.connect 1) world).answer = .ok ()
  granted :
    ∃ returned,
      outcome 1 (.loginQuestion account) (run (library.connect 1) world).world =
          .methodReturn returned ∧
        returned.SaysYes

theorem answer_connect_eq_ok_iff
    (library : BusLibrary σ)
    (endpoint : Endpoint)
    (world : σ) :
    (run (library.authority.connect 1 endpoint) world).answer = .ok () ↔
      (run (library.connect 1) world).answer = .ok () := by
  simp only [authority, openSession, run_bind]
  cases (run (library.connect 1) world).answer <;> simp

theorem world_connect
    (library : BusLibrary σ)
    (endpoint : Endpoint)
    (world : σ) :
    (run (library.authority.connect 1 endpoint) world).world =
      (run (library.connect 1) world).world := by
  simp only [authority, openSession, run_bind]
  cases (run (library.connect 1) world).answer <;> rfl

/-- The authority says yes exactly when a method return comes that says so. -/
theorem Reports.answer_call_eq_yes_iff
    (reports : library.Reports outcome)
    (account : String)
    (world : σ) :
    (run (library.authority.call 1 {} .checkLogin account) world).answer = .ok (.boolean true) ↔
      ∃ returned,
        outcome 1 (.loginQuestion account) world = .methodReturn returned ∧
          returned.SaysYes := by
  simp only [← reports.answer_call_eq_ok_iff, ← MethodReturn.reply_eq_boolean_true_iff]
  simp only [authority, BusMessage.loginQuestion, run_bind, run_pure]
  cases (run (library.call 1 (.ofCall {} .checkLogin account false)) world).answer <;>
    simp [Except.map, Except.mapError]

end BusLibrary

end LoginGate
