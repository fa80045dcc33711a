import LoginGate.Authority.Error
import LoginGate.Configuration
import LoginGate.Interaction

namespace LoginGate

/-!
# The authority

The authority decides about accounts that do not pass by themselves. It is
reached through sessions, which are numbered in the order in which they are
opened. Nothing is assumed about an authority: it may refuse a session, fail in
the middle of one, and answer differently every time.
-/

/-- The shape of an answer, as far as the gate cares. -/
inductive Reply where
  | noArguments
  /-- Exactly one truth value. -/
  | boolean (value : Bool)
  /-- Anything else, with the type signature of its body. -/
  | other (signature : String)
  deriving Repr, DecidableEq

/-- Only a single truth value is a decision. -/
def Reply.decision : Reply → Except AuthorityError Bool
  | .boolean value =>
      .ok value
  | .noArguments =>
      .error .noArguments
  | .other signature =>
      .error (.unexpectedType signature)

/-- An authority, over a world `σ` and with effects `ε` of its own. -/
structure Authority (σ ε : Type) where
  /-- Open the session that will have the given number. -/
  connect :
    (session : Nat) → Endpoint → Interaction σ ε (Except AuthorityError Unit)
  /-- Call a method with an account as its only argument and wait for the answer. -/
  call :
    (session : Nat) → Endpoint → Method → (account : String) →
      Interaction σ ε (Except AuthorityError Reply)
  /-- Call a method with an account as its only argument and wait for nothing. -/
  send :
    (session : Nat) → Endpoint → Method → (account : String) →
      Interaction σ ε (Except AuthorityError Unit)
  /-- Close a session. -/
  release :
    (session : Nat) → Interaction σ ε Unit

/-- One thing that is done with the authority. -/
inductive AuthorityAction where
  /-- An attempt to open a session, successful or not. -/
  | connect (endpoint : Endpoint)
  | call (session : Nat) (endpoint : Endpoint) (method : Method) (account : String)
  | send (session : Nat) (endpoint : Endpoint) (method : Method) (account : String)
  | release (session : Nat)
  deriving Repr, DecidableEq

namespace Authority

variable {σ τ ε : Type}

/-- An authority that lives in one part of a larger world. -/
def within (part : τ → σ) (replace : σ → τ → τ) (authority : Authority σ ε) :
    Authority τ ε where
  connect session endpoint :=
    (authority.connect session endpoint).within part replace
  call session endpoint method account :=
    (authority.call session endpoint method account).within part replace
  send session endpoint method account :=
    (authority.send session endpoint method account).within part replace
  release session :=
    (authority.release session).within part replace

end Authority

end LoginGate
