import LoginGate.Authority.Basic
import LoginGate.Host.Effect

namespace LoginGate

/-!
# The authority behind the system bus

The gate reaches the system bus through a library, which opens connections, sends
messages and waits for answers. A session is a connection of its own. Nothing is
assumed about a library here: it may fail at any point and hand over anything.
-/

/-- A method return that a library hands over, as far as the gate looks at it. -/
structure MethodReturn where
  /-- The type signature of the body, if the message gives one. -/
  signature : Option String
  /-- What comes out when the body is read as one truth value. -/
  truth : Option Bool
  deriving Repr, DecidableEq

/-- The signature of a body that is one truth value. -/
def booleanSignature : String :=
  "b"

/-- The shape of a method return: its signature comes first, and then its truth value. -/
def MethodReturn.reply (returned : MethodReturn) : Reply :=
  let signature := returned.signature.getD ""
  if signature = "" then
    .noArguments
  else if signature = booleanSignature then
    match returned.truth with
    | some value =>
        .boolean value
    | none =>
        .other signature
  else
    .other signature

/--
A library for the system bus, over a world `σ`. Connections are told apart by their
numbers, and what fails gives a reason.
-/
structure BusLibrary (σ : Type) where
  /-- Open the connection that will have the given number. -/
  connect :
    (connection : Nat) → Interaction σ HostEffect (Except String Unit)
  /-- Send a message and wait for the method return that answers it. -/
  call :
    (connection : Nat) → BusMessage → Interaction σ HostEffect (Except String MethodReturn)
  /-- Send a message and wait for nothing. -/
  send :
    (connection : Nat) → BusMessage → Interaction σ HostEffect (Except String Unit)
  /-- Close a connection. -/
  close :
    (connection : Nat) → Interaction σ HostEffect Unit

namespace BusLibrary

variable {σ : Type}

/-- Open a session; that it is open is noted in the structured trace. -/
def openSession (library : BusLibrary σ) (session : Nat) :
    Interaction σ HostEffect (Except AuthorityError Unit) := do
  match ← library.connect session with
  | .error reason =>
      return .error (.connect reason)
  | .ok _ =>
      .perform (.delivery (.traced Note.busConnected.traceRecord))
      return .ok ()

/-- The authority that is reached through a library. -/
def authority (library : BusLibrary σ) : Authority σ HostEffect where
  connect session _ :=
    library.openSession session
  call session endpoint method account := do
    let returned ← library.call session (.ofCall endpoint method account false)
    return (returned.map MethodReturn.reply).mapError .call
  send session endpoint method account := do
    let sent ← library.send session (.ofCall endpoint method account true)
    return sent.mapError .send
  release session :=
    library.close session

end BusLibrary

end LoginGate
