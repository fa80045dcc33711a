import LoginGate.Bus.Handshake.Command
import LoginGate.Bus.Server
import LoginGate.Simulation.Queue

namespace LoginGate

/-!
# A simulated bus

A bus with prepared answers. The answers to clients that prove who they are
start anew with every connection; the answers to calls are shared by all
connections.
-/

/-- A simulated bus. -/
structure SimulatedBus where
  listening : Bool
  /-- The answers to a client that proves who it is, as every connection starts with them. -/
  handshake : Queue HandshakeAnswer
  /-- What is left of those answers for the connection that is being opened. -/
  pendingHandshake : Queue HandshakeAnswer
  /-- Whether descriptors may be passed. -/
  descriptors : Bool
  greeting : BusAnswer
  replies : Queue BusAnswer
  /-- The connections that the bus has closed. -/
  closed : List Nat

/-- An answer that accepts a client. -/
def HandshakeAnswer.acceptance : HandshakeAnswer :=
  .lines (HandshakeCommand.accepted "0123456789abcdef0123456789abcdef").line

/-- An answer without arguments. -/
def BusAnswer.emptyReturn : BusAnswer :=
  .methodReturn ⟨"", [], .littleEndian⟩

/-- An answer to a greeting that gives the client a name. -/
def BusAnswer.welcome : BusAnswer :=
  .methodReturn ((⟨"s", [], .littleEndian⟩ : MessageBody).appendText ":1.1")

namespace SimulatedBus

/-- Begin a connection. -/
def accept (connection : Nat) (bus : SimulatedBus) : Bool × SimulatedBus :=
  (bus.listening,
    { bus with
      pendingHandshake := bus.handshake
      closed := bus.closed.filter (· ≠ connection) })

/-- Answer a greeting. -/
def hello (connection : Nat) (bus : SimulatedBus) : BusAnswer × SimulatedBus :=
  match bus.greeting with
  | .closed =>
      (.closed, { bus with closed := connection :: bus.closed })
  | answer =>
      (answer, bus)

/-- Answer a call on a connection that is open. -/
def exchange (connection : Nat) (bus : SimulatedBus) : Option BusAnswer × SimulatedBus :=
  if connection ∈ bus.closed then
    (none, bus)
  else
    let (answer, replies) := bus.replies.nextOr .emptyReturn
    match answer with
    | .closed =>
        (some answer, { bus with replies := replies, closed := connection :: bus.closed })
    | _ =>
        (some answer, { bus with replies := replies })

/-- The bus of prepared answers. -/
def server : BusServer SimulatedBus where
  accept :=
    accept
  authenticate _ :=
    Interaction.askPart pendingHandshake
      (fun changed world => { world with pendingHandshake := changed })
      (Queue.nextOr .acceptance)
  negotiate _ bus :=
    (if bus.descriptors then .lines HandshakeCommand.agreeDescriptors.line
      else .lines (HandshakeCommand.error "descriptors are not passed here").line, bus)
  hello :=
    hello
  exchange connection _ :=
    exchange connection
  deliver connection _ bus :=
    (connection ∉ bus.closed, bus)
  release _ bus :=
    bus

end SimulatedBus

end LoginGate
