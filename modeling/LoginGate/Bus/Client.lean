import LoginGate.Bus.Handshake
import LoginGate.Bus.Incoming

namespace LoginGate

/-!
# A library for the system bus

To open a connection, the client proves who it is and greets the bus, which gives
it a name. A message is checked before it goes out; one that is not in order leaves
the connection as it is.
-/

/-- The body of a message that answers, or the fault that any other message is. -/
def IncomingMessage.answer (message : IncomingMessage) : Except BusFault MessageBody :=
  match message.kind, message.errorName with
  | .methodReturn, _ =>
      .ok message.body
  | .error, some name =>
      .error (.errorReply name message.body.detail)
  | .error, none =>
      .error .namelessError
  | kind, _ =>
      .error (.unexpectedKind kind)

namespace BusAnswer

/-- The message that an answer is, if the texts in its header are in order. -/
def incoming : BusAnswer → Except BusFault IncomingMessage
  | .closed =>
      .error .disconnected
  | .methodReturn body =>
      match signatureFault? body.signature with
      | some fault =>
          .error (.wire fault)
      | none =>
          .ok ⟨.methodReturn, none, body⟩
  | .errorReply name body =>
      if '\x00' ∈ name.toList then
        .error (.wire .interiorNull)
      else
        match signatureFault? body.signature with
        | some fault =>
            .error (.wire fault)
        | none =>
            .ok ⟨.error, some name, body⟩

/-- The body of a method return, or the fault that another answer is. -/
def body (answer : BusAnswer) : Except BusFault MessageBody := do
  (← answer.incoming).answer

end BusAnswer

/--
The first message on a connection, where bytes that came before stand in front
of an answer. They are looked at when a header has come as a whole, so fewer
bytes are of no use if no answer follows. A message that takes in more than the
bytes in front is not waited for.
-/
def firstMessage (front : List UInt8) (answer : BusAnswer) : Except BusFault IncomingMessage :=
  if front = [] then
    answer.incoming
  else if front.length < headerLength ∧ answer = .closed then
    .error .disconnected
  else
    match Reading.header.runOn .littleEndian front with
    | .error (.tooShort ..) =>
        .error .disconnected
    | .error fault =>
        .error (.wire fault)
    | .ok header =>
        if front.length < header.messageLength then
          .error .disconnected
        else
          (Reading.incomingMessage.runOn .littleEndian (front.take header.messageLength)).mapError
            .wire

/-- The name that the first message behind a handshake gives to the client. -/
def Inbox.givenName (inbox : Inbox) (answer : BusAnswer) : Except BusFault String := do
  let message ← firstMessage inbox.unread.toUTF8.toList (if inbox.closed then .closed else answer)
  let body ← message.answer
  body.givenName.mapError .greeting

namespace BusServer

variable {σ : Type}

/-- Open a connection: find the bus, prove who the client is, greet. -/
def openConnection (server : BusServer σ) (connection : Nat) :
    Interaction σ HostEffect (Except BusFault Unit) := do
  if ← .ask (server.accept connection) then
    match ← server.handshake connection AuthMechanism.all {} with
    | .error fault =>
        return .error fault
    | .ok inbox =>
        match inbox.givenName (← .ask (server.hello connection)) with
        | .error fault =>
            return .error fault
        | .ok _ =>
            return .ok ()
  else
    return .error .noListener

/-- Send a message and wait for the answer to it. -/
def callMethod (server : BusServer σ) (connection : Nat) (message : BusMessage) :
    Interaction σ HostEffect (Except BusFault MethodReturn) := do
  match message.fault? with
  | some fault =>
      return .error (.composition fault)
  | none =>
      match ← .ask (server.exchange connection message) with
      | none =>
          return .error .brokenPipe
      | some answer =>
          .perform (.message message)
          return answer.body.map MessageBody.methodReturn

/-- Send a message and wait for nothing. -/
def sendMessage (server : BusServer σ) (connection : Nat) (message : BusMessage) :
    Interaction σ HostEffect (Except BusFault Unit) := do
  match message.fault? with
  | some fault =>
      return .error (.composition fault)
  | none =>
      if ← .ask (server.deliver connection message) then
        .perform (.message message)
        return .ok ()
      else
        return .error .brokenPipe

/-- The library that speaks to a bus in this way. -/
def library (server : BusServer σ) : BusLibrary σ where
  connect connection := do
    let opened ← server.openConnection connection
    return opened.mapError BusFault.message
  call connection message := do
    let returned ← server.callMethod connection message
    return returned.mapError BusFault.message
  send connection message := do
    let sent ← server.sendMessage connection message
    return sent.mapError BusFault.message
  close connection :=
    .change (server.release connection)

end BusServer

end LoginGate
