import LoginGate.Bus.Error
import LoginGate.Bus.Server

namespace LoginGate

/-!
# The handshake

A client tries one mechanism after the other until the server accepts one, and
then asks whether descriptors may be passed. A mechanism that is turned down
leads to the next, and descriptors may be refused; whatever else is out of order
ends the handshake.

The server may write more lines than it was asked for. The client takes one line
for each question, in the order in which the lines came, and what it has not
taken in the end stands in front of the messages.
-/

/-- What came on a connection and was not read yet. -/
structure Inbox where
  unread : String := ""
  /-- Whether the other end has closed the connection behind that. -/
  closed : Bool := false
  deriving Repr, DecidableEq

/-- The first line of a text, its line feed included, and what stands behind it. -/
def splitLine (text : String) : String × String :=
  let (front, behind) := text.toList.span (· ≠ '\n')
  (String.ofList (front ++ behind.take 1), String.ofList (behind.drop 1))

/-- The command that a line is; the line must end in a carriage return and a line feed. -/
def readLine (line : String) : Except BusFault HandshakeCommand :=
  if ['\r', '\n'].isSuffixOf line.toList then
    (HandshakeCommand.read line).mapError .command
  else
    .error .lineEnd

namespace Inbox

/-- What has come with one more answer; nothing comes behind the end of a connection. -/
def receive (inbox : Inbox) (answer : HandshakeAnswer) : Inbox :=
  match answer with
  | .closed =>
      { inbox with closed := true }
  | .lines text =>
      if inbox.closed then inbox else { inbox with unread := inbox.unread ++ text }

/-- The command that came first, and what came behind it. -/
def takeCommand (inbox : Inbox) : Except BusFault (HandshakeCommand × Inbox) :=
  if inbox.unread = "" then
    .error .disconnected
  else
    let (line, behind) := splitLine inbox.unread
    (readLine line).map fun command => (command, { inbox with unread := behind })

end Inbox

/-- What a command of the server means for an attempt. -/
inductive Verdict where
  /-- The server accepts the client and identifies itself. -/
  | accepted (identifier : String)
  | refused
  deriving Repr, DecidableEq

/-- What a command of the server means for an attempt by a mechanism. -/
def AuthMechanism.judge (mechanism : AuthMechanism) : HandshakeCommand → Except BusFault Verdict
  | .accepted identifier =>
      .ok (.accepted identifier)
  | .rejected _ =>
      .ok .refused
  | .error _ =>
      .ok .refused
  | .data bytes =>
      if mechanism = .cookie then
        match CookieChallenge.read bytes with
        | .error fault =>
            .error (.cookie fault)
        | .ok _ =>
            .error .noCookies
      else
        .error (.unexpectedCommand (.data bytes))
  | command =>
      .error (.unexpectedCommand command)

/--
What is wrong with the answer to a client that wants to pass descriptors. A
server that has identified itself may do so again by the same word.
-/
def descriptorsFault? (identifier : String) : HandshakeCommand → Option BusFault
  | .agreeDescriptors =>
      none
  | .error _ =>
      none
  | .accepted other =>
      if other = identifier then none else some (.identifierMismatch identifier other)
  | command =>
      some (.unexpectedCommand command)

namespace BusServer

variable {σ : Type}

/-- Ask whether descriptors may be passed, with which the handshake ends. -/
def settleDescriptors (server : BusServer σ) (connection : Nat) (identifier : String)
    (inbox : Inbox) : Interaction σ HostEffect (Except BusFault Inbox) := do
  match (inbox.receive (← .ask (server.negotiate connection))).takeCommand with
  | .error fault =>
      return .error fault
  | .ok (command, behind) =>
      match descriptorsFault? identifier command with
      | some fault =>
          return .error fault
      | none =>
          return .ok behind

/-- Prove who the client is by one of the mechanisms, the first one first. -/
def handshake (server : BusServer σ) (connection : Nat) :
    (mechanisms : List AuthMechanism) → (inbox : Inbox) →
      Interaction σ HostEffect (Except BusFault Inbox)
  | [], _ =>
      return .error .mechanismsExhausted
  | mechanism :: others, inbox => do
      match (inbox.receive (← .ask (server.authenticate connection))).takeCommand with
      | .error fault =>
          return .error fault
      | .ok (command, behind) =>
          match mechanism.judge command with
          | .error fault =>
              return .error fault
          | .ok .refused =>
              server.handshake connection others behind
          | .ok (.accepted identifier) =>
              server.settleDescriptors connection identifier behind

end BusServer

end LoginGate
