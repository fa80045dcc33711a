import LoginGate.Bus.Composition
import LoginGate.Bus.Greeting
import LoginGate.Bus.Handshake.Command
import LoginGate.Bus.Handshake.Cookie
import LoginGate.Bus.Header
import LoginGate.Host.ErrorNumber

namespace LoginGate

/-!
# Faults on the bus
-/

/-- Why a connection or an exchange on the bus failed. -/
inductive BusFault where
  /-- Nobody listens at the bus's socket. -/
  | noListener
  /-- The other end closed the connection instead of answering. -/
  | disconnected
  /-- The other end had closed the connection before. -/
  | brokenPipe
  /-- Every mechanism was turned down. -/
  | mechanismsExhausted
  /-- A line of the handshake ends without a carriage return. -/
  | lineEnd
  | command (fault : CommandFault)
  /-- A command that has no place in the handshake. -/
  | unexpectedCommand (received : HandshakeCommand)
  /-- The server identifies itself by two different words. -/
  | identifierMismatch (expected found : String)
  | cookie (fault : CookieFault)
  /-- The client has no cookies to answer a challenge with. -/
  | noCookies
  /-- What came is no message. -/
  | wire (fault : WireFault)
  /-- A message of this kind came, which answers nothing. -/
  | unexpectedKind (kind : MessageKind)
  /-- The bus answered by an error without a name. -/
  | namelessError
  | greeting (fault : GreetingFault)
  /-- The bus or the authority answered by an error. -/
  | errorReply (name detail : String)
  /-- The message cannot be composed. -/
  | composition (fault : CompositionFault)
  deriving Repr, DecidableEq

namespace BusFault

/-- The text of a failed access to a file or socket. -/
def accessFailure (reason : String) : String :=
  "I/O error: " ++ reason

/-- The text of a fault. -/
def message : BusFault → String
  | .noListener =>
      accessFailure (ErrorNumber.message ErrorNumber.noSuchFile)
  | .disconnected =>
      accessFailure "failed to read from socket"
  | .brokenPipe =>
      accessFailure (ErrorNumber.message ErrorNumber.brokenPipe)
  | .mechanismsExhausted =>
      handshakeFailure "Exhausted available AUTH mechanisms"
  | .lineEnd =>
      handshakeFailure "Invalid line ending in handshake"
  | .command fault =>
      fault.message
  | .unexpectedCommand received =>
      handshakeFailure ("Unexpected command from server: " ++ received.text)
  | .identifierMismatch expected found =>
      handshakeFailure ("Server GUID mismatch: expected " ++ expected ++ ", got " ++ found)
  | .cookie fault =>
      handshakeFailure fault.message
  | .noCookies =>
      accessFailure (ErrorNumber.message ErrorNumber.noSuchFile)
  | .wire fault =>
      fault.message
  | .unexpectedKind kind =>
      handshakeFailure ("Unexpected messgage `" ++ kind.name ++ "`")
  | .namelessError =>
      "Invalid D-Bus method reply"
  | .greeting fault =>
      fault.message
  | .errorReply name detail =>
      name ++ ": " ++ detail
  | .composition fault =>
      fault.message

end BusFault

end LoginGate
