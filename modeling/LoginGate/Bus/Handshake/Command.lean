import LoginGate.Text.Hex
import LoginGate.Text.Words

namespace LoginGate

/-!
# Commands of the handshake

Before any message goes over a connection, client and server exchange lines.
The first word of a line is a command, and the words behind it are what the
command is about; words that a command does not ask for are skipped.
-/

/-- How a client may prove who it is. -/
inductive AuthMechanism where
  /-- By the credentials of the socket. -/
  | external
  /-- By a secret that both sides keep. -/
  | cookie
  /-- Not at all. -/
  | anonymous
  deriving Repr, DecidableEq

namespace AuthMechanism

/-- The word for a mechanism. -/
def name : AuthMechanism → String
  | .external =>
      "EXTERNAL"
  | .cookie =>
      "DBUS_COOKIE_SHA1"
  | .anonymous =>
      "ANONYMOUS"

/-- The mechanisms, in the order in which a client tries them. -/
def all : List AuthMechanism :=
  [.external, .cookie, .anonymous]

/-- The mechanism that a word stands for. -/
def ofName? (word : String) : Option AuthMechanism :=
  all.find? (·.name = word)

end AuthMechanism

/-- A line of the handshake. -/
inductive HandshakeCommand where
  /-- An attempt to prove who one is. -/
  | attempt (mechanism : Option AuthMechanism) (response : Option (List UInt8))
  | cancel
  /-- The handshake is over and messages follow. -/
  | start
  | data (bytes : Option (List UInt8))
  /-- The whole line of an error. -/
  | error (line : String)
  | negotiateDescriptors
  | agreeDescriptors
  /-- The attempt failed; the server names the mechanisms that it knows. -/
  | rejected (mechanisms : List AuthMechanism)
  /-- The attempt succeeded; the server gives its identifier. -/
  | accepted (identifier : String)
  deriving Repr, DecidableEq

/-- The text of a failed handshake. -/
def handshakeFailure (reason : String) : String :=
  "D-Bus handshake failed: " ++ reason

/-- Why a line is no command. -/
inductive CommandFault where
  /-- The first word of the line is no command. -/
  | unknownCommand (line : String)
  | unknownMechanism (word : String)
  | data (fault : Hex.Fault)
  | noIdentifier
  /-- The server's identifier is out of order. -/
  | identifier
  deriving Repr, DecidableEq

/-- The text of a fault. -/
def CommandFault.message : CommandFault → String
  | .unknownCommand line =>
      handshakeFailure ("Unknown command: " ++ line)
  | .unknownMechanism word =>
      handshakeFailure ("Unknown mechanism: " ++ word)
  | .data fault =>
      handshakeFailure ("Invalid hexcode: " ++ fault.message)
  | .noIdentifier =>
      handshakeFailure "Missing OK server GUID!"
  | .identifier =>
      "Invalid GUID"

/-- Whether a word is an identifier of a server: 32 hexadecimal digits. -/
def isServerIdentifier (word : String) : Bool :=
  let bytes := word.toUTF8.toList
  bytes.length = 32 && bytes.all fun byte => (Hex.digitValue? byte).isSome

namespace HandshakeCommand

/-- The parts of a command's text, between which one space stands. -/
def parts : HandshakeCommand → List String
  | .attempt none _ =>
      ["AUTH"]
  | .attempt (some mechanism) response =>
      ["AUTH", mechanism.name] ++ (response.map Hex.text).toList
  | .cancel =>
      ["CANCEL"]
  | .start =>
      ["BEGIN"]
  | .data bytes =>
      ["DATA"] ++ (bytes.map Hex.text).toList
  | .error line =>
      ["ERROR", line]
  | .negotiateDescriptors =>
      ["NEGOTIATE_UNIX_FD"]
  | .agreeDescriptors =>
      ["AGREE_UNIX_FD"]
  | .rejected mechanisms =>
      ["REJECTED", String.intercalate " " (mechanisms.map AuthMechanism.name)]
  | .accepted identifier =>
      ["OK", identifier]

/-- A command as a text. -/
def text (command : HandshakeCommand) : String :=
  String.intercalate " " command.parts

/-- A command as a line with its end. -/
def line (command : HandshakeCommand) : String :=
  command.text ++ "\r\n"

/-- The mechanism that a word of a command names. -/
def readMechanism (word : String) : Except CommandFault AuthMechanism :=
  match AuthMechanism.ofName? word with
  | none =>
      .error (.unknownMechanism word)
  | some mechanism =>
      .ok mechanism

/-- The bytes that a command carries in its next word, if there is one. -/
def readData : List String → Except CommandFault (Option (List UInt8))
  | [] =>
      .ok none
  | word :: _ =>
      ((Hex.decode word.toUTF8.toList).mapError .data).map some

/-- The command that a line, with its end, stands for. -/
def read (line : String) : Except CommandFault HandshakeCommand :=
  match Words.ofLine line with
  | ["AUTH"] =>
      .ok (.attempt none none)
  | "AUTH" :: word :: others => do
      let mechanism ← readMechanism word
      let response ← readData others
      return .attempt (some mechanism) response
  | "CANCEL" :: _ =>
      .ok .cancel
  | "BEGIN" :: _ =>
      .ok .start
  | "DATA" :: others =>
      (readData others).map .data
  | "ERROR" :: _ =>
      .ok (.error line)
  | "NEGOTIATE_UNIX_FD" :: _ =>
      .ok .negotiateDescriptors
  | "AGREE_UNIX_FD" :: _ =>
      .ok .agreeDescriptors
  | "REJECTED" :: others =>
      (others.mapM readMechanism).map .rejected
  | ["OK"] =>
      .error .noIdentifier
  | "OK" :: word :: _ =>
      if isServerIdentifier word then .ok (.accepted word) else .error .identifier
  | _ =>
      .error (.unknownCommand line)

end HandshakeCommand

end LoginGate
