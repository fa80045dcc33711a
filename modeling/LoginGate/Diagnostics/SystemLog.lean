import LoginGate.Diagnostics.Event

namespace LoginGate

/-!
# Lines for the system log

Notices and errors go to the system log's facility for private authorization
messages. A line is a text that the log takes up to its first U+0000, so a line
that holds one is not sent at all.
-/

/-- The facility `LOG_AUTHPRIV`, as it enters a priority. -/
def privateAuthorization : Nat :=
  80

/-- The priority at which events of a severity are logged; debug events are not. -/
def Severity.logPriority? : Severity → Option Nat
  | .debug =>
      none
  | .notice =>
      some (privateAuthorization + 5)
  | .error =>
      some (privateAuthorization + 3)

/-- The line of an event: identifier, checkpoint in parentheses, escaped message. -/
def Event.logLine (event : Event) (identifier : String) : String :=
  match event.phase with
  | some phase =>
      identifier ++ "(" ++ phase.label ++ "): " ++ Control.escape event.message
  | none =>
      identifier ++ ": " ++ Control.escape event.message

/-- One call of the system log. -/
structure LogCall where
  priority : Nat
  line : String
  deriving Repr, DecidableEq

/-- The call that logs an event, if it is logged. -/
def Event.logCall? (event : Event) (identifier : String) : Option LogCall :=
  match event.severity.logPriority? with
  | none =>
      none
  | some priority =>
      let line := event.logLine identifier
      if '\x00' ∈ line.toList then none else some ⟨priority, line⟩

end LoginGate
