import LoginGate.Phase
import LoginGate.Text.Control

namespace LoginGate

/-!
# Diagnostic events

What the gate says about its work is a sequence of events. An event's message
may hold anything, an account name for one; its written forms hold no control
character of the message, so each of them is one line.
-/

/-- How much an event matters, in rising order. -/
inductive Severity where
  | debug
  | notice
  | error
  deriving Repr, DecidableEq, Ord

/-- The word that names a severity. -/
def Severity.label : Severity → String
  | .debug =>
      "debug"
  | .notice =>
      "notice"
  | .error =>
      "error"

/-- One thing that the gate says. -/
structure Event where
  severity : Severity
  phase : Option Phase
  message : String
  deriving Repr, DecidableEq

namespace Event

/-- An event for the trace only. -/
def debug (phase : Phase) (message : String) : Event :=
  ⟨.debug, some phase, message⟩

/-- An event that an administrator should see. -/
def notice (phase : Phase) (message : String) : Event :=
  ⟨.notice, some phase, message⟩

/-- An event that tells of a failure. -/
def error (phase : Phase) (message : String) : Event :=
  ⟨.error, some phase, message⟩

/-- The one-line form of an event: its checkpoint in brackets, then its escaped message. -/
def display (event : Event) : String :=
  match event.phase with
  | some phase =>
      "[" ++ phase.label ++ "] " ++ Control.escape event.message
  | none =>
      Control.escape event.message

end Event

end LoginGate
