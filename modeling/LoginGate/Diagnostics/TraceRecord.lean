import LoginGate.Diagnostics.Event
import LoginGate.Identity.Error

namespace LoginGate

/-!
# Structured trace records

Programs that host the gate may subscribe to its trace. A record has a level, a
message and named fields. Records come from the events of the gate and from the
notes that its parts make on their own.
-/

/-- The level of a trace record. -/
inductive TraceLevel where
  | debug
  | info
  | error
  deriving Repr, DecidableEq

/-- The word that names a level. -/
def TraceLevel.label : TraceLevel → String
  | .debug =>
      "DEBUG"
  | .info =>
      "INFO"
  | .error =>
      "ERROR"

/-- One record of the structured trace. -/
structure TraceRecord where
  level : TraceLevel
  message : String
  fields : List (String × String)
  deriving Repr, DecidableEq

/-- The level at which events of a severity are traced. -/
def Severity.traceLevel : Severity → TraceLevel
  | .debug =>
      .debug
  | .notice =>
      .info
  | .error =>
      .error

/-- The record of an event: the message as it is, and the checkpoint as a field. -/
def Event.traceRecord (event : Event) : TraceRecord where
  level := event.severity.traceLevel
  message := event.message
  fields := [("phase", (event.phase.map Phase.label).getD "-")]

/-- What a part of the gate notes for the trace alone. -/
inductive Note where
  /-- A group list did not fit, and the next attempt has more room. -/
  | groupListGrowing (account : String) (capacity next : Nat)
  /-- A bypass group could not be looked up and is passed over. -/
  | groupLookupSkipped (group : String) (failure : IdentityError)
  /-- A connection to the system bus is open. -/
  | busConnected
  deriving Repr, DecidableEq

/-- The record of a note. -/
def Note.traceRecord : Note → TraceRecord
  | .groupListGrowing account capacity next =>
      ⟨.debug, "group list buffer too small, growing",
        [("account", account), ("capacity", Nat.repr capacity), ("next", Nat.repr next)]⟩
  | .groupLookupSkipped group failure =>
      ⟨.debug, "bypass group lookup failed, skipping",
        [("group", group), ("error", failure.message)]⟩
  | .busConnected =>
      ⟨.debug, "connected to system bus", []⟩

end LoginGate
