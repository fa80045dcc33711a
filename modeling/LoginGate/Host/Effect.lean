import LoginGate.Bus.Message
import LoginGate.Diagnostics.Sink
import LoginGate.Identity.Database

namespace LoginGate

/-!
# What the gate does to its host
-/

/-- One thing that the host sees the gate do. -/
inductive HostEffect where
  /-- The host was asked for the user's name, and what it gave. -/
  | userQuery (name : Option (List UInt8)) (status : Int)
  | accountLookup (name : String)
  | groupLookup (name : String)
  | groupListLookup (name : String) (primary : GroupId) (limit : Int)
  /-- A message went out on the bus. -/
  | message (message : BusMessage)
  /-- A line for the system log, or a trace record. -/
  | delivery (delivery : Delivery)
  deriving Repr, DecidableEq

end LoginGate
