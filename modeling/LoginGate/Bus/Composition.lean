import LoginGate.Bus.Message
import LoginGate.Bus.Wire

namespace LoginGate

/-!
# Messages that are in order

A client checks a message when it composes it: the names of the endpoint and the
account that the message carries.
-/

/-- Why a message cannot be composed. -/
inductive CompositionFault where
  | path (fault : ObjectPathFault)
  | destination (fault : PeerNameFault)
  | interface (fault : BusNameFault)
  /-- The argument holds U+0000. -/
  | argument
  deriving Repr, DecidableEq

/-- The text of a fault. -/
def CompositionFault.message : CompositionFault → String
  | .path fault =>
      fault.message
  | .destination fault =>
      fault.message
  | .interface fault =>
      "Invalid interface or error name: " ++ fault.message
  | .argument =>
      WireFault.interiorNull.message

/-- The first fault of a message: of its path, destination, interface or argument. -/
def BusMessage.fault? (message : BusMessage) : Option CompositionFault :=
  (objectPathFault? message.path).map .path <|>
    (peerNameFault? message.destination).map .destination <|>
    (interfaceNameFault? message.interface).map .interface <|>
    if '\x00' ∈ message.argument.toList then some .argument else none

end LoginGate
