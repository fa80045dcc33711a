import LoginGate.Authority.Error
import LoginGate.Configuration

namespace LoginGate

/-!
# Messages to the authority

A message is addressed by the names of the endpoint and carries an account.
-/

/-- A method call with one text as its argument. -/
structure BusMessage where
  /-- Whether the sender waits for no answer. -/
  noReply : Bool
  destination : String
  path : String
  interface : String
  member : String
  argument : String
  deriving Repr, DecidableEq

/-- The call of one of the authority's methods, before it is checked. -/
def BusMessage.ofCall
    (endpoint : Endpoint)
    (method : Method)
    (account : String)
    (noReply : Bool) :
    BusMessage where
  noReply := noReply
  destination := endpoint.service
  path := endpoint.objectPath
  interface := endpoint.interface
  member := method.name
  argument := account

end LoginGate
