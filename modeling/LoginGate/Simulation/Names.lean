import LoginGate.Host.NameService
import LoginGate.Simulation.Queue

namespace LoginGate

/-!
# A simulated name service

Look-ups with prepared answers. A group list without a prepared answer is the
primary group followed by the account's further groups; as many of them as fit
are written, and the call says how many there are.
-/

/-- A prepared answer to one call for a group list. -/
structure PreparedGroupList where
  status : Int
  count : Int
  entries : List GroupId
  deriving Repr, DecidableEq

/-- The group list of one account of a simulated name service. -/
structure SimulatedGroupList where
  furtherGroups : List GroupId
  prepared : Queue PreparedGroupList

/-- A simulated name service. -/
structure SimulatedNames where
  accounts : Registry (Queue LookupReply)
  groups : Registry (Queue LookupReply)
  groupLists : Registry SimulatedGroupList

/-- Give a prepared answer to a call for a group list. -/
def PreparedGroupList.answer
    (limit : Int)
    {capacity : Nat}
    (buffer : GroupBuffer capacity)
    (prepared : PreparedGroupList) :
    GroupListReply capacity :=
  ⟨prepared.status, prepared.count,
    buffer.overwrite (prepared.entries.take limit.toNat)⟩

/-- Answer a call for a group list as the C library's contract says. -/
def GroupListReply.ofList
    (limit : Int)
    {capacity : Nat}
    (buffer : GroupBuffer capacity)
    (entries : List GroupId) :
    GroupListReply capacity :=
  let length : Int := entries.length
  ⟨if limit < length then -1 else length, length,
    buffer.overwrite (entries.take limit.toNat)⟩

namespace SimulatedGroupList

/-- Answer a call for the group list of an account. -/
def answer
    (primary : GroupId)
    (limit : Int)
    {capacity : Nat}
    (buffer : GroupBuffer capacity)
    (list : SimulatedGroupList) :
    GroupListReply capacity × SimulatedGroupList :=
  match list.prepared.next? with
  | (some prepared, others) =>
      (prepared.answer limit buffer, { list with prepared := others })
  | (none, _) =>
      (GroupListReply.ofList limit buffer (primary :: list.furtherGroups), list)

end SimulatedGroupList

namespace SimulatedNames

/-- The name service of prepared answers. -/
def service : NameService SimulatedNames where
  account name _ :=
    Interaction.askPart accounts
      (fun changed world => { world with accounts := changed })
      (Registry.askEntry name (.returned none) (Queue.nextOr (.returned none)))
  group name _ :=
    Interaction.askPart groups
      (fun changed world => { world with groups := changed })
      (Registry.askEntry name (.returned none) (Queue.nextOr (.returned none)))
  groupList name primary limit _ buffer :=
    Interaction.askPart groupLists
      (fun changed world => { world with groupLists := changed })
      (Registry.askEntry name (GroupListReply.ofList limit buffer [primary])
        (SimulatedGroupList.answer primary limit buffer))

end SimulatedNames

end LoginGate
