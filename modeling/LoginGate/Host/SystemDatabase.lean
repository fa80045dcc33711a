import LoginGate.Host.NameLibrary

namespace LoginGate

/-!
# The account database of the host

The account database that rests on the host's look-ups.
-/

/-- The largest number that the C library's `int` holds. -/
def maxInt : Nat :=
  0x7FFFFFFF

/-- What a group list call says about the buffer that it was given. -/
def GroupListReply.fill {capacity : Nat} (reply : GroupListReply capacity) : GroupListFill :=
  if reply.status = -1 then
    .insufficient (if 0 < reply.count then some reply.count.toNat else none)
  else
    .complete reply.count.toNat

namespace NameLibrary

variable {σ : Type}

/-- The primary group of an account. -/
def primaryGroup (library : NameLibrary σ) (account : String) :
    Interaction σ HostEffect (Except IdentityError (Option GroupId)) := do
  let found ← library.account account
  return found.mapError fun error => .account account error.message

/-- The identifier of a group. -/
def groupId (library : NameLibrary σ) (group : String) :
    Interaction σ HostEffect (Except IdentityError (Option GroupId)) := do
  let found ← library.group group
  return found.mapError fun error => .group group error.message

/-- Write the groups of an account into a buffer. -/
def fillGroupList
    (library : NameLibrary σ)
    (account : String)
    (primary : GroupId)
    {capacity : Nat}
    (buffer : GroupBuffer capacity) :
    Interaction σ HostEffect (Except IdentityError GroupListFill × GroupBuffer capacity) := do
  if isCallableName account then
    let limit : Int := min capacity maxInt
    .perform (.groupListLookup account primary limit)
    let reply ← .ask (library.groupList account primary limit buffer)
    return (.ok reply.fill, reply.buffer)
  else
    return (.error (.invalidName account), buffer)

/-- The account database of a host. -/
def database (library : NameLibrary σ) : IdentityDatabase σ HostEffect where
  primaryGroup :=
    library.primaryGroup
  fillGroupList account primary _ buffer :=
    library.fillGroupList account primary buffer
  groupId :=
    library.groupId

end NameLibrary

end LoginGate
