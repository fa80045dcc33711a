import LoginGate.Host.Effect
import LoginGate.Host.ErrorNumber

namespace LoginGate

/-!
# The host's look-ups as a library gives them

Accounts and groups are looked up by functions of a library, and group lists by a
call of the C library itself. They may fail, and they may answer differently every
time.
-/

/-- How one call for a group list ended. -/
structure GroupListReply (capacity : Nat) where
  /-- The value that the call returned. -/
  status : Int
  /-- The number of groups that the call left behind. -/
  count : Int
  buffer : GroupBuffer capacity

/-- Look-ups of accounts and groups, over a world `σ`. -/
structure NameLibrary (σ : Type) where
  /-- The primary group of an account, or that there is no such account. -/
  account : (name : String) → Interaction σ HostEffect (Except ErrorNumber (Option GroupId))
  /-- The identifier of a group, or that there is no such group. -/
  group : (name : String) → Interaction σ HostEffect (Except ErrorNumber (Option GroupId))
  /-- `getgrouplist`: the groups of an account, at most `limit` of them into a buffer. -/
  groupList :
    (name : String) →
    (primary : GroupId) →
    (limit : Int) →
    {capacity : Nat} →
    GroupBuffer capacity →
    σ →
      GroupListReply capacity × σ

/-- Whether a name can be handed to the C library, which ends names at U+0000. -/
def isCallableName (name : String) : Bool :=
  '\x00' ∉ name.toList

end LoginGate
