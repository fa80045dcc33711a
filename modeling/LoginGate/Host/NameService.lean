import LoginGate.Host.NameLibrary

namespace LoginGate

/-!
# The host's name service

The C library looks up accounts and groups through two calls that want a scratch
buffer. Around them stands a library that tries larger and larger ones.
-/

/-- How one call for an account or a group ended. -/
inductive LookupReply where
  /-- The call returned zero, with the group identifier of the entry or without entry. -/
  | returned (entry : Option GroupId)
  /-- The call returned something else and set this error number. -/
  | failed (error : ErrorNumber)
  deriving Repr, DecidableEq

/-- The C library's look-ups, over a world `σ`. -/
structure NameService (σ : Type) where
  /-- `getpwnam_r`: the primary group of an account, with a scratch buffer of some bytes. -/
  account : (name : String) → (scratch : Nat) → σ → LookupReply × σ
  /-- `getgrnam_r`: the identifier of a group, with a scratch buffer of some bytes. -/
  group : (name : String) → (scratch : Nat) → σ → LookupReply × σ
  /-- `getgrouplist`: the groups of an account, at most `limit` of them into a buffer. -/
  groupList :
    (name : String) →
    (primary : GroupId) →
    (limit : Int) →
    {capacity : Nat} →
    GroupBuffer capacity →
    σ →
      GroupListReply capacity × σ

/-- A name service that lives in one part of a larger world. -/
def NameService.within {σ τ : Type} (part : τ → σ) (replace : σ → τ → τ)
    (service : NameService σ) : NameService τ where
  account name scratch :=
    Interaction.askPart part replace (service.account name scratch)
  group name scratch :=
    Interaction.askPart part replace (service.group name scratch)
  groupList name primary limit _ buffer :=
    Interaction.askPart part replace (service.groupList name primary limit buffer)

/-- The sizes of the scratch buffer that a look-up tries: 1024 bytes, doubled up to 1 MiB. -/
def scratchSizes : List Nat :=
  (List.range 11).map fun step => 1024 <<< step

/--
Look up one entry with a scratch buffer of each of the given sizes in turn,
until the buffer is no longer the problem.

Whether a call failed is told by what it returned, and why it failed by the
error number alone.
-/
def lookupWith {σ ε : Type} (call : Nat → σ → LookupReply × σ) (called : ε) :
    (sizes : List Nat) → Interaction σ ε (Except ErrorNumber (Option GroupId))
  | [] =>
      return .error .bufferTooSmall
  | size :: larger => do
      .perform called
      match ← .ask (call size) with
      | .returned entry =>
          return .ok entry
      | .failed error =>
          if error = .bufferTooSmall then
            lookupWith call called larger
          else
            return .error error

/-- Look up one entry under a name; nothing has a name that the C library cannot be given. -/
def lookupNamed {σ ε : Type} (name : String) (call : Nat → σ → LookupReply × σ) (called : ε) :
    Interaction σ ε (Except ErrorNumber (Option GroupId)) :=
  if isCallableName name then
    lookupWith call called scratchSizes
  else
    return .ok none

/-- The library around the C library's look-ups. -/
def NameService.library {σ : Type} (service : NameService σ) : NameLibrary σ where
  account name :=
    lookupNamed name (service.account name) (.accountLookup name)
  group name :=
    lookupNamed name (service.group name) (.groupLookup name)
  groupList :=
    service.groupList

end LoginGate
