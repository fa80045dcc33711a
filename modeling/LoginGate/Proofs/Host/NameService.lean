import LoginGate.Host.NameService
import LoginGate.Proofs.Host.NameTable

namespace LoginGate

/-!
# The library around the C library's look-ups

The C library looks entries up with a scratch buffer of some size. When it answers from
a table as soon as the buffer is large enough, then so does the library around it.
-/

open Interaction

variable {σ ε : Type}

/--
The C library answers from a table, whatever else the host does meanwhile. This is
said of the names that it can be given, and of limits that the buffer has room for.
-/
structure NameService.Follows (service : NameService σ) (table : NameTable) : Prop where
  account :
    ∀ name world,
      isCallableName name = true →
      (run (lookupWith (service.account name) (HostEffect.accountLookup name) scratchSizes)
        world).answer = table.account name
  group :
    ∀ name world,
      isCallableName name = true →
      (run (lookupWith (service.group name) (HostEffect.groupLookup name) scratchSizes)
        world).answer = table.group name
  groupList :
    ∀ name primary {capacity} (buffer : GroupBuffer capacity) (limit : Int) world,
      isCallableName name = true →
      0 ≤ limit →
      limit ≤ capacity →
      (service.groupList name primary limit buffer world).1.TellsOf limit buffer
        (table.groupList name primary)

/-- Nothing but the look-up itself happens while an entry is looked up. -/
theorem eq_of_mem_effects_lookupWith
    (call : Nat → σ → LookupReply × σ)
    (called : ε)
    (sizes : List Nat)
    (world : σ) :
    ∀ effect ∈ (run (lookupWith call called sizes) world).effects, effect = called := by
  -- Every larger scratch buffer is tried in the world that the call before it left.
  induction sizes generalizing world with
  | nil =>
      simp [lookupWith]
  | cons size larger inductionHypothesis =>
      intro effect isMember
      simp only [lookupWith, run_bind, run_perform, run_ask, List.nil_append,
        List.singleton_append, List.mem_cons] at isMember
      rcases isMember with isFirst | isLater
      · exact isFirst
      · split at isLater
        · simp at isLater
        · split at isLater
          · exact inductionHypothesis _ effect isLater
          · simp at isLater

section LookupNamed

variable {name : String} {call : Nat → σ → LookupReply × σ} {called : ε}

theorem answer_lookupNamed
    {world : σ}
    {found : Except ErrorNumber (Option GroupId)}
    (isFound :
      isCallableName name = true →
      (run (lookupWith call called scratchSizes) world).answer = found) :
    (run (lookupNamed name call called) world).answer =
      if isCallableName name then found else .ok none := by
  by_cases isCallable : isCallableName name = true
  · rw [lookupNamed, if_pos isCallable, if_pos isCallable, isFound isCallable]
  · rw [lookupNamed, if_neg isCallable, if_neg isCallable]
    rfl

/-- A name that the C library cannot be given is not looked up at all. -/
theorem effects_lookupNamed (world : σ) :
    ∀ effect ∈ (run (lookupNamed name call called) world).effects,
      effect = called ∧ isCallableName name = true := by
  intro effect isMember
  by_cases isCallable : isCallableName name = true
  · rw [lookupNamed, if_pos isCallable] at isMember
    exact ⟨eq_of_mem_effects_lookupWith _ _ _ _ effect isMember, isCallable⟩
  · rw [lookupNamed, if_neg isCallable] at isMember
    cases isMember

end LookupNamed

/-- Around a C library that answers from a table, so does the library. -/
theorem NameService.Follows.library
    {service : NameService σ}
    {table : NameTable}
    (follows : service.Follows table) :
    service.library.Follows table := by
  constructor
  case account =>
    exact fun name world => answer_lookupNamed (follows.account name world)
  case accountCalls =>
    exact fun _ world => effects_lookupNamed world
  case group =>
    exact fun name world => answer_lookupNamed (follows.group name world)
  case groupCalls =>
    exact fun _ world => effects_lookupNamed world
  case groupList =>
    exact follows.groupList

end LoginGate
