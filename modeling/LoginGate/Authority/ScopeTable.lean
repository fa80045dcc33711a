import LoginGate.Authority.Scope

namespace LoginGate

/-!
# Several scopes side by side

Scopes over one authority may be used in any interleaving. They stand in a
numbered table; a number that was never used holds a fresh scope. A scope can be
dropped, which ends it, and replaced by a fresh one, which ends it as well; a
dropped scope can be dropped again and replaced, and does nothing else.
-/

/-- What can be asked of one scope. -/
inductive ScopeRequest where
  /-- Put a fresh scope in the place of this one. -/
  | renew
  | drop
  | isConnected
  | checkLogin (account : String)
  | notifyLogout (account : String)
  deriving Repr, DecidableEq

/-- How a scope answers. -/
inductive ScopeAnswer where
  | done
  /-- The scope was dropped before and answers nothing. -/
  | dropped
  | connected (value : Bool)
  | login (answer : Except AuthorityError Bool)
  | logout (answer : Except AuthorityError Unit)

/-- Scopes by number; `none` is a dropped scope. -/
abbrev ScopeTable :=
  List (Option Scope)

namespace ScopeTable

/-- A table in which all numbers up to the given one are used. -/
def extend (number : Nat) (table : ScopeTable) : ScopeTable :=
  table ++ List.replicate (number + 1 - table.length) (some Scope.fresh)

/-- The scope with a number. -/
def get (number : Nat) (table : ScopeTable) : Option Scope :=
  table.getD number (some Scope.fresh)

variable {σ ε : Type}

/-- End a scope that may have been dropped before. -/
def finishSlot (authority : Authority σ ε) (slot : Option Scope) :
    Interaction (World σ) (Effect ε) Unit :=
  match slot with
  | none =>
      return ()
  | some scope =>
      scope.finish authority

/-- Let one scope answer a request. -/
def answer
    (authority : Authority σ ε)
    (endpoint : Endpoint)
    (number : Nat)
    (request : ScopeRequest)
    (given : ScopeTable) :
    Interaction (World σ) (Effect ε) (ScopeAnswer × ScopeTable) := do
  let table := given.extend number
  match request, table.get number with
  | .renew, slot =>
      finishSlot authority slot
      return (.done, table.set number (some Scope.fresh))
  | .drop, slot =>
      finishSlot authority slot
      return (.done, table.set number none)
  | _, none =>
      return (.dropped, table)
  | .isConnected, some scope =>
      return (.connected scope.isConnected, table)
  | .checkLogin account, some scope =>
      let (reply, changed) ← scope.checkLogin authority endpoint account
      return (.login reply, table.set number (some changed))
  | .notifyLogout account, some scope =>
      let (reply, changed) ← scope.notifyLogout authority endpoint account
      return (.logout reply, table.set number (some changed))

/-- End every scope, in the order of their numbers. -/
def finishAll (authority : Authority σ ε) : ScopeTable → Interaction (World σ) (Effect ε) Unit
  | [] =>
      return ()
  | slot :: rest => do
      finishSlot authority slot
      finishAll authority rest

/-- One step of a run: whom was asked what, the answer, and what was done for it. -/
structure Step (ε : Type) where
  number : Nat
  request : ScopeRequest
  answer : ScopeAnswer
  history : History ε

/-- Let scopes answer requests one after the other. -/
def answerEach
    (authority : Authority σ ε)
    (endpoint : Endpoint) :
    List (Nat × ScopeRequest) →
    ScopeTable →
      Interaction (World σ) (Effect ε) (List (Step ε) × ScopeTable)
  | [], table =>
      return ([], table)
  | (number, request) :: rest, table => do
      let ((reply, changed), history) ←
        (table.answer authority endpoint number request).observe
      let (others, final) ← answerEach authority endpoint rest changed
      return (⟨number, request, reply, history⟩ :: others, final)

/--
A whole run: all requests, then the end of every scope that is left. The answer
holds the steps and what was done at the end.
-/
def run
    (authority : Authority σ ε)
    (endpoint : Endpoint)
    (requests : List (Nat × ScopeRequest)) :
    Interaction (World σ) (Effect ε) (List (Step ε) × History ε) := do
  let (steps, table) ← answerEach authority endpoint requests []
  let ((), history) ← (table.finishAll authority).observe
  return (steps, history)

end ScopeTable

end LoginGate
