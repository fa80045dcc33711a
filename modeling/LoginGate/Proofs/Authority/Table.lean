import LoginGate.Authority.ScopeTable
import LoginGate.Proofs.Authority.Exchange

namespace LoginGate

/-!
# Requests to one scope of several

A request changes the slot of its own number and no other, and what it does
depends on nothing but that slot.
-/

open Interaction

variable {σ ε : Type}

namespace ScopeTable

/-- What a request does with its own slot. -/
def answerSlot
    (authority : Authority σ ε)
    (endpoint : Endpoint)
    (request : ScopeRequest)
    (slot : Option Scope) :
    Interaction (World σ) (Effect ε) (ScopeAnswer × Option Scope) :=
  match request, slot with
  | .renew, slot => do
      finishSlot authority slot
      return (.done, some Scope.fresh)
  | .drop, slot => do
      finishSlot authority slot
      return (.done, none)
  | .isConnected, none =>
      return (.dropped, none)
  | .checkLogin _, none =>
      return (.dropped, none)
  | .notifyLogout _, none =>
      return (.dropped, none)
  | .isConnected, some scope =>
      return (.connected scope.isConnected, some scope)
  | .checkLogin account, some scope => do
      let (reply, changed) ← scope.checkLogin authority endpoint account
      return (.login reply, some changed)
  | .notifyLogout account, some scope => do
      let (reply, changed) ← scope.notifyLogout authority endpoint account
      return (.logout reply, some changed)

@[simp] theorem get_extend (number other : Nat) (table : ScopeTable) :
    (table.extend number).get other = table.get other := by
  unfold extend get
  rw [List.getD_eq_getElem?_getD, List.getD_eq_getElem?_getD, List.getElem?_append]
  split
  · rfl
  · rename_i outside
    rw [List.getElem?_eq_none (Nat.le_of_not_lt outside), List.getElem?_replicate]
    split <;> rfl

theorem lt_length_extend (number : Nat) (table : ScopeTable) :
    number < (table.extend number).length := by
  simp only [extend, List.length_append, List.length_replicate]
  omega

theorem get_set
    {number : Nat}
    {table : ScopeTable}
    (inTable : number < table.length)
    (slot : Option Scope)
    (other : Nat) :
    ScopeTable.get other (table.set number slot) =
      if other = number then slot else table.get other := by
  unfold get
  rw [List.getD_eq_getElem?_getD, List.getD_eq_getElem?_getD, List.getElem?_set]
  by_cases same : other = number
  · subst same
    simp [inTable]
  · simp [same, Ne.symm same]

/-- Putting back what stands in a slot changes nothing. -/
theorem set_get {number : Nat} {table : ScopeTable} (inTable : number < table.length) :
    table.set number (table.get number) = table := by
  simp [get, List.getD_eq_getElem?_getD, inTable]

/-- A request is answered from its own slot, which alone is changed. -/
theorem answer_eq_answerSlot
    (authority : Authority σ ε)
    (endpoint : Endpoint)
    (number : Nat)
    (request : ScopeRequest)
    (table : ScopeTable) :
    table.answer authority endpoint number request =
      (fun turn => (turn.1, (table.extend number).set number turn.2)) <$>
        answerSlot authority endpoint request (table.get number) := by
  have inTable := lt_length_extend number table
  have unchanged := set_get inTable
  rw [get_extend] at unchanged
  unfold ScopeTable.answer
  cases request with
  | renew =>
      simp [answerSlot]
  | drop =>
      simp [answerSlot]
  | isConnected =>
      cases slot : table.get number with
      | none =>
          rw [slot] at unchanged
          simp [answerSlot, slot, unchanged]
      | some scope =>
          rw [slot] at unchanged
          simp [answerSlot, slot, unchanged]
  | checkLogin account =>
      cases slot : table.get number with
      | none =>
          rw [slot] at unchanged
          simp [answerSlot, slot, unchanged]
      | some scope =>
          simp [answerSlot, slot]
  | notifyLogout account =>
      cases slot : table.get number with
      | none =>
          rw [slot] at unchanged
          simp [answerSlot, slot, unchanged]
      | some scope =>
          simp [answerSlot, slot]

end ScopeTable

end LoginGate
