namespace LoginGate

/-!
# Prepared answers

A simulated world holds its answers ready, in the order in which they are
given.
-/

/-- Answers that are given one after the other. -/
structure Queue (α : Type) where
  items : List α
  /-- Whether the last item is given for ever; otherwise the queue runs out. -/
  repeating : Bool
  deriving Repr, DecidableEq

namespace Queue

variable {α : Type}

/-- A queue that runs out at once. -/
def empty : Queue α :=
  ⟨[], false⟩

/-- A queue that always gives the same item. -/
def constant (item : α) : Queue α :=
  ⟨[item], true⟩

/-- Take the next item, if there is one. -/
def next? (queue : Queue α) : Option α × Queue α :=
  match queue.items with
  | [] =>
      (none, queue)
  | [last] =>
      (some last, if queue.repeating then queue else { queue with items := [] })
  | first :: rest =>
      (some first, { queue with items := rest })

/-- Take the next item, or a standing answer when there is none. -/
def nextOr (standing : α) (queue : Queue α) : α × Queue α :=
  (queue.next?.1.getD standing, queue.next?.2)

end Queue

/-- Things that are known by their names. -/
abbrev Registry (α : Type) :=
  List (String × α)

namespace Registry

variable {α β : Type}

/-- The thing with a name, if there is one. -/
def find? (registry : Registry α) (name : String) : Option α :=
  registry.lookup name

/-- The registry with another thing under a name that it has. -/
def replace (registry : Registry α) (name : String) (thing : α) : Registry α :=
  registry.map fun entry => if entry.1 = name then (name, thing) else entry

/-- Ask the thing with a name, or give a standing answer when there is none. -/
def askEntry
    (name : String)
    (standing : β)
    (question : α → β × α)
    (registry : Registry α) :
    β × Registry α :=
  match registry.find? name with
  | none =>
      (standing, registry)
  | some thing =>
      let asked := question thing
      (asked.1, registry.replace name asked.2)

end Registry

end LoginGate
