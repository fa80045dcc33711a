import LoginGate.Identity.Database
import LoginGate.Simulation.Queue

namespace LoginGate

/-!
# A simulated account database

Accounts and groups with prepared answers. A group list without a prepared
answer is the primary group followed by the account's further groups, and is
given whenever the buffer has room for it.
-/

/-- The answer to the question for a group identifier. -/
abbrev GroupAnswer :=
  Except IdentityError (Option GroupId)

/-- A prepared answer to one attempt at reading a group list. -/
inductive PreparedFill where
  | insufficient (required : Option Nat)
  /-- Entries for the front of the buffer, and the count that is claimed for them. -/
  | complete (count : Nat) (entries : List GroupId)
  | failure (error : IdentityError)
  deriving Repr, DecidableEq

/-- One account of a simulated database. -/
structure SimulatedAccount where
  primary : Queue GroupAnswer
  furtherGroups : List GroupId
  fills : Queue PreparedFill

/-- A simulated account database. -/
structure SimulatedAccounts where
  accounts : Registry SimulatedAccount
  groups : Registry (Queue GroupAnswer)

/-- Give a prepared answer to an attempt at reading a group list. -/
def PreparedFill.answer {capacity : Nat} (buffer : GroupBuffer capacity) :
    PreparedFill → Except IdentityError GroupListFill × GroupBuffer capacity
  | .insufficient required =>
      (.ok (.insufficient required), buffer)
  | .complete count entries =>
      (.ok (.complete count), buffer.overwrite entries)
  | .failure error =>
      (.error error, buffer)

/-- Give a whole list as the answer to an attempt at reading it. -/
def wholeListAnswer {capacity : Nat} (entries : List GroupId) (buffer : GroupBuffer capacity) :
    Except IdentityError GroupListFill × GroupBuffer capacity :=
  let filled := GroupListFill.ofList entries buffer
  (.ok filled.1, filled.2)

namespace SimulatedAccount

/-- Answer the question for the primary group. -/
def answerPrimary (account : SimulatedAccount) : GroupAnswer × SimulatedAccount :=
  let (answer, primary) := account.primary.nextOr (.ok none)
  (answer, { account with primary := primary })

/-- Answer an attempt at reading the group list. -/
def answerFill
    (primary : GroupId)
    {capacity : Nat}
    (buffer : GroupBuffer capacity)
    (account : SimulatedAccount) :
    (Except IdentityError GroupListFill × GroupBuffer capacity) × SimulatedAccount :=
  match account.fills.next? with
  | (some prepared, fills) =>
      (prepared.answer buffer, { account with fills := fills })
  | (none, _) =>
      (wholeListAnswer (primary :: account.furtherGroups) buffer, account)

end SimulatedAccount

namespace SimulatedAccounts

/-- The database of simulated accounts. -/
def database {ε : Type} : IdentityDatabase SimulatedAccounts ε where
  primaryGroup name :=
    .ask (Interaction.askPart accounts
      (fun changed world => { world with accounts := changed })
      (Registry.askEntry name (.ok none) SimulatedAccount.answerPrimary))
  fillGroupList name primary _ buffer :=
    .ask (Interaction.askPart accounts
      (fun changed world => { world with accounts := changed })
      (Registry.askEntry name (wholeListAnswer [primary] buffer)
        (SimulatedAccount.answerFill primary buffer)))
  groupId name :=
    .ask (Interaction.askPart groups
      (fun changed world => { world with groups := changed })
      (Registry.askEntry name (.ok none) (Queue.nextOr (.ok none))))

end SimulatedAccounts

end LoginGate
