import LoginGate.Phase
import LoginGate.Text.Utf8

namespace LoginGate

/-!
# Account names as the host hands them over

The host hands over bytes. Where an account is to be checked, bytes that are
no text name nobody. When a session ends the name is read leniently, because
the end of a session has to be announced whatever the name looks like.
-/

/-- The account that the host's bytes name at a checkpoint. -/
def Phase.decodeAccount (phase : Phase) (bytes : List UInt8) : Option String :=
  match phase with
  | .closeSession =>
      some (Utf8.decodeLossy bytes)
  | _ =>
      Utf8.decode? bytes

/-- The empty name is no name. -/
def presentAccount (account : Option String) : Option String :=
  account.filter (· ≠ "")

/-- A present account is a given one that is not empty. -/
theorem presentAccount_eq_some_iff (account : Option String) (name : String) :
    presentAccount account = some name ↔ account = some name ∧ name ≠ "" := by
  simp [presentAccount]

end LoginGate
