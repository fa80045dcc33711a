import LoginGate.Phase

namespace LoginGate

/-!
# Decisions and what they rest on
-/

/-- What a decision was based on. -/
inductive Basis where
  /-- The host named no account. -/
  | noAccount
  | bypassGroup (group : String)
  | rootAccount
  | authorityAllowed
  | authorityDenied
  /-- The authority gave no clear answer, which counts as a denial. -/
  | transportFailure (reason : String)
  deriving Repr, DecidableEq

/-- The answer to one question of the host. -/
structure Decision where
  phase : Phase
  allowed : Bool
  basis : Basis
  deriving Repr, DecidableEq

/-- What a decision means to the host. -/
def Decision.outcome (decision : Decision) : Outcome :=
  .ofAllowed decision.allowed

end LoginGate
