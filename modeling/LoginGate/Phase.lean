namespace LoginGate

/-!
# Checkpoints of a login host and what the gate may tell it

A host (a login program, a screen locker, a session manager) stops at five
checkpoints and asks the gate at each of them. The gate answers with an
`Outcome`; only `Outcome.deny` stops the host.
-/

/-- The checkpoint at which the host is asking. -/
inductive Phase where
  | authenticate
  | setCredentials
  | accountManagement
  | openSession
  | closeSession
  deriving Repr, DecidableEq

namespace Phase

/-- Every checkpoint, in the order in which a login passes them. -/
def all : List Phase :=
  [.authenticate, .setCredentials, .accountManagement, .openSession, .closeSession]

/-- The words that name a checkpoint in messages. -/
def label : Phase → String
  | .authenticate =>
      "authentication"
  | .setCredentials =>
      "setcred"
  | .accountManagement =>
      "account management"
  | .openSession =>
      "open session"
  | .closeSession =>
      "close session"

end Phase

/-- What the gate tells the host at a checkpoint. -/
inductive Outcome where
  | allow
  | deny
  /-- There was nothing to do at this checkpoint. -/
  | noOp
  /-- Something failed at a checkpoint that must never stop the host. -/
  | failureIgnored
  deriving Repr, DecidableEq

namespace Outcome

/-- Whether the host goes on. -/
def permits : Outcome → Bool
  | .deny =>
      false
  | _ =>
      true

/-- The outcome of a yes-or-no decision. -/
def ofAllowed (allowed : Bool) : Outcome :=
  if allowed then .allow else .deny

/-- The outcome of a decision lets the host go on exactly when the decision does. -/
@[simp] theorem permits_ofAllowed (allowed : Bool) :
    (ofAllowed allowed).permits = allowed := by
  cases allowed <;> rfl

end Outcome

/-- Linux-PAM's status `PAM_SUCCESS`. -/
def pamSuccess : Int :=
  0

/-- Linux-PAM's status `PAM_PERM_DENIED`. -/
def pamPermissionDenied : Int :=
  6

/-- Linux-PAM's status `PAM_SERVICE_ERR`. -/
def pamServiceError : Int :=
  3

/-- The Linux-PAM status that carries an outcome to the host. -/
def Outcome.pamStatus (outcome : Outcome) : Int :=
  if outcome.permits then pamSuccess else pamPermissionDenied

end LoginGate
