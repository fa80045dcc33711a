import LoginGate.Account
import LoginGate.Authority.Scope
import LoginGate.Decision
import LoginGate.Identity.Exemption

namespace LoginGate

/-!
# The gate

At the authentication and account checkpoints an exempt account passes by
itself and everybody else needs the authority's consent. When a session is
opened everybody needs it, exempt or not. Whatever else happens than a clear
consent is a denial. The end of a session is announced to the authority if
possible and never stops the host.

Every question is decided on its own: nothing is carried from one to the next.
-/

/-- A gate: its configuration, the accounts it looks up and the authority it asks. -/
structure Gate (σ ε : Type) where
  configuration : Configuration
  database : IdentityDatabase σ ε
  authority : Authority σ ε

/-- A computation of a gate. -/
abbrev GateRun (σ ε α : Type) :=
  Interaction (World σ) (Effect ε) α

/-- Record an event. -/
def recordEvent {σ ε : Type} (event : Event) : GateRun σ ε Unit :=
  .perform (.event event)

namespace Gate

variable {σ ε : Type}

/-- Record that the host asks at a checkpoint. -/
def announce (phase : Phase) : GateRun σ ε Unit :=
  recordEvent (.notice phase ("sessionwarden called for " ++ phase.label))

/-- Deny because nobody was named. -/
def denyNobody (phase : Phase) : GateRun σ ε Decision := do
  recordEvent (.debug phase "No user found")
  return ⟨phase, false, .noAccount⟩

/-- Ask the authority about an account, in a scope of its own. -/
def queryAuthority (gate : Gate σ ε) (account : String) :
    GateRun σ ε (Except AuthorityError Bool) := do
  let (answer, scope) ←
    Scope.fresh.checkLogin gate.authority gate.configuration.endpoint account
  scope.finish gate.authority
  return answer

/-- Record that an account may go on with the authority's consent. -/
def recordConsent (phase : Phase) (account : String) : GateRun σ ε Unit :=
  recordEvent (.debug phase ("Access allowed by sessionwarden for " ++ account))

/-- Record that an account may not go on. -/
def recordDenial (phase : Phase) (account : String) : GateRun σ ε Unit := do
  recordEvent (.debug phase ("Access denied by sessionwarden for " ++ account))
  recordEvent (.notice phase ("sessionwarden denied access for " ++ account))

/-- Record why the authority gave no answer about an account. -/
def recordFailure (phase : Phase) (account : String) (failure : AuthorityError) :
    GateRun σ ε Unit := do
  recordEvent (.error phase failure.message)
  recordEvent (.debug phase
    (if failure.isConnect then
      "Failed to connect to D-Bus system bus"
    else
      "CheckLogin failed for user " ++ account ++ ": " ++ failure.message))

/-- Decide by the authority's answer alone. -/
def askAuthority (gate : Gate σ ε) (phase : Phase) (account : String) :
    GateRun σ ε Decision := do
  match ← gate.queryAuthority account with
  | .ok true =>
      recordConsent phase account
      return ⟨phase, true, .authorityAllowed⟩
  | .ok false =>
      recordDenial phase account
      return ⟨phase, false, .authorityDenied⟩
  | .error failure =>
      recordFailure phase account failure
      recordDenial phase account
      return ⟨phase, false, .transportFailure failure.message⟩

/-- Decide at a checkpoint that exempt accounts pass by themselves. -/
def decideWithExemptions (gate : Gate σ ε) (phase : Phase) (account : Option String) :
    GateRun σ ε Decision := do
  announce phase
  match presentAccount account with
  | none =>
      denyNobody phase
  | some account =>
      match ← (gate.database.exemption gate.configuration.bypass account).inWorld with
      | .ok (some (.bypassGroup group)) =>
          recordEvent (.debug phase
            ("User " ++ account ++ " is in bypass group " ++ group ++ ", allowing"))
          return ⟨phase, true, .bypassGroup group⟩
      | .ok (some .rootAccount) =>
          recordEvent (.debug phase "User is root, allowing")
          return ⟨phase, true, .rootAccount⟩
      | .ok none =>
          gate.askAuthority phase account
      | .error failure =>
          recordEvent (.debug phase
            ("identity lookup failed, treating " ++ account ++ " as not exempt: " ++
              failure.message))
          gate.askAuthority phase account

/--
Decide at a checkpoint where nobody is exempt.

This is stricter than `decideWithExemptions` on purpose: the root account and the members of
the bypass groups need the authority's consent like everybody else.
-/
def decideStrictly (gate : Gate σ ε) (phase : Phase) (account : Option String) :
    GateRun σ ε Decision := do
  announce phase
  match presentAccount account with
  | none =>
      denyNobody phase
  | some account =>
      gate.askAuthority phase account

/-- Tell the authority that an account's session has ended, if that can be done. -/
def announceSessionEnd (gate : Gate σ ε) (account : Option String) : GateRun σ ε Outcome := do
  match presentAccount account with
  | none =>
      recordEvent (.debug .closeSession "No user found, nothing to notify")
      return .noOp
  | some account =>
      let (sent, scope) ←
        Scope.fresh.notifyLogout gate.authority gate.configuration.endpoint account
      match sent with
      | .ok () =>
          recordEvent (.debug .closeSession ("Sent logout notification for " ++ account))
          scope.finish gate.authority
          return .allow
      | .error failure =>
          recordEvent (.error .closeSession failure.message)
          recordEvent (.debug .closeSession
            ("Failed to send logout notification for " ++ account ++ ": " ++ failure.message))
          scope.finish gate.authority
          return .failureIgnored

/-- Answer the host at a checkpoint. -/
def answer (gate : Gate σ ε) (phase : Phase) (account : Option String) :
    GateRun σ ε Outcome :=
  match phase with
  | .authenticate => do
      let decision ← gate.decideWithExemptions .authenticate account
      return decision.outcome
  | .setCredentials =>
      return .noOp
  | .accountManagement => do
      let decision ← gate.decideWithExemptions .accountManagement account
      return decision.outcome
  | .openSession => do
      let decision ← gate.decideStrictly .openSession account
      return decision.outcome
  | .closeSession =>
      gate.announceSessionEnd account

/-- Answer the host at a checkpoint, with the account as it hands it over. -/
def answerBytes (gate : Gate σ ε) (phase : Phase) (bytes : Option (List UInt8)) :
    GateRun σ ε Outcome :=
  gate.answer phase (bytes.bind phase.decodeAccount)

end Gate

end LoginGate
