import LoginGate.Effect

namespace LoginGate

/-!
# Scopes: one invocation's dealings with the authority

A scope opens a session when it first needs one, uses each method at most once,
and gives its session back when it ends. A method counts as used as soon as it
is tried, so nothing is ever tried again within a scope.
-/

/-- A world in which sessions with the authority can be opened. -/
structure World (σ : Type) where
  outside : σ
  /-- How many sessions were opened so far; the next one has the number after it. -/
  sessionsOpened : Nat
  deriving Repr, DecidableEq

namespace World

/-- A world in which no session was opened yet. -/
def ofOutside {σ : Type} (outside : σ) : World σ :=
  ⟨outside, 0⟩

/-- The same sessions, with another outside. -/
def withOutside {σ : Type} (changed : σ) (world : World σ) : World σ :=
  { world with outside := changed }

/-- One session more. -/
def sessionOpened {σ : Type} (world : World σ) : World σ :=
  { world with sessionsOpened := world.sessionsOpened + 1 }

end World

/-- A computation over the outside, in a world with sessions. -/
def Interaction.inWorld {σ ε α : Type} (interaction : Interaction σ ε α) :
    Interaction (World σ) ε α :=
  interaction.within World.outside World.withOutside

/-- A computation with sessions of its own, seen from the outside alone. -/
def Interaction.withFreshSessions {σ ε α : Type} (interaction : Interaction (World σ) ε α) :
    Interaction σ ε α :=
  interaction.within World.ofOutside fun changed _ => changed.outside

/-- One invocation's hold on the authority. -/
structure Scope where
  /-- The number of the open session, if there is one. -/
  session : Option Nat
  loginChecked : Bool
  logoutNotified : Bool
  deriving Repr, DecidableEq

namespace Scope

/-- A scope that has done nothing yet. -/
def fresh : Scope :=
  ⟨none, false, false⟩

/-- Whether a session is open. -/
def isConnected (scope : Scope) : Bool :=
  scope.session.isSome

variable {σ ε : Type}

/-- The number of the scope's session, which is opened now if it is not open. -/
def ensureSession (authority : Authority σ ε) (endpoint : Endpoint) (scope : Scope) :
    Interaction (World σ) (Effect ε) (Except AuthorityError Nat × Scope) := do
  match scope.session with
  | some session =>
      return (.ok session, scope)
  | none =>
      let world ← .ask fun world => (world, world)
      let session := world.sessionsOpened + 1
      .perform (.authority (.connect endpoint))
      match ← (authority.connect session endpoint).ofHost.inWorld with
      | .error failure =>
          return (.error failure, scope)
      | .ok () =>
          .change World.sessionOpened
          return (.ok session, { scope with session := some session })

/-- Ask the authority whether an account may go on. -/
def checkLogin
    (authority : Authority σ ε)
    (endpoint : Endpoint)
    (account : String)
    (scope : Scope) :
    Interaction (World σ) (Effect ε) (Except AuthorityError Bool × Scope) := do
  if scope.loginChecked then
    return (.error (.alreadySent .checkLogin), scope)
  else
    let (opened, scope) ←
      { scope with loginChecked := true }.ensureSession authority endpoint
    match opened with
    | .error failure =>
        return (.error failure, scope)
    | .ok session =>
        .perform (.authority (.call session endpoint .checkLogin account))
        match ← (authority.call session endpoint .checkLogin account).ofHost.inWorld with
        | .error failure =>
            return (.error failure, scope)
        | .ok reply =>
            return (reply.decision, scope)

/-- Tell the authority that an account's session has ended. -/
def notifyLogout
    (authority : Authority σ ε)
    (endpoint : Endpoint)
    (account : String)
    (scope : Scope) :
    Interaction (World σ) (Effect ε) (Except AuthorityError Unit × Scope) := do
  if scope.logoutNotified then
    return (.error (.alreadySent .notifyLogout), scope)
  else
    let (opened, scope) ←
      { scope with logoutNotified := true }.ensureSession authority endpoint
    match opened with
    | .error failure =>
        return (.error failure, scope)
    | .ok session =>
        .perform (.authority (.send session endpoint .notifyLogout account))
        let sent ← (authority.send session endpoint .notifyLogout account).ofHost.inWorld
        return (sent, scope)

/-- End a scope: its session is given back, if it has one. -/
def finish (authority : Authority σ ε) (scope : Scope) :
    Interaction (World σ) (Effect ε) Unit := do
  match scope.session with
  | none =>
      return ()
  | some session =>
      .perform (.authority (.release session))
      (authority.release session).ofHost.inWorld

end Scope

end LoginGate
