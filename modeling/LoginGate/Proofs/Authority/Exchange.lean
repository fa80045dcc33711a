import LoginGate.Authority.Scope

namespace LoginGate

/-!
# What a scope does, case by case

Each use of a scope is described by its whole report: the answer, the world
after it and every effect. Which case applies depends on the scope and on what
the authority answers in that very world, and on nothing else.
-/

open Interaction

variable {σ ε : Type}

/-- A computation over the outside leaves the number of opened sessions alone. -/
@[simp] theorem Interaction.run_inWorld
    {α : Type}
    (interaction : Interaction σ ε α)
    (world : World σ) :
    run interaction.inWorld world =
      ⟨(run interaction world.outside).answer,
        world.withOutside (run interaction world.outside).world,
        (run interaction world.outside).effects⟩ :=
  rfl

namespace World

@[simp] theorem outside_withOutside (changed : σ) (world : World σ) :
    (world.withOutside changed).outside = changed :=
  rfl

@[simp] theorem sessionsOpened_withOutside (changed : σ) (world : World σ) :
    (world.withOutside changed).sessionsOpened = world.sessionsOpened :=
  rfl

@[simp] theorem outside_sessionOpened (world : World σ) :
    world.sessionOpened.outside = world.outside :=
  rfl

end World

namespace Authority

/-- What an attempt to open the next session leaves behind. -/
def opening (authority : Authority σ ε) (endpoint : Endpoint) (world : World σ) :
    Report σ ε (Except AuthorityError Unit) :=
  run (authority.connect (world.sessionsOpened + 1) endpoint) world.outside

/-- What a question about an account leaves behind when it is put on a fresh session. -/
def questioning
    (authority : Authority σ ε)
    (endpoint : Endpoint)
    (account : String)
    (world : World σ) :
    Report σ ε (Except AuthorityError Reply) :=
  run (authority.call (world.sessionsOpened + 1) endpoint .checkLogin account)
    (authority.opening endpoint world).world

/-- What a logout notice leaves behind when it is sent on a fresh session. -/
def notifying
    (authority : Authority σ ε)
    (endpoint : Endpoint)
    (account : String)
    (world : World σ) :
    Report σ ε (Except AuthorityError Unit) :=
  run (authority.send (world.sessionsOpened + 1) endpoint .notifyLogout account)
    (authority.opening endpoint world).world

end Authority

namespace Scope

section Sessions

variable (authority : Authority σ ε) (endpoint : Endpoint) {scope : Scope} (world : World σ)

/-- An open session is kept. -/
theorem run_ensureSession_of_open
    {session : Nat}
    (isOpen : scope.session = some session) :
    run (scope.ensureSession authority endpoint) world = ⟨(.ok session, scope), world, []⟩ := by
  unfold ensureSession
  rw [isOpen]
  rfl

/-- A session that cannot be opened leaves the scope as it is. -/
theorem run_ensureSession_of_refused
    {failure : AuthorityError}
    (closed : scope.session = none)
    (refused : (authority.opening endpoint world).answer = .error failure) :
    run (scope.ensureSession authority endpoint) world =
      ⟨(.error failure, scope),
        world.withOutside (authority.opening endpoint world).world,
        .authority (.connect endpoint) ::
          (authority.opening endpoint world).effects.map .host⟩ := by
  unfold Authority.opening at refused ⊢
  unfold ensureSession
  simp [closed, refused]

/-- A session that is opened has the number behind the last one, and stays in the scope. -/
theorem run_ensureSession_of_accepted
    (closed : scope.session = none)
    (accepted : (authority.opening endpoint world).answer = .ok ()) :
    run (scope.ensureSession authority endpoint) world =
      ⟨(.ok (world.sessionsOpened + 1),
          { scope with session := some (world.sessionsOpened + 1) }),
        (world.withOutside (authority.opening endpoint world).world).sessionOpened,
        .authority (.connect endpoint) ::
          (authority.opening endpoint world).effects.map .host⟩ := by
  unfold Authority.opening at accepted ⊢
  unfold ensureSession
  simp [closed, accepted]

/-- A scope without session has nothing to give back. -/
theorem run_finish_of_closed (closed : scope.session = none) :
    run (scope.finish authority) world = ⟨(), world, []⟩ := by
  unfold finish
  rw [closed]
  rfl

/-- The session of a scope is given back. -/
theorem run_finish_of_open
    {session : Nat}
    (isOpen : scope.session = some session) :
    run (scope.finish authority) world =
      ⟨(), world.withOutside (run (authority.release session) world.outside).world,
        .authority (.release session) ::
          (run (authority.release session) world.outside).effects.map .host⟩ := by
  unfold finish
  rw [isOpen]
  simp

end Sessions

section Uses

variable (authority : Authority σ ε) (endpoint : Endpoint) (account : String)
variable {scope : Scope} {world : World σ}

/-- A first question fails as the attempt to open a session fails. -/
theorem run_checkLogin_of_unopened
    {failure : AuthorityError}
    {left : Scope}
    {behind : World σ}
    {effects : History ε}
    (unchecked : scope.loginChecked = false)
    (opened :
      run ({ scope with loginChecked := true }.ensureSession authority endpoint) world =
        ⟨(.error failure, left), behind, effects⟩) :
    run (scope.checkLogin authority endpoint account) world =
      ⟨(.error failure, left), behind, effects⟩ := by
  simp [checkLogin, unchecked, opened]

/-- A first question is put on the scope's session, and the reply decides. -/
theorem run_checkLogin_of_opened
    {session : Nat}
    {left : Scope}
    {behind : World σ}
    {effects : History ε}
    (unchecked : scope.loginChecked = false)
    (opened :
      run ({ scope with loginChecked := true }.ensureSession authority endpoint) world =
        ⟨(.ok session, left), behind, effects⟩) :
    run (scope.checkLogin authority endpoint account) world =
      let asked := run (authority.call session endpoint .checkLogin account) behind.outside
      ⟨(asked.answer.bind Reply.decision, left), behind.withOutside asked.world,
        effects ++ .authority (.call session endpoint .checkLogin account) ::
          asked.effects.map .host⟩ := by
  simp only [checkLogin, unchecked, Bool.false_eq_true, if_false, run_bind, opened,
    run_perform, run_inWorld, run_ofHost]
  cases asked : (run (authority.call session endpoint .checkLogin account)
      behind.outside).answer <;>
    simp [Except.bind]

/-- A first notice fails as the attempt to open a session fails. -/
theorem run_notifyLogout_of_unopened
    {failure : AuthorityError}
    {left : Scope}
    {behind : World σ}
    {effects : History ε}
    (unnotified : scope.logoutNotified = false)
    (opened :
      run ({ scope with logoutNotified := true }.ensureSession authority endpoint) world =
        ⟨(.error failure, left), behind, effects⟩) :
    run (scope.notifyLogout authority endpoint account) world =
      ⟨(.error failure, left), behind, effects⟩ := by
  simp [notifyLogout, unnotified, opened]

/-- A first notice is sent on the scope's session. -/
theorem run_notifyLogout_of_opened
    {session : Nat}
    {left : Scope}
    {behind : World σ}
    {effects : History ε}
    (unnotified : scope.logoutNotified = false)
    (opened :
      run ({ scope with logoutNotified := true }.ensureSession authority endpoint) world =
        ⟨(.ok session, left), behind, effects⟩) :
    run (scope.notifyLogout authority endpoint account) world =
      let sent := run (authority.send session endpoint .notifyLogout account) behind.outside
      ⟨(sent.answer, left), behind.withOutside sent.world,
        effects ++ .authority (.send session endpoint .notifyLogout account) ::
          sent.effects.map .host⟩ := by
  simp [notifyLogout, unnotified, opened]

end Uses

end Scope

end LoginGate
