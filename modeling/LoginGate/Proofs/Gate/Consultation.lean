import LoginGate.Gate
import LoginGate.Proofs.Authority.Exchange

namespace LoginGate

/-!
# What the gate does with the authority

For one question the gate uses a scope of its own. Whatever the authority
answers, the session that was opened for the question is given back before the
question is answered.
-/

open Interaction

namespace Gate

variable {σ ε : Type}
variable (gate : Gate σ ε) (account : String) {world : World σ}

/-- How the gate's authority answers an attempt to open the next session. -/
abbrev opening (world : World σ) : Report σ ε (Except AuthorityError Unit) :=
  gate.authority.opening gate.configuration.endpoint world

/-- How the gate's authority answers a question on a fresh session. -/
abbrev questioning (world : World σ) : Report σ ε (Except AuthorityError Reply) :=
  gate.authority.questioning gate.configuration.endpoint account world

/-- How the gate's authority takes a logout notice on a fresh session. -/
abbrev notifying (world : World σ) : Report σ ε (Except AuthorityError Unit) :=
  gate.authority.notifying gate.configuration.endpoint account world

/-- What the gate's authority does when the session opened last is given back. -/
def releasing (session : Nat) (outside : σ) : Report σ ε Unit :=
  run (gate.authority.release session) outside

/-- What an attempt to open a session adds to the history of a question. -/
def openingEffects (world : World σ) : History ε :=
  .authority (.connect gate.configuration.endpoint) :: (gate.opening world).effects.map .host

/-- What a question on a fresh session adds to the history. -/
def questioningEffects (world : World σ) : History ε :=
  .authority
      (.call (world.sessionsOpened + 1) gate.configuration.endpoint .checkLogin account) ::
    (gate.questioning account world).effects.map .host

/-- What a notice on a fresh session adds to the history. -/
def notifyingEffects (world : World σ) : History ε :=
  .authority
      (.send (world.sessionsOpened + 1) gate.configuration.endpoint .notifyLogout account) ::
    (gate.notifying account world).effects.map .host

/-- What the return of a session adds to the history. -/
def releasingEffects (session : Nat) (outside : σ) : History ε :=
  .authority (.release session) :: (gate.releasing session outside).effects.map .host

/-- Without a session the question fails as the attempt to open one failed. -/
theorem run_queryAuthority_of_refused
    {failure : AuthorityError}
    (refused : (gate.opening world).answer = .error failure) :
    run (gate.queryAuthority account) world =
      ⟨.error failure, world.withOutside (gate.opening world).world,
        gate.openingEffects world⟩ := by
  have closed : { Scope.fresh with loginChecked := true }.session = none :=
    rfl
  have unchecked : Scope.fresh.loginChecked = false :=
    rfl
  have opened :=
    Scope.run_ensureSession_of_refused gate.authority gate.configuration.endpoint world
      closed refused
  have asked :=
    Scope.run_checkLogin_of_unopened gate.authority gate.configuration.endpoint account
      unchecked opened
  simp only [queryAuthority, run_bind, asked]
  rw [Scope.run_finish_of_closed gate.authority _ rfl]
  simp [openingEffects]

/-- With a session the reply decides, and the session is given back in any case. -/
theorem run_queryAuthority_of_accepted
    (accepted : (gate.opening world).answer = .ok ()) :
    run (gate.queryAuthority account) world =
      ⟨(gate.questioning account world).answer.bind Reply.decision,
        ⟨(gate.releasing (world.sessionsOpened + 1)
          (gate.questioning account world).world).world, world.sessionsOpened + 1⟩,
        gate.openingEffects world ++ gate.questioningEffects account world ++
          gate.releasingEffects (world.sessionsOpened + 1)
            (gate.questioning account world).world⟩ := by
  have closed : { Scope.fresh with loginChecked := true }.session = none :=
    rfl
  have unchecked : Scope.fresh.loginChecked = false :=
    rfl
  have opened :=
    Scope.run_ensureSession_of_accepted gate.authority gate.configuration.endpoint world
      closed accepted
  have asked :=
    Scope.run_checkLogin_of_opened gate.authority gate.configuration.endpoint account
      unchecked opened
  simp only [queryAuthority, run_bind, asked]
  rw [Scope.run_finish_of_open gate.authority _ rfl]
  simp only [run_pure, List.append_nil]
  rfl

/-- Nobody is told about the end of a nameless session. -/
theorem run_announceSessionEnd_of_nobody
    {named : Option String}
    (nobody : presentAccount named = none) :
    run (gate.announceSessionEnd named) world =
      ⟨.noOp, world,
        [.event (.debug .closeSession "No user found, nothing to notify")]⟩ := by
  simp [announceSessionEnd, nobody, recordEvent]

/-- What the gate records about a notice, according to what became of it. -/
def noticeEffects : Except AuthorityError Unit → History ε
  | .ok () =>
      [.event (.debug .closeSession ("Sent logout notification for " ++ account))]
  | .error failure =>
      [.event (.error .closeSession failure.message),
        .event (.debug .closeSession
          ("Failed to send logout notification for " ++ account ++ ": " ++ failure.message))]

/-- Without a session the notice is given up. -/
theorem run_announceSessionEnd_of_refused
    {named : Option String}
    {failure : AuthorityError}
    (present : presentAccount named = some account)
    (refused : (gate.opening world).answer = .error failure) :
    run (gate.announceSessionEnd named) world =
      ⟨.failureIgnored, world.withOutside (gate.opening world).world,
        gate.openingEffects world ++ noticeEffects account (.error failure)⟩ := by
  have closed : { Scope.fresh with logoutNotified := true }.session = none :=
    rfl
  have unnotified : Scope.fresh.logoutNotified = false :=
    rfl
  have opened :=
    Scope.run_ensureSession_of_refused gate.authority gate.configuration.endpoint world
      closed refused
  have sent :=
    Scope.run_notifyLogout_of_unopened gate.authority gate.configuration.endpoint account
      unnotified opened
  simp only [announceSessionEnd, present, run_bind, sent, recordEvent, run_perform]
  rw [Scope.run_finish_of_closed gate.authority _ rfl]
  simp [openingEffects, noticeEffects]

/-- With a session the notice is sent, and the session is given back in any case. -/
theorem run_announceSessionEnd_of_accepted
    {named : Option String}
    (present : presentAccount named = some account)
    (accepted : (gate.opening world).answer = .ok ()) :
    run (gate.announceSessionEnd named) world =
      ⟨match (gate.notifying account world).answer with
        | .ok () => .allow
        | .error _ => .failureIgnored,
        ⟨(gate.releasing (world.sessionsOpened + 1)
          (gate.notifying account world).world).world, world.sessionsOpened + 1⟩,
        gate.openingEffects world ++ gate.notifyingEffects account world ++
          noticeEffects account (gate.notifying account world).answer ++
          gate.releasingEffects (world.sessionsOpened + 1)
            (gate.notifying account world).world⟩ := by
  have closed : { Scope.fresh with logoutNotified := true }.session = none :=
    rfl
  have unnotified : Scope.fresh.logoutNotified = false :=
    rfl
  have opened :=
    Scope.run_ensureSession_of_accepted gate.authority gate.configuration.endpoint world
      closed accepted
  have sent :=
    Scope.run_notifyLogout_of_opened gate.authority gate.configuration.endpoint account
      unnotified opened
  have answered :
      (run (gate.authority.send (world.sessionsOpened + 1) gate.configuration.endpoint
        .notifyLogout account) (gate.opening world).world).answer =
        (gate.notifying account world).answer :=
    rfl
  simp only [announceSessionEnd, present, run_bind, sent]
  simp only [World.outside_sessionOpened, World.outside_withOutside, answered]
  cases outcome : (gate.notifying account world).answer with
  | error failure =>
      simp only [recordEvent, run_bind, run_perform]
      rw [Scope.run_finish_of_open gate.authority _ rfl]
      simp only [run_pure, List.append_nil, List.append_assoc, List.cons_append,
        List.nil_append, openingEffects, notifyingEffects, noticeEffects]
      rfl
  | ok _ =>
      simp only [recordEvent, run_bind, run_perform]
      rw [Scope.run_finish_of_open gate.authority _ rfl]
      simp only [run_pure, List.append_nil, List.append_assoc, List.cons_append,
        List.nil_append, openingEffects, notifyingEffects, noticeEffects]
      rfl

end Gate

end LoginGate
