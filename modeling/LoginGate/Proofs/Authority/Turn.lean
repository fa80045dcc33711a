import LoginGate.Proofs.Authority.Faithful

namespace LoginGate

/-!
# One turn of a scope

What a request does with its slot, over a recorded authority: there are a few
ways in which it can go, and each of them is told by the answer, by the recorded
dealings, and by the slot afterwards.
-/

open Interaction

variable {σ ε : Type}

namespace ScopeRequest

/-- Whether a request ends the scope that stands in its slot. -/
def ends : ScopeRequest → Bool
  | .renew =>
      true
  | .drop =>
      true
  | _ =>
      false

/-- Extract the method that a request uses. -/
def method? : ScopeRequest → Option Method
  | .checkLogin _ =>
      some .checkLogin
  | .notifyLogout _ =>
      some .notifyLogout
  | _ =>
      none

/-- What stands in the slot behind a request that ends a scope. -/
def successor : ScopeRequest → Option Scope
  | .renew =>
      some .fresh
  | _ =>
      none

theorem ends_eq_false
    {request : ScopeRequest}
    {method : Method}
    (isMethod : request.method? = some method) :
    request.ends = false := by
  cases request <;> simp [method?, ends] at isMethod ⊢

end ScopeRequest

/-- The answer of a method that failed. -/
def ScopeAnswer.failed (failure : AuthorityError) : Method → ScopeAnswer
  | .checkLogin =>
      .login (.error failure)
  | .notifyLogout =>
      .logout (.error failure)

/-- The message that a request sends on a session, and the answer that it gets for it. -/
inductive Exchange (session : Nat) (endpoint : Endpoint) :
    ScopeRequest → Dealing → ScopeAnswer → Prop where
  | login {account : String} {reply : Except AuthorityError Reply} :
      Exchange session endpoint (.checkLogin account)
        (.call session endpoint .checkLogin account reply)
        (.login (reply.bind Reply.decision))
  | logout {account : String} {sent : Except AuthorityError Unit} :
      Exchange session endpoint (.notifyLogout account)
        (.send session endpoint .notifyLogout account sent)
        (.logout sent)

theorem Exchange.opened?_eq_none
    {session : Nat}
    {endpoint : Endpoint}
    {request : ScopeRequest}
    {message : Dealing}
    {answer : ScopeAnswer}
    (exchange : Exchange session endpoint request message answer) :
    message.opened? = none := by
  cases exchange <;> rfl

namespace Scope

/-- Whether a scope has used a method. -/
def used (scope : Scope) : Method → Bool
  | .checkLogin =>
      scope.loginChecked
  | .notifyLogout =>
      scope.logoutNotified

/-- A scope that has used one more method. -/
def use (scope : Scope) : Method → Scope
  | .checkLogin =>
      { scope with loginChecked := true }
  | .notifyLogout =>
      { scope with logoutNotified := true }

@[simp] theorem session_use (scope : Scope) (method : Method) :
    (scope.use method).session = scope.session := by
  cases method <;> rfl

@[simp] theorem used_use (scope : Scope) (method other : Method) :
    (scope.use method).used other = (scope.used other || method == other) := by
  cases method <;> cases other <;> simp [use, used]

end Scope

/-- The session that is held in a slot. -/
def slotSessions (slot : Option Scope) : List Nat :=
  (slot.bind Scope.session).toList

/-- The ways in which a request to a slot can go, where `next` is the session opened next. -/
inductive Turn (endpoint : Endpoint) (next : Nat) :
    Option Scope →
    ScopeRequest →
    ScopeAnswer →
    History (Recorded ε) →
    Option Scope →
      Prop where
  | ended {slot : Option Scope} {request : ScopeRequest} {history : History (Recorded ε)} :
      request.ends = true →
      history.dealings = (slotSessions slot).map .release →
      Turn endpoint next slot request .done history request.successor
  | dropped {request : ScopeRequest} :
      request.ends = false →
      Turn endpoint next none request .dropped [] none
  | connected {scope : Scope} :
      Turn endpoint next (some scope) .isConnected (.connected scope.session.isSome) []
        (some scope)
  | repeated {scope : Scope} {request : ScopeRequest} {method : Method} :
      request.method? = some method →
      scope.used method = true →
      Turn endpoint next (some scope) request (.failed (.alreadySent method) method) []
        (some scope)
  | refused {scope : Scope} {request : ScopeRequest} {method : Method}
      {failure : AuthorityError} {history : History (Recorded ε)} :
      request.method? = some method →
      scope.used method = false →
      scope.session = none →
      history.dealings = [.connect next endpoint (.error failure)] →
      Turn endpoint next (some scope) request (.failed failure method) history
        (some (scope.use method))
  | opened {scope : Scope} {request : ScopeRequest} {method : Method}
      {message : Dealing} {answer : ScopeAnswer} {history : History (Recorded ε)} :
      request.method? = some method →
      scope.used method = false →
      scope.session = none →
      history.dealings = [.connect next endpoint (.ok ()), message] →
      Exchange next endpoint request message answer →
      Turn endpoint next (some scope) request answer history
        (some { scope.use method with session := some next })
  | reused {scope : Scope} {request : ScopeRequest} {method : Method} {session : Nat}
      {message : Dealing} {answer : ScopeAnswer} {history : History (Recorded ε)} :
      request.method? = some method →
      scope.used method = false →
      scope.session = some session →
      history.dealings = [message] →
      Exchange session endpoint request message answer →
      Turn endpoint next (some scope) request answer history (some (scope.use method))

namespace Scope

/-- Send the message of a request on a session, and answer as it is answered. -/
def exchange
    (authority : Authority σ ε)
    (session : Nat)
    (endpoint : Endpoint) :
    ScopeRequest → Interaction (World σ) (Effect ε) ScopeAnswer
  | .checkLogin account => do
      .perform (.authority (.call session endpoint .checkLogin account))
      let reply ← (authority.call session endpoint .checkLogin account).ofHost.inWorld
      return .login (reply.bind Reply.decision)
  | .notifyLogout account => do
      .perform (.authority (.send session endpoint .notifyLogout account))
      let sent ← (authority.send session endpoint .notifyLogout account).ofHost.inWorld
      return .logout sent
  | _ =>
      return .done

section Methods

variable (authority : Authority σ ε) (endpoint : Endpoint)
variable {scope : Scope} {request : ScopeRequest} {method : Method}

/-- Both methods go the same way: once in a scope, on a session that is opened if need be. -/
theorem answerSlot_of_method (isMethod : request.method? = some method) :
    ScopeTable.answerSlot authority endpoint request (some scope) =
      if scope.used method then
        return (.failed (.alreadySent method) method, some scope)
      else do
        let (opened, left) ← (scope.use method).ensureSession authority endpoint
        match opened with
        | .error failure =>
            return (.failed failure method, some left)
        | .ok session =>
            let answer ← exchange authority session endpoint request
            return (answer, some left) := by
  cases request with
  | checkLogin account =>
      obtain rfl := Option.some.inj isMethod
      unfold ScopeTable.answerSlot checkLogin
      cases used : scope.loginChecked with
      | true =>
          simp [Scope.used, used, ScopeAnswer.failed]
      | false =>
          simp only [Scope.used, used, Bool.false_eq_true, if_false, bind_assoc]
          refine bind_congr fun ensured => ?_
          obtain ⟨opened, left⟩ := ensured
          cases opened with
          | error failure =>
              rfl
          | ok session =>
              simp only [exchange, bind_assoc, pure_bind]
              refine bind_congr fun _ => bind_congr fun reply => ?_
              cases reply <;> rfl
  | notifyLogout account =>
      obtain rfl := Option.some.inj isMethod
      unfold ScopeTable.answerSlot notifyLogout
      cases used : scope.logoutNotified with
      | true =>
          simp [Scope.used, used, ScopeAnswer.failed]
      | false =>
          simp only [Scope.used, used, Bool.false_eq_true, if_false, bind_assoc]
          refine bind_congr fun ensured => ?_
          obtain ⟨opened, left⟩ := ensured
          cases opened with
          | error failure =>
              rfl
          | ok session =>
              simp only [exchange, bind_assoc, pure_bind]
  | renew =>
      simp [ScopeRequest.method?] at isMethod
  | drop =>
      simp [ScopeRequest.method?] at isMethod
  | isConnected =>
      simp [ScopeRequest.method?] at isMethod

/-- Over a recorded authority an exchange is one message with its answer. -/
theorem exchange_recorded
    (isMethod : request.method? = some method)
    (session : Nat)
    (world : World σ) :
    ∃ message,
      History.dealings
          (run (exchange authority.recorded session endpoint request) world).effects =
          [message] ∧
        Exchange session endpoint request message
          (run (exchange authority.recorded session endpoint request) world).answer ∧
        (run (exchange authority.recorded session endpoint request) world).world.sessionsOpened =
          world.sessionsOpened := by
  cases request with
  | checkLogin account =>
      refine ⟨.call session endpoint .checkLogin account
        (run (authority.call session endpoint .checkLogin account) world.outside).answer,
        ?_, .login, rfl⟩
      simp [exchange, Authority.recorded, -List.map_append]
  | notifyLogout account =>
      refine ⟨.send session endpoint .notifyLogout account
        (run (authority.send session endpoint .notifyLogout account) world.outside).answer,
        ?_, .logout, rfl⟩
      simp [exchange, Authority.recorded, -List.map_append]
  | renew =>
      simp [ScopeRequest.method?] at isMethod
  | drop =>
      simp [ScopeRequest.method?] at isMethod
  | isConnected =>
      simp [ScopeRequest.method?] at isMethod

end Methods

end Scope

/-- A turn goes one of its ways and opens the sessions that its dealings tell. -/
structure TakesTurn
    (endpoint : Endpoint)
    (world : World σ)
    (slot : Option Scope)
    (request : ScopeRequest)
    (report : Report (World σ) (Effect (Recorded ε)) (ScopeAnswer × Option Scope)) : Prop where
  turn :
    Turn endpoint (world.sessionsOpened + 1) slot request report.answer.1 report.effects
      report.answer.2
  sessions :
    report.world.sessionsOpened =
      world.sessionsOpened + (openedSessions (History.dealings report.effects)).length

namespace ScopeTable

variable (authority : Authority σ ε) (endpoint : Endpoint) (world : World σ)

theorem dealings_opening_recorded :
    History.dealings
        (.authority (.connect endpoint) ::
          (authority.recorded.opening endpoint world).effects.map .host) =
      [.connect (world.sessionsOpened + 1) endpoint
        (authority.opening endpoint world).answer] := by
  simp [Authority.opening, Authority.recorded, -List.map_append]

section Methods

variable {scope : Scope} {request : ScopeRequest} {method : Method}

theorem takesTurn_of_used
    (isMethod : request.method? = some method)
    (used : scope.used method = true) :
    TakesTurn endpoint world (some scope) request
      (Interaction.run (answerSlot authority.recorded endpoint request (some scope)) world) := by
  rw [Scope.answerSlot_of_method authority.recorded endpoint isMethod, used]
  exact ⟨.repeated isMethod used, rfl⟩

/-- A method that is not used up goes out on the session that is held. -/
theorem takesTurn_of_held
    {session : Nat}
    (isMethod : request.method? = some method)
    (unused : scope.used method = false)
    (held : scope.session = some session) :
    TakesTurn endpoint world (some scope) request
      (Interaction.run (answerSlot authority.recorded endpoint request (some scope)) world) := by
  have heldAfter : (scope.use method).session = some session := by
    rw [Scope.session_use, held]
  obtain ⟨message, dealings, exchange, sessions⟩ :=
    Scope.exchange_recorded authority endpoint isMethod session world
  rw [Scope.answerSlot_of_method authority.recorded endpoint isMethod, unused]
  simp only [Bool.false_eq_true, if_false, run_bind]
  rw [Scope.run_ensureSession_of_open authority.recorded endpoint world heldAfter]
  simp only [run_bind, run_pure, List.append_nil, List.nil_append]
  refine ⟨.reused isMethod unused held dealings exchange, ?_⟩
  rw [sessions, dealings]
  simp [exchange.opened?_eq_none]

/-- Where no session is held, a method that is not used up asks for one first. -/
theorem takesTurn_of_closed
    (isMethod : request.method? = some method)
    (unused : scope.used method = false)
    (closed : scope.session = none) :
    TakesTurn endpoint world (some scope) request
      (Interaction.run (answerSlot authority.recorded endpoint request (some scope)) world) := by
  have closedAfter : (scope.use method).session = none := by
    rw [Scope.session_use, closed]
  have asked := dealings_opening_recorded authority endpoint world
  rw [Scope.answerSlot_of_method authority.recorded endpoint isMethod, unused]
  simp only [Bool.false_eq_true, if_false, run_bind]
  cases opened : (authority.opening endpoint world).answer with
  | error failure =>
      have refused : (authority.recorded.opening endpoint world).answer = .error failure :=
        opened
      rw [opened] at asked
      rw [Scope.run_ensureSession_of_refused authority.recorded endpoint world closedAfter refused]
      simp only [run_pure, List.append_nil]
      refine ⟨.refused isMethod unused closed asked, ?_⟩
      rw [asked]
      rfl
  | ok _ =>
      have accepted : (authority.recorded.opening endpoint world).answer = .ok () :=
        opened
      rw [opened] at asked
      rw [Scope.run_ensureSession_of_accepted authority.recorded endpoint world closedAfter
        accepted]
      obtain ⟨message, sent, exchange, sessions⟩ :=
        Scope.exchange_recorded authority endpoint isMethod (world.sessionsOpened + 1)
          (world.withOutside
            (authority.recorded.opening endpoint world).world).sessionOpened
      simp only [run_bind, run_pure, List.append_nil]
      refine ⟨.opened isMethod unused closed ?_ exchange, ?_⟩
      · rw [History.dealings_append, asked, sent]
        rfl
      · rw [sessions, History.dealings_append, asked, sent]
        simp only [List.cons_append, List.nil_append, openedSessions_cons,
          openedSessions_nil, exchange.opened?_eq_none]
        rfl

/-- A method takes its turn: it is used up, fails to connect, or sends its message. -/
theorem takesTurn_of_method (isMethod : request.method? = some method) :
    TakesTurn endpoint world (some scope) request
      (Interaction.run (answerSlot authority.recorded endpoint request (some scope)) world) := by
  cases used : scope.used method with
  | true =>
      exact takesTurn_of_used authority endpoint world isMethod used
  | false =>
      cases session : scope.session with
      | some held =>
          exact takesTurn_of_held authority endpoint world isMethod used session
      | none =>
          exact takesTurn_of_closed authority endpoint world isMethod used session

end Methods

/-- Ending a slot gives back the session that it holds, and nothing else. -/
theorem finishSlot_recorded (slot : Option Scope) :
    History.dealings (Interaction.run (finishSlot authority.recorded slot) world).effects =
        (slotSessions slot).map .release ∧
      (Interaction.run (finishSlot authority.recorded slot) world).world.sessionsOpened =
        world.sessionsOpened := by
  cases slot with
  | none =>
      exact ⟨rfl, rfl⟩
  | some scope =>
      unfold finishSlot
      cases held : scope.session with
      | none =>
          rw [Scope.run_finish_of_closed _ _ held]
          simp [slotSessions, held]
      | some session =>
          rw [Scope.run_finish_of_open _ _ held]
          simp [slotSessions, held, Authority.recorded, -List.map_append]

theorem openedSessions_map_release (sessions : List Nat) :
    openedSessions (sessions.map .release) = [] := by
  induction sessions with
  | nil =>
      rfl
  | cons session rest inductionHypothesis =>
      exact inductionHypothesis

theorem takesTurn_of_ends
    {request : ScopeRequest}
    (ends : request.ends = true)
    (slot : Option Scope) :
    TakesTurn endpoint world slot request
      (Interaction.run (answerSlot authority.recorded endpoint request slot) world) := by
  obtain ⟨dealings, sessions⟩ := finishSlot_recorded authority world slot
  have sameRun :
      Interaction.run (answerSlot authority.recorded endpoint request slot) world =
        ⟨(.done, request.successor),
          (Interaction.run (finishSlot authority.recorded slot) world).world,
          (Interaction.run (finishSlot authority.recorded slot) world).effects⟩ := by
    cases request <;>
      simp [ScopeRequest.ends, answerSlot, ScopeRequest.successor] at ends ⊢
  rw [sameRun]
  refine ⟨.ended ends dealings, ?_⟩
  rw [dealings, openedSessions_map_release]
  exact sessions

/-- Every request takes its turn, whatever stands in its slot. -/
theorem takesTurn_answerSlot (request : ScopeRequest) (slot : Option Scope) :
    TakesTurn endpoint world slot request
      (Interaction.run (answerSlot authority.recorded endpoint request slot) world) := by
  cases request with
  | renew =>
      exact takesTurn_of_ends authority endpoint world rfl slot
  | drop =>
      exact takesTurn_of_ends authority endpoint world rfl slot
  | isConnected =>
      cases slot with
      | none =>
          exact ⟨.dropped rfl, rfl⟩
      | some scope =>
          exact ⟨.connected, rfl⟩
  | checkLogin account =>
      cases slot with
      | none =>
          exact ⟨.dropped rfl, rfl⟩
      | some scope =>
          exact takesTurn_of_method authority endpoint world rfl
  | notifyLogout account =>
      cases slot with
      | none =>
          exact ⟨.dropped rfl, rfl⟩
      | some scope =>
          exact takesTurn_of_method authority endpoint world rfl

end ScopeTable

end LoginGate
