import LoginGate.Proofs.Authority.FixedAnswers
import LoginGate.Proofs.Gate.Consultation
import LoginGate.Proofs.Identity.Alike
import LoginGate.Service

namespace LoginGate

/-!
# Gates over outsides that agree

Two gates with one configuration, over databases and authorities that agree,
serve every request alike. Whether one of them has served others before shows
in nothing but the numbers of its sessions.
-/

open Interaction

variable {σ τ ε φ α : Type}

/-- Worlds with related outsides, the first of which has seen more sessions. -/
structure World.Related
    (offset : Nat)
    (related : σ → τ → Prop)
    (world : World σ)
    (other : World τ) : Prop where
  outsides : related world.outside other.outside
  sessions : world.sessionsOpened = other.sessionsOpened + offset

/-- The next sessions of two related worlds are as far apart as those opened before. -/
theorem World.Related.next
    {offset : Nat}
    {related : σ → τ → Prop}
    {world : World σ}
    {other : World τ}
    (areRelated : World.Related offset related world other) :
    world.sessionsOpened + 1 = other.sessionsOpened + 1 + offset := by
  rw [areRelated.sessions, Nat.add_right_comm]

/-- In related worlds two authorities answer alike, on sessions that are an offset apart. -/
structure Authority.Agree
    (offset : Nat)
    (related : σ → τ → Prop)
    (first : Authority σ ε)
    (second : Authority τ φ) : Prop where
  connect :
    ∀ session endpoint,
      Interaction.Agree related (first.connect (session + offset) endpoint)
        (second.connect session endpoint)
  call :
    ∀ session endpoint method account,
      Interaction.Agree related (first.call (session + offset) endpoint method account)
        (second.call session endpoint method account)
  send :
    ∀ session endpoint method account,
      Interaction.Agree related (first.send (session + offset) endpoint method account)
        (second.send session endpoint method account)
  release :
    ∀ session,
      Interaction.Agree related (first.release (session + offset)) (second.release session)

/-- Authorities that give the same answers agree, whatever becomes of their worlds. -/
theorem Authority.Gives.agree
    {answers : AuthorityAnswers}
    {first : Authority σ ε}
    {second : Authority τ φ}
    (firstGives : first.Gives answers)
    (secondGives : second.Gives answers)
    (offset : Nat) :
    first.Agree offset (fun _ _ => True) second := by
  constructor
  case connect =>
    intro session endpoint world other _
    exact ⟨(firstGives.connect ..).trans (secondGives.connect ..).symm, trivial⟩
  case call =>
    intro session endpoint method account world other _
    exact ⟨(firstGives.call ..).trans (secondGives.call ..).symm, trivial⟩
  case send =>
    intro session endpoint method account world other _
    exact ⟨(firstGives.send ..).trans (secondGives.send ..).symm, trivial⟩
  case release =>
    intro session world other _
    exact ⟨rfl, trivial⟩

namespace Interaction

variable {offset : Nat} {related : σ → τ → Prop}

theorem Alike.inWorld
    {first : Interaction σ (Effect ε) α}
    {second : Interaction τ (Effect φ) α}
    (alike : Alike offset related first second) :
    Alike offset (World.Related offset related) first.inWorld second.inWorld := by
  intro world other areRelated
  have before := alike _ _ areRelated.outsides
  exact ⟨before.answer, before.deeds, ⟨before.worlds, areRelated.sessions⟩⟩

theorem alike_recordEvent (event : Event) :
    Alike offset (World.Related offset related)
      (recordEvent event : GateRun σ ε Unit) (recordEvent event : GateRun τ φ Unit) :=
  .perform rfl

end Interaction

namespace Gate

section Deeds

variable (gate : Gate σ ε) (account : String) (world : World σ) (session : Nat) (outside : σ)

theorem deeds_openingEffects :
    History.deeds (gate.openingEffects world) =
      [.authority (.connect gate.configuration.endpoint)] :=
  congrArg (List.cons _) (History.deeds_host _)

theorem deeds_questioningEffects :
    History.deeds (gate.questioningEffects account world) =
      [.authority (.call (world.sessionsOpened + 1) gate.configuration.endpoint .checkLogin
        account)] :=
  congrArg (List.cons _) (History.deeds_host _)

theorem deeds_notifyingEffects :
    History.deeds (gate.notifyingEffects account world) =
      [.authority (.send (world.sessionsOpened + 1) gate.configuration.endpoint .notifyLogout
        account)] :=
  congrArg (List.cons _) (History.deeds_host _)

theorem deeds_releasingEffects :
    History.deeds (gate.releasingEffects session outside) = [.authority (.release session)] :=
  congrArg (List.cons _) (History.deeds_host _)

end Deeds

section Dealings

variable {offset : Nat} {related : σ → τ → Prop}
variable {first : Gate σ ε} {second : Gate τ φ}
variable (sameEndpoint : first.configuration.endpoint = second.configuration.endpoint)
variable (agree : first.authority.Agree offset related second.authority)
variable (phase : Phase) (account : String) (named : Option String)
variable {world : World σ} {other : World τ}

include sameEndpoint agree

theorem opening_agree (areRelated : World.Related offset related world other) :
    (first.opening world).answer = (second.opening other).answer ∧
      related (first.opening world).world (second.opening other).world := by
  unfold Gate.opening Authority.opening
  rw [areRelated.next, sameEndpoint]
  exact agree.connect _ _ _ _ areRelated.outsides

theorem questioning_agree (areRelated : World.Related offset related world other) :
    (first.questioning account world).answer = (second.questioning account other).answer ∧
      related (first.questioning account world).world
        (second.questioning account other).world := by
  have opened := opening_agree sameEndpoint agree areRelated
  unfold Gate.questioning Authority.questioning
  rw [areRelated.next, sameEndpoint]
  rw [Gate.opening, sameEndpoint] at opened
  exact agree.call _ _ _ _ _ _ opened.2

theorem notifying_agree (areRelated : World.Related offset related world other) :
    (first.notifying account world).answer = (second.notifying account other).answer ∧
      related (first.notifying account world).world (second.notifying account other).world := by
  have opened := opening_agree sameEndpoint agree areRelated
  unfold Gate.notifying Authority.notifying
  rw [areRelated.next, sameEndpoint]
  rw [Gate.opening, sameEndpoint] at opened
  exact agree.send _ _ _ _ _ _ opened.2

omit sameEndpoint in
theorem releasing_agree
    {session otherSession : Nat}
    (apart : session = otherSession + offset)
    {outside : σ}
    {otherOutside : τ}
    (outsides : related outside otherOutside) :
    related (first.releasing session outside).world
      (second.releasing otherSession otherOutside).world := by
  subst apart
  exact (agree.release otherSession _ _ outsides).2

/-- A question to the authority is put alike. -/
theorem alike_queryAuthority :
    Alike offset (World.Related offset related) (first.queryAuthority account)
      (second.queryAuthority account) := by
  -- The number of the session depends on the world, so the rules for sequences do not apply.
  intro world other areRelated
  obtain ⟨sameOpening, opened⟩ := opening_agree sameEndpoint agree areRelated
  cases accepted : (second.opening other).answer with
  | error failure =>
      rw [first.run_queryAuthority_of_refused account (sameOpening.trans accepted),
        second.run_queryAuthority_of_refused account accepted]
      refine ⟨rfl, ?_, ⟨opened, areRelated.sessions⟩⟩
      rw [deeds_openingEffects, deeds_openingEffects, sameEndpoint]
      rfl
  | ok _ =>
      obtain ⟨sameReply, questioned⟩ := questioning_agree sameEndpoint agree account areRelated
      rw [first.run_queryAuthority_of_accepted account (sameOpening.trans accepted),
        second.run_queryAuthority_of_accepted account accepted]
      refine ⟨congrArg (Except.bind · Reply.decision) sameReply, ?_,
        ⟨releasing_agree agree areRelated.next questioned, areRelated.next⟩⟩
      simp only [History.deeds_append, deeds_openingEffects, deeds_questioningEffects,
        deeds_releasingEffects, sameEndpoint, areRelated.next]
      rfl

theorem alike_askAuthority :
    Alike offset (World.Related offset related) (first.askAuthority phase account)
      (second.askAuthority phase account) := by
  refine .bind (alike_queryAuthority sameEndpoint agree account) ?_
  intro answer
  cases answer with
  | error failure =>
      refine .bind (.bind (alike_recordEvent _) fun _ => alike_recordEvent _) fun _ => ?_
      exact .bind (.bind (alike_recordEvent _) fun _ => alike_recordEvent _) fun _ => .pure _
  | ok consent =>
      cases consent with
      | false =>
          exact .bind (.bind (alike_recordEvent _) fun _ => alike_recordEvent _) fun _ => .pure _
      | true =>
          exact .bind (alike_recordEvent _) fun _ => .pure _

theorem alike_decideStrictly :
    Alike offset (World.Related offset related) (first.decideStrictly phase named)
      (second.decideStrictly phase named) := by
  refine .bind (alike_recordEvent _) fun _ => ?_
  cases presentAccount named with
  | none =>
      exact .bind (alike_recordEvent _) fun _ => .pure _
  | some account =>
      exact alike_askAuthority sameEndpoint agree phase account

omit sameEndpoint agree in
theorem deeds_noticeEffects (sent : Except AuthorityError Unit) :
    History.deeds (noticeEffects account sent : History ε) =
      (History.deeds (noticeEffects account sent : History φ)).behind offset := by
  cases sent <;> rfl

/-- The end of a session is announced alike. -/
theorem alike_announceSessionEnd :
    Alike offset (World.Related offset related) (first.announceSessionEnd named)
      (second.announceSessionEnd named) := by
  intro world other areRelated
  cases present : presentAccount named with
  | none =>
      rw [first.run_announceSessionEnd_of_nobody present,
        second.run_announceSessionEnd_of_nobody present]
      exact ⟨rfl, rfl, areRelated⟩
  | some account =>
      obtain ⟨sameOpening, opened⟩ := opening_agree sameEndpoint agree areRelated
      cases accepted : (second.opening other).answer with
      | error failure =>
          rw [first.run_announceSessionEnd_of_refused account present
              (sameOpening.trans accepted),
            second.run_announceSessionEnd_of_refused account present accepted]
          refine ⟨rfl, ?_, ⟨opened, areRelated.sessions⟩⟩
          simp only [History.deeds_append, deeds_openingEffects, sameEndpoint]
          rfl
      | ok _ =>
          obtain ⟨sameSending, sent⟩ := notifying_agree sameEndpoint agree account areRelated
          rw [first.run_announceSessionEnd_of_accepted account present
              (sameOpening.trans accepted),
            second.run_announceSessionEnd_of_accepted account present accepted, sameSending]
          refine ⟨rfl, ?_, ⟨releasing_agree agree areRelated.next sent, areRelated.next⟩⟩
          simp only [History.deeds_append, History.behind_append, deeds_openingEffects,
            deeds_notifyingEffects, deeds_releasingEffects, sameEndpoint, areRelated.next]
          rw [deeds_noticeEffects account]
          rfl

end Dealings

/-- Gates with one configuration, over databases and authorities that agree. -/
structure Agree
    (offset : Nat)
    (related : σ → τ → Prop)
    (first : Gate σ ε)
    (second : Gate τ φ) : Prop where
  configuration : first.configuration = second.configuration
  database : first.database.Agree related second.database
  authority : first.authority.Agree offset related second.authority

section Requests

variable {offset : Nat} {related : σ → τ → Prop}
variable {first : Gate σ ε} {second : Gate τ φ}
variable (agree : Agree offset related first second)
variable (phase : Phase) (named : Option String)

include agree

theorem alike_decideWithExemptions :
    Alike offset (World.Related offset related) (first.decideWithExemptions phase named)
      (second.decideWithExemptions phase named) := by
  have sameEndpoint := congrArg Configuration.endpoint agree.configuration
  refine .bind (alike_recordEvent _) fun _ => ?_
  cases presentAccount named with
  | none =>
      exact .bind (alike_recordEvent _) fun _ => .pure _
  | some account =>
      have lookedUp :
          Alike offset (World.Related offset related)
            (first.database.exemption first.configuration.bypass account).inWorld
            (second.database.exemption second.configuration.bypass account).inWorld := by
        rw [agree.configuration]
        exact (IdentityDatabase.alike_exemption agree.database offset _ account).inWorld
      refine .bind lookedUp ?_
      intro answer
      cases answer with
      | error failure =>
          exact .bind (alike_recordEvent _) fun _ =>
            alike_askAuthority sameEndpoint agree.authority phase account
      | ok found =>
          cases found with
          | none =>
              exact alike_askAuthority sameEndpoint agree.authority phase account
          | some exemption =>
              cases exemption <;> exact .bind (alike_recordEvent _) fun _ => .pure _

theorem alike_answer :
    Alike offset (World.Related offset related) (first.answer phase named)
      (second.answer phase named) := by
  have sameEndpoint := congrArg Configuration.endpoint agree.configuration
  cases phase with
  | authenticate =>
      exact .bind (alike_decideWithExemptions agree .authenticate named) fun _ => .pure _
  | setCredentials =>
      exact .pure _
  | accountManagement =>
      exact .bind (alike_decideWithExemptions agree .accountManagement named) fun _ => .pure _
  | openSession =>
      exact .bind (alike_decideStrictly sameEndpoint agree.authority .openSession named)
        fun _ => .pure _
  | closeSession =>
      exact alike_announceSessionEnd sameEndpoint agree.authority named

/-- Every request is served alike. -/
theorem alike_serve (request : GateRequest) :
    Alike offset (World.Related offset related) (first.serve request)
      (second.serve request) := by
  have sameEndpoint := congrArg Configuration.endpoint agree.configuration
  cases request with
  | checkpoint phase named =>
      exact .map _ (alike_answer agree phase named)
  | checkpointBytes phase bytes =>
      exact .map _ (alike_answer agree phase _)
  | decideWithExemptions phase named =>
      exact .map _ (alike_decideWithExemptions agree phase named)
  | decideStrictly phase named =>
      exact .map _ (alike_decideStrictly sameEndpoint agree.authority phase named)
  | sessionEnd named =>
      exact .map _ (alike_announceSessionEnd sameEndpoint agree.authority named)

end Requests

end Gate

end LoginGate
