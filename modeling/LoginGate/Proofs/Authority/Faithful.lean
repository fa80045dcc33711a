import LoginGate.Proofs.Authority.Recorded
import LoginGate.Proofs.Authority.Table

namespace LoginGate

/-!
# The record of a scope changes nothing

Leaving the record out of a run over a recorded authority gives back the run
over the authority itself: the same answers, the same worlds, and the same
history.
-/

open Interaction

variable {σ ε α β : Type}

@[simp] theorem History.withoutRecord_append (first second : History (Recorded ε)) :
    withoutRecord (first ++ second) = withoutRecord first ++ withoutRecord second := by
  simp [withoutRecord]

namespace Interaction

/-- A computation with the record left out of its effects. -/
def withoutRecord (interaction : Interaction σ (Effect (Recorded ε)) α) :
    Interaction σ (Effect ε) α :=
  interaction.retell Effect.withoutRecord

theorem withoutRecord_pure (answer : α) :
    (pure answer : Interaction σ (Effect (Recorded ε)) α).withoutRecord = pure answer :=
  rfl

theorem withoutRecord_bind
    (first : Interaction σ (Effect (Recorded ε)) α)
    (next : α → Interaction σ (Effect (Recorded ε)) β) :
    (first >>= next).withoutRecord =
      first.withoutRecord >>= fun answer => (next answer).withoutRecord := by
  apply ext_run
  intro world
  simp [withoutRecord]

theorem withoutRecord_map
    (function : α → β)
    (interaction : Interaction σ (Effect (Recorded ε)) α) :
    (function <$> interaction).withoutRecord = function <$> interaction.withoutRecord := by
  apply ext_run
  intro world
  simp [withoutRecord]

theorem withoutRecord_ask (question : σ → α × σ) :
    (ask question : Interaction σ (Effect (Recorded ε)) α).withoutRecord = ask question :=
  rfl

theorem withoutRecord_authority (action : AuthorityAction) :
    (perform (.authority action) : Interaction σ (Effect (Recorded ε)) Unit).withoutRecord =
      perform (.authority action) :=
  rfl

theorem withoutRecord_inWorld (interaction : Interaction σ (Effect (Recorded ε)) α) :
    interaction.inWorld.withoutRecord = interaction.withoutRecord.inWorld :=
  rfl

@[simp] theorem run_withoutRecord
    (interaction : Interaction σ (Effect (Recorded ε)) α)
    (world : σ) :
    run interaction.withoutRecord world =
      ⟨(run interaction world).answer, (run interaction world).world,
        History.withoutRecord (run interaction world).effects⟩ :=
  rfl

/-- Effects that are no record are kept. -/
theorem withoutRecord_own (effects : List ε) :
    History.withoutRecord (effects.map (Effect.host ∘ Sum.inl)) = effects.map .host := by
  induction effects with
  | nil =>
      rfl
  | cons effect rest inductionHypothesis =>
      exact congrArg (Effect.host effect :: ·) inductionHypothesis

theorem withoutRecord_ofHost_unrecorded (interaction : Interaction σ ε α) :
    interaction.unrecorded.ofHost.withoutRecord = interaction.ofHost := by
  apply ext_run
  intro world
  simp only [run_withoutRecord, run_ofHost, run_unrecorded, List.map_map, withoutRecord_own]

theorem withoutRecord_ofHost_recordedAs
    (dealing : α → Dealing)
    (interaction : Interaction σ ε α) :
    (interaction.recordedAs dealing).ofHost.withoutRecord = interaction.ofHost := by
  apply ext_run
  intro world
  simp only [run_withoutRecord, run_ofHost, run_recordedAs, List.map_append, List.map_map,
    History.withoutRecord_append, withoutRecord_own]
  simp [History.withoutRecord, Effect.withoutRecord]

end Interaction

namespace Scope

variable (authority : Authority σ ε) (endpoint : Endpoint) (account : String) (scope : Scope)

theorem withoutRecord_ensureSession :
    (scope.ensureSession authority.recorded endpoint).withoutRecord =
      scope.ensureSession authority endpoint := by
  unfold ensureSession
  cases scope.session with
  | some session =>
      rfl
  | none =>
      simp only [withoutRecord_bind, withoutRecord_ask, withoutRecord_authority]
      refine bind_congr fun world => bind_congr fun _ => ?_
      rw [withoutRecord_inWorld, Authority.recorded, withoutRecord_ofHost_recordedAs]
      refine bind_congr fun answer => ?_
      cases answer <;> rfl

theorem withoutRecord_checkLogin :
    (scope.checkLogin authority.recorded endpoint account).withoutRecord =
      scope.checkLogin authority endpoint account := by
  unfold checkLogin
  split
  · rfl
  · simp only [withoutRecord_bind, withoutRecord_ensureSession]
    refine bind_congr fun pair => ?_
    obtain ⟨opened, left⟩ := pair
    cases opened with
    | error failure =>
        rfl
    | ok session =>
        simp only [withoutRecord_bind, withoutRecord_authority]
        refine bind_congr fun _ => ?_
        rw [withoutRecord_inWorld, Authority.recorded, withoutRecord_ofHost_recordedAs]
        refine bind_congr fun answer => ?_
        cases answer <;> rfl

theorem withoutRecord_notifyLogout :
    (scope.notifyLogout authority.recorded endpoint account).withoutRecord =
      scope.notifyLogout authority endpoint account := by
  unfold notifyLogout
  split
  · rfl
  · simp only [withoutRecord_bind, withoutRecord_ensureSession]
    refine bind_congr fun pair => ?_
    obtain ⟨opened, left⟩ := pair
    cases opened with
    | error failure =>
        rfl
    | ok session =>
        simp only [withoutRecord_bind, withoutRecord_authority]
        refine bind_congr fun _ => ?_
        rw [withoutRecord_inWorld, Authority.recorded, withoutRecord_ofHost_recordedAs]
        rfl

theorem withoutRecord_finish :
    (scope.finish authority.recorded).withoutRecord = scope.finish authority := by
  unfold finish
  cases scope.session with
  | none =>
      rfl
  | some session =>
      simp only [withoutRecord_bind, withoutRecord_authority]
      refine bind_congr fun _ => ?_
      rw [withoutRecord_inWorld, Authority.recorded, withoutRecord_ofHost_recordedAs]

end Scope

namespace ScopeTable

variable (authority : Authority σ ε) (endpoint : Endpoint)

/-- A step with the record left out of its history. -/
def Step.withoutRecord (step : Step (Recorded ε)) : Step ε :=
  { step with history := step.history.withoutRecord }

theorem withoutRecord_finishSlot (slot : Option Scope) :
    (finishSlot authority.recorded slot).withoutRecord = finishSlot authority slot := by
  cases slot with
  | none =>
      rfl
  | some scope =>
      exact scope.withoutRecord_finish authority

theorem withoutRecord_answerSlot (request : ScopeRequest) (slot : Option Scope) :
    (answerSlot authority.recorded endpoint request slot).withoutRecord =
      answerSlot authority endpoint request slot := by
  cases request with
  | renew =>
      simp only [answerSlot, withoutRecord_bind, withoutRecord_finishSlot, withoutRecord_pure]
  | drop =>
      simp only [answerSlot, withoutRecord_bind, withoutRecord_finishSlot, withoutRecord_pure]
  | isConnected =>
      cases slot <;> rfl
  | checkLogin account =>
      cases slot with
      | none =>
          rfl
      | some scope =>
          simp only [answerSlot, withoutRecord_bind, Scope.withoutRecord_checkLogin,
            withoutRecord_pure]
  | notifyLogout account =>
      cases slot with
      | none =>
          rfl
      | some scope =>
          simp only [answerSlot, withoutRecord_bind, Scope.withoutRecord_notifyLogout,
            withoutRecord_pure]

theorem withoutRecord_answer
    (number : Nat)
    (request : ScopeRequest)
    (table : ScopeTable) :
    (table.answer authority.recorded endpoint number request).withoutRecord =
      table.answer authority endpoint number request := by
  rw [answer_eq_answerSlot, answer_eq_answerSlot, withoutRecord_map, withoutRecord_answerSlot]

theorem withoutRecord_finishAll (table : ScopeTable) :
    (table.finishAll authority.recorded).withoutRecord = table.finishAll authority := by
  induction table with
  | nil =>
      rfl
  | cons slot rest inductionHypothesis =>
      simp only [finishAll, withoutRecord_bind, withoutRecord_finishSlot, inductionHypothesis]

theorem run_answer_of_recorded
    (number : Nat)
    (request : ScopeRequest)
    (table : ScopeTable)
    (world : World σ) :
    Interaction.run (table.answer authority endpoint number request) world =
      let recorded :=
        Interaction.run (table.answer authority.recorded endpoint number request) world
      ⟨recorded.answer, recorded.world, History.withoutRecord recorded.effects⟩ := by
  rw [← withoutRecord_answer, run_withoutRecord]

theorem run_finishAll_of_recorded (table : ScopeTable) (world : World σ) :
    Interaction.run (table.finishAll authority) world =
      let recorded := Interaction.run (table.finishAll authority.recorded) world
      ⟨recorded.answer, recorded.world, History.withoutRecord recorded.effects⟩ := by
  rw [← withoutRecord_finishAll, run_withoutRecord]

/-- The steps of scopes over a recorded authority are those over the authority itself. -/
theorem run_answerEach_of_recorded
    (requests : List (Nat × ScopeRequest))
    (table : ScopeTable)
    (world : World σ) :
    Interaction.run (answerEach authority endpoint requests table) world =
      let recorded :=
        Interaction.run (answerEach authority.recorded endpoint requests table) world
      ⟨(recorded.answer.1.map Step.withoutRecord, recorded.answer.2), recorded.world,
        History.withoutRecord recorded.effects⟩ := by
  induction requests generalizing table world with
  | nil =>
      rfl
  | cons first rest inductionHypothesis =>
      obtain ⟨number, request⟩ := first
      simp [answerEach, run_answer_of_recorded authority endpoint, inductionHypothesis,
        Step.withoutRecord]

/-- A run of scopes over a recorded authority is the run over the authority itself. -/
theorem run_run_of_recorded (requests : List (Nat × ScopeRequest)) (world : World σ) :
    Interaction.run (ScopeTable.run authority endpoint requests) world =
      let recorded := Interaction.run (ScopeTable.run authority.recorded endpoint requests) world
      ⟨(recorded.answer.1.map Step.withoutRecord, History.withoutRecord recorded.answer.2),
        recorded.world, History.withoutRecord recorded.effects⟩ := by
  simp [ScopeTable.run, run_answerEach_of_recorded authority endpoint,
    run_finishAll_of_recorded authority]

end ScopeTable

end LoginGate
