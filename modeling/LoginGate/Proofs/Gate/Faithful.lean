import LoginGate.Proofs.Authority.Faithful
import LoginGate.Service

namespace LoginGate

/-!
# The record of a gate changes nothing

A gate over a recorded authority answers like the gate itself, in every state of
the outside, and leaves the same world and the same history behind apart from
the record.
-/

open Interaction

variable {σ ε α : Type}

namespace Interaction

theorem withoutRecord_identity (call : IdentityCall) :
    (perform (.identity call) : Interaction σ (Effect (Recorded ε)) Unit).withoutRecord =
      perform (.identity call) :=
  rfl

theorem withoutRecord_note (made : Note) :
    (perform (.note made) : Interaction σ (Effect (Recorded ε)) Unit).withoutRecord =
      perform (.note made) :=
  rfl

theorem withoutRecord_recordEvent (event : Event) :
    (recordEvent event : GateRun σ (Recorded ε) Unit).withoutRecord = recordEvent event :=
  rfl

end Interaction

namespace IdentityDatabase

variable (database : IdentityDatabase σ ε) (account : String)

theorem withoutRecord_askPrimaryGroup :
    (database.recorded.askPrimaryGroup account).withoutRecord =
      database.askPrimaryGroup account := by
  unfold askPrimaryGroup
  rw [withoutRecord_bind, withoutRecord_identity, recorded, withoutRecord_ofHost_unrecorded]

theorem withoutRecord_askGroupList (primary : GroupId) (capacity : Nat) :
    (database.recorded.askGroupList account primary capacity).withoutRecord =
      database.askGroupList account primary capacity := by
  unfold askGroupList
  rw [withoutRecord_bind, withoutRecord_identity, recorded, withoutRecord_ofHost_unrecorded]

theorem withoutRecord_askGroupId (group : String) :
    (database.recorded.askGroupId group).withoutRecord = database.askGroupId group := by
  unfold askGroupId
  rw [withoutRecord_bind, withoutRecord_identity, recorded, withoutRecord_ofHost_unrecorded]

theorem withoutRecord_readGroupList (primary : GroupId) (attempts capacity : Nat) :
    (database.recorded.readGroupList account primary attempts capacity).withoutRecord =
      database.readGroupList account primary attempts capacity := by
  induction attempts generalizing capacity with
  | zero =>
      rfl
  | succ attempts inductionHypothesis =>
      unfold readGroupList
      rw [withoutRecord_bind, withoutRecord_askGroupList]
      refine bind_congr fun pair => ?_
      obtain ⟨answer, buffer⟩ := pair
      cases answer with
      | error failure =>
          rfl
      | ok fill =>
          cases fill with
          | complete count =>
              rfl
          | insufficient required =>
              dsimp only
              split
              · rfl
              · rw [withoutRecord_bind, withoutRecord_note, inductionHypothesis]

theorem withoutRecord_membership :
    (database.recorded.membership account).withoutRecord = database.membership account := by
  unfold membership
  rw [withoutRecord_bind, withoutRecord_askPrimaryGroup]
  refine bind_congr fun answer => ?_
  cases answer with
  | error failure =>
      rfl
  | ok known =>
      cases known with
      | none =>
          rfl
      | some primary =>
          dsimp only
          rw [withoutRecord_bind, groupList, withoutRecord_readGroupList]
          refine bind_congr fun listed => ?_
          cases listed <;> rfl

theorem withoutRecord_firstGroupOf (membership : Membership) (names : List String) :
    (database.recorded.firstGroupOf membership names).withoutRecord =
      database.firstGroupOf membership names := by
  induction names with
  | nil =>
      rfl
  | cons name rest inductionHypothesis =>
      unfold firstGroupOf
      rw [withoutRecord_bind, withoutRecord_askGroupId]
      refine bind_congr fun answer => ?_
      cases answer with
      | error failure =>
          dsimp only
          rw [withoutRecord_bind, withoutRecord_note, inductionHypothesis]
      | ok found =>
          cases found with
          | none =>
              exact inductionHypothesis
          | some group =>
              dsimp only
              split
              · rfl
              · exact inductionHypothesis

theorem withoutRecord_exemption (rules : BypassRules) :
    (database.recorded.exemption rules account).withoutRecord =
      database.exemption rules account := by
  unfold exemption bypassGroupOf
  rw [withoutRecord_bind, withoutRecord_bind, withoutRecord_membership]
  refine congrArg (· >>= _) (bind_congr fun answer => ?_)
  cases answer with
  | error failure =>
      rfl
  | ok known =>
      cases known with
      | none =>
          rfl
      | some membership =>
          dsimp only
          rw [withoutRecord_bind, withoutRecord_firstGroupOf]
          rfl

end IdentityDatabase

namespace Gate

variable (gate : Gate σ ε) (phase : Phase) (account : String) (named : Option String)

theorem withoutRecord_queryAuthority :
    (gate.recorded.queryAuthority account).withoutRecord = gate.queryAuthority account := by
  unfold queryAuthority
  rw [withoutRecord_bind, recorded, Scope.withoutRecord_checkLogin]
  refine bind_congr fun pair => ?_
  obtain ⟨answer, left⟩ := pair
  dsimp only
  rw [withoutRecord_bind, Scope.withoutRecord_finish]
  rfl

theorem withoutRecord_askAuthority :
    (gate.recorded.askAuthority phase account).withoutRecord =
      gate.askAuthority phase account := by
  unfold askAuthority
  rw [withoutRecord_bind, withoutRecord_queryAuthority]
  refine bind_congr fun answer => ?_
  cases answer with
  | error failure =>
      rfl
  | ok consent =>
      cases consent <;> rfl

theorem withoutRecord_decideWithExemptions :
    (gate.recorded.decideWithExemptions phase named).withoutRecord =
      gate.decideWithExemptions phase named := by
  unfold decideWithExemptions
  rw [withoutRecord_bind]
  refine bind_congr fun _ => ?_
  cases presentAccount named with
  | none =>
      rfl
  | some account =>
      dsimp only
      rw [withoutRecord_bind, withoutRecord_inWorld, recorded,
        IdentityDatabase.withoutRecord_exemption]
      refine bind_congr fun answer => ?_
      cases answer with
      | error failure =>
          dsimp only
          rw [withoutRecord_bind, withoutRecord_recordEvent]
          exact bind_congr fun _ => gate.withoutRecord_askAuthority phase account
      | ok found =>
          cases found with
          | none =>
              exact gate.withoutRecord_askAuthority phase account
          | some exemption =>
              cases exemption <;> rfl

theorem withoutRecord_decideStrictly :
    (gate.recorded.decideStrictly phase named).withoutRecord =
      gate.decideStrictly phase named := by
  unfold decideStrictly
  rw [withoutRecord_bind]
  refine bind_congr fun _ => ?_
  cases presentAccount named with
  | none =>
      rfl
  | some account =>
      exact gate.withoutRecord_askAuthority phase account

theorem withoutRecord_announceSessionEnd :
    (gate.recorded.announceSessionEnd named).withoutRecord = gate.announceSessionEnd named := by
  unfold announceSessionEnd
  cases presentAccount named with
  | none =>
      rfl
  | some account =>
      dsimp only
      rw [withoutRecord_bind, recorded, Scope.withoutRecord_notifyLogout]
      refine bind_congr fun pair => ?_
      obtain ⟨sent, left⟩ := pair
      cases sent <;>
        simp only [withoutRecord_bind, withoutRecord_recordEvent, Scope.withoutRecord_finish] <;>
        rfl

theorem withoutRecord_answer :
    (gate.recorded.answer phase named).withoutRecord = gate.answer phase named := by
  cases phase with
  | authenticate =>
      simp only [answer, withoutRecord_bind, withoutRecord_decideWithExemptions]
      rfl
  | setCredentials =>
      rfl
  | accountManagement =>
      simp only [answer, withoutRecord_bind, withoutRecord_decideWithExemptions]
      rfl
  | openSession =>
      simp only [answer, withoutRecord_bind, withoutRecord_decideStrictly]
      rfl
  | closeSession =>
      exact gate.withoutRecord_announceSessionEnd named

theorem withoutRecord_serve (request : GateRequest) :
    (gate.recorded.serve request).withoutRecord = gate.serve request := by
  cases request with
  | checkpoint phase named =>
      rw [serve, withoutRecord_map, withoutRecord_answer]
      rfl
  | checkpointBytes phase bytes =>
      rw [serve, withoutRecord_map, answerBytes, withoutRecord_answer]
      rfl
  | decideWithExemptions phase named =>
      rw [serve, withoutRecord_map, withoutRecord_decideWithExemptions]
      rfl
  | decideStrictly phase named =>
      rw [serve, withoutRecord_map, withoutRecord_decideStrictly]
      rfl
  | sessionEnd named =>
      rw [serve, withoutRecord_map, withoutRecord_announceSessionEnd]
      rfl

theorem run_serve_of_recorded (request : GateRequest) (world : World σ) :
    run (gate.serve request) world =
      let recorded := run (gate.recorded.serve request) world
      ⟨recorded.answer, recorded.world, History.withoutRecord recorded.effects⟩ := by
  rw [← withoutRecord_serve, run_withoutRecord]

/-- A run of a gate over a recorded authority is the run of the gate itself. -/
theorem run_serveEach_of_recorded (requests : List GateRequest) (world : World σ) :
    run (gate.serveEach requests) world =
      let recorded := run (gate.recorded.serveEach requests) world
      ⟨recorded.answer.map fun step => (step.1, History.withoutRecord step.2), recorded.world,
        History.withoutRecord recorded.effects⟩ := by
  unfold serveEach
  induction requests generalizing world with
  | nil =>
      rfl
  | cons request rest inductionHypothesis =>
      simp [transcript, run_serve_of_recorded gate, inductionHypothesis]

end Gate

end LoginGate
