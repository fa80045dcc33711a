import LoginGate.Proofs.Authority.Dealing

namespace LoginGate

/-!
# Recorded authorities

The effects of a recorded authority are its own effects and the record of its
dealings. The record is made behind the answer, so it never changes what happens,
and leaving it out gives back the run without it.
-/

open Interaction

/-- The effects of an outside beside the record of the dealings with it. -/
abbrev Recorded (ε : Type) :=
  ε ⊕ Dealing

variable {σ ε α : Type}

namespace Interaction

/-- The same computation of an outside that records nothing. -/
def unrecorded (interaction : Interaction σ ε α) : Interaction σ (Recorded ε) α :=
  interaction.retell fun effect => [.inl effect]

/-- The same computation of an outside, with a record of its answer. -/
def recordedAs (dealing : α → Dealing) (interaction : Interaction σ ε α) :
    Interaction σ (Recorded ε) α := do
  let answer ← interaction.unrecorded
  .perform (.inr (dealing answer))
  return answer

@[simp] theorem run_unrecorded (interaction : Interaction σ ε α) (world : σ) :
    run interaction.unrecorded world =
      ⟨(run interaction world).answer, (run interaction world).world,
        (run interaction world).effects.map .inl⟩ := by
  simp [unrecorded, List.map_eq_flatMap]

@[simp] theorem run_recordedAs
    (dealing : α → Dealing)
    (interaction : Interaction σ ε α)
    (world : σ) :
    run (interaction.recordedAs dealing) world =
      ⟨(run interaction world).answer, (run interaction world).world,
        (run interaction world).effects.map .inl ++
          [.inr (dealing (run interaction world).answer)]⟩ := by
  simp [recordedAs]

end Interaction

/-- An authority that also records its dealings. -/
def Authority.recorded (authority : Authority σ ε) : Authority σ (Recorded ε) where
  connect session endpoint :=
    (authority.connect session endpoint).recordedAs (.connect session endpoint)
  call session endpoint method account :=
    (authority.call session endpoint method account).recordedAs
      (.call session endpoint method account)
  send session endpoint method account :=
    (authority.send session endpoint method account).recordedAs
      (.send session endpoint method account)
  release session :=
    (authority.release session).recordedAs fun _ => .release session

/-- A database beside a recorded authority. -/
def IdentityDatabase.recorded (database : IdentityDatabase σ ε) :
    IdentityDatabase σ (Recorded ε) where
  primaryGroup account :=
    (database.primaryGroup account).unrecorded
  fillGroupList account primary _ buffer :=
    (database.fillGroupList account primary buffer).unrecorded
  groupId group :=
    (database.groupId group).unrecorded

/-- A gate whose authority is recorded. -/
def Gate.recorded (gate : Gate σ ε) : Gate σ (Recorded ε) where
  configuration := gate.configuration
  database := gate.database.recorded
  authority := gate.authority.recorded

/-- A question to the account database or a dealing with the authority. -/
inductive Contact where
  | lookup (call : IdentityCall)
  | dealing (dealing : Dealing)

/-- Extract a dealing with the authority. -/
def Contact.dealing? : Contact → Option Dealing
  | .lookup _ =>
      none
  | .dealing made =>
      some made

namespace Effect

/-- Extract a recorded dealing. -/
def dealing? : Effect (Recorded ε) → Option Dealing
  | .host (.inr dealing) =>
      some dealing
  | _ =>
      none

/-- Extract a look-up or a recorded dealing. -/
def contact? : Effect (Recorded ε) → Option Contact
  | .identity call =>
      some (.lookup call)
  | .host (.inr dealing) =>
      some (.dealing dealing)
  | _ =>
      none

/-- An effect with the record left out. -/
def withoutRecord : Effect (Recorded ε) → List (Effect ε)
  | .identity call =>
      [.identity call]
  | .authority action =>
      [.authority action]
  | .note made =>
      [.note made]
  | .event recorded =>
      [.event recorded]
  | .host (.inl effect) =>
      [.host effect]
  | .host (.inr _) =>
      []

end Effect

namespace History

/-- The recorded dealings, in order. -/
def dealings (history : History (Recorded ε)) : List Dealing :=
  history.filterMap Effect.dealing?

/-- The look-ups and the recorded dealings, in order. -/
def contacts (history : History (Recorded ε)) : List Contact :=
  history.filterMap Effect.contact?

/-- A history with the record left out. -/
def withoutRecord (history : History (Recorded ε)) : History ε :=
  history.flatMap Effect.withoutRecord

variable (first second : History (Recorded ε))

@[simp] theorem dealings_nil : dealings ([] : History (Recorded ε)) = [] :=
  rfl

@[simp] theorem dealings_append :
    dealings (first ++ second) = dealings first ++ dealings second := by
  simp [dealings]

@[simp] theorem contacts_append :
    contacts (first ++ second) = contacts first ++ contacts second := by
  simp [contacts]

/-- The dealings are the contacts without the look-ups. -/
theorem dealings_eq_contacts (history : History (Recorded ε)) :
    history.dealings = history.contacts.filterMap Contact.dealing? := by
  unfold dealings contacts
  rw [List.filterMap_filterMap]
  congr
  funext effect
  cases effect with
  | host effect =>
      cases effect <;> rfl
  | _ =>
      rfl

@[simp] theorem dealings_cons_authority (action : AuthorityAction) :
    dealings (.authority action :: first) = dealings first :=
  rfl

@[simp] theorem contacts_cons_authority (action : AuthorityAction) :
    contacts (.authority action :: first) = contacts first :=
  rfl

@[simp] theorem contacts_events (events : List Event) :
    contacts (events.map .event : History (Recorded ε)) = [] := by
  induction events with
  | nil =>
      rfl
  | cons event rest inductionHypothesis =>
      exact inductionHypothesis

@[simp] theorem events_map_event (events : List Event) :
    History.events (events.map .event : History ε) = events := by
  simp [History.events, Function.comp_def, Effect.event?]

/-- A computation that records nothing leaves no dealing. -/
@[simp] theorem contacts_own (effects : List ε) :
    contacts (effects.map (Effect.host ∘ Sum.inl) : History (Recorded ε)) = [] := by
  induction effects with
  | nil =>
      rfl
  | cons effect rest inductionHypothesis =>
      exact inductionHypothesis

@[simp] theorem dealings_own (effects : List ε) :
    dealings (effects.map (Effect.host ∘ Sum.inl) : History (Recorded ε)) = [] := by
  induction effects with
  | nil =>
      rfl
  | cons effect rest inductionHypothesis =>
      exact inductionHypothesis

/-- A recorded computation leaves its dealing. -/
@[simp] theorem contacts_recorded (effects : List ε) (made : Dealing) :
    contacts
        ((effects.map Sum.inl ++ [Sum.inr made]).map Effect.host : History (Recorded ε)) =
      [.dealing made] := by
  rw [List.map_append, List.map_map, contacts_append, contacts_own]
  rfl

@[simp] theorem dealings_recorded (effects : List ε) (made : Dealing) :
    dealings
        ((effects.map Sum.inl ++ [Sum.inr made]).map Effect.host : History (Recorded ε)) =
      [made] := by
  rw [List.map_append, List.map_map, dealings_append, dealings_own]
  rfl

end History

end LoginGate
