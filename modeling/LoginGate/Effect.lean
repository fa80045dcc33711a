import LoginGate.Authority.Basic
import LoginGate.Diagnostics.TraceRecord
import LoginGate.Identity.Database

namespace LoginGate

/-!
# What the gate does to the outside

A run of the gate leaves a list of effects, oldest first: the questions to the
account database, the dealings with the authority, the notes of its parts and
the events that it records. What the database and the authority do by
themselves, to a host `ε`, stands between them where it happened.
-/

/-- One thing that a run of the gate does. -/
inductive Effect (ε : Type) where
  | identity (call : IdentityCall)
  | authority (action : AuthorityAction)
  | note (note : Note)
  | event (event : Event)
  /-- Something that the database or the authority did by itself. -/
  | host (effect : ε)
  deriving Repr, DecidableEq

namespace Effect

variable {ε : Type}

/-- Extract a question to the account database. -/
def identity? : Effect ε → Option IdentityCall
  | .identity call =>
      some call
  | _ =>
      none

/-- Extract a dealing with the authority. -/
def authority? : Effect ε → Option AuthorityAction
  | .authority action =>
      some action
  | _ =>
      none

/-- Extract a note. -/
def note? : Effect ε → Option Note
  | .note made =>
      some made
  | _ =>
      none

/-- Extract a recorded event. -/
def event? : Effect ε → Option Event
  | .event recorded =>
      some recorded
  | _ =>
      none

end Effect

/-- The effects of one run of the gate, oldest first. -/
abbrev History (ε : Type) :=
  List (Effect ε)

namespace History

variable {ε : Type}

/-- The questions to the account database, in order. -/
def identityCalls (history : History ε) : List IdentityCall :=
  history.filterMap Effect.identity?

/-- The dealings with the authority, in order. -/
def authorityActions (history : History ε) : List AuthorityAction :=
  history.filterMap Effect.authority?

/-- The notes, in order. -/
def notes (history : History ε) : List Note :=
  history.filterMap Effect.note?

/-- The recorded events, in order. -/
def events (history : History ε) : List Event :=
  history.filterMap Effect.event?

/-- The questions of two runs in a row. -/
@[simp] theorem identityCalls_append (first second : History ε) :
    identityCalls (first ++ second) = identityCalls first ++ identityCalls second := by
  simp [identityCalls]

/-- The dealings of two runs in a row. -/
@[simp] theorem authorityActions_append (first second : History ε) :
    authorityActions (first ++ second) = authorityActions first ++ authorityActions second := by
  simp [authorityActions]

/-- The notes of two runs in a row. -/
@[simp] theorem notes_append (first second : History ε) :
    notes (first ++ second) = notes first ++ notes second := by
  simp [notes]

/-- The events of two runs in a row. -/
@[simp] theorem events_append (first second : History ε) :
    events (first ++ second) = events first ++ events second := by
  simp [events]

/-- What the outside does by itself is no question of the gate. -/
@[simp] theorem identityCalls_host (effects : List ε) :
    identityCalls (effects.map Effect.host) = [] := by
  simp [identityCalls, Function.comp_def, Effect.identity?]

/-- What the outside does by itself is no dealing of the gate. -/
@[simp] theorem authorityActions_host (effects : List ε) :
    authorityActions (effects.map Effect.host) = [] := by
  simp [authorityActions, Function.comp_def, Effect.authority?]

/-- What the outside does by itself is no note of the gate. -/
@[simp] theorem notes_host (effects : List ε) :
    notes (effects.map Effect.host) = [] := by
  simp [notes, Function.comp_def, Effect.note?]

/-- What the outside does by itself is no event of the gate. -/
@[simp] theorem events_host (effects : List ε) :
    events (effects.map Effect.host) = [] := by
  simp [events, Function.comp_def, Effect.event?]

end History

namespace Report

variable {σ ε α : Type}

/-- The questions that a run put to the account database, in order. -/
def identityCalls (report : Report σ (Effect ε) α) : List IdentityCall :=
  History.identityCalls report.effects

/-- What a run did with the authority, in order. -/
def authorityActions (report : Report σ (Effect ε) α) : List AuthorityAction :=
  History.authorityActions report.effects

/-- The notes of a run, in order. -/
def notes (report : Report σ (Effect ε) α) : List Note :=
  History.notes report.effects

/-- The events that a run recorded, in order. -/
def events (report : Report σ (Effect ε) α) : List Event :=
  History.events report.effects

end Report

namespace Interaction

variable {σ ε α : Type}

/-- A computation of the outside as a part of a run of the gate. -/
def ofHost (interaction : Interaction σ ε α) : Interaction σ (Effect ε) α :=
  interaction.retell fun effect => [.host effect]

/-- A computation of the outside is the same as a part of a run, with its effects marked. -/
@[simp] theorem run_ofHost (interaction : Interaction σ ε α) (world : σ) :
    run interaction.ofHost world =
      ⟨(run interaction world).answer, (run interaction world).world,
        (run interaction world).effects.map Effect.host⟩ := by
  simp [ofHost, List.map_eq_flatMap]

end Interaction

end LoginGate
