import LoginGate.Proofs.Identity.Parametric

namespace LoginGate

/-!
# What look-ups leave alone

A database may leave some part of its world alone. Then so does every search of
the gate over it; and no search deals with the authority or records an event.
-/

open Interaction

variable {σ ε α β κ : Type}

namespace Interaction

/-- A part of the world is left as it is, and neither dealings nor events are made. -/
structure Leaves (part : σ → κ) (before : σ) (report : Report σ (Effect ε) α) : Prop where
  part : part report.world = part before
  dealings : report.authorityActions = []
  events : report.events = []

/-- A computation that spares a part of the world, and makes neither dealings nor events. -/
def Spares (part : σ → κ) (interaction : Interaction σ (Effect ε) α) : Prop :=
  ∀ world, Leaves part world (run interaction world)

namespace Spares

variable {part : σ → κ}

theorem pure (answer : α) :
    Spares part (Pure.pure answer : Interaction σ (Effect ε) α) :=
  fun _ => ⟨rfl, rfl, rfl⟩

theorem bind
    {first : Interaction σ (Effect ε) α}
    {next : α → Interaction σ (Effect ε) β}
    (firstSpares : Spares part first)
    (nextSpares : ∀ answer, Spares part (next answer)) :
    Spares part (first >>= next) := by
  intro world
  have before := firstSpares world
  have after := nextSpares (run first world).answer (run first world).world
  constructor
  case part =>
    exact after.part.trans before.part
  case dealings =>
    rw [run_bind, Report.authorityActions, History.authorityActions_append]
    exact List.append_eq_nil_iff.mpr ⟨before.dealings, after.dealings⟩
  case events =>
    rw [run_bind, Report.events, History.events_append]
    exact List.append_eq_nil_iff.mpr ⟨before.events, after.events⟩

theorem identity (call : IdentityCall) :
    Spares part (perform (.identity call) : Interaction σ (Effect ε) Unit) :=
  fun _ => ⟨rfl, rfl, rfl⟩

theorem note (made : Note) :
    Spares part (perform (.note made) : Interaction σ (Effect ε) Unit) :=
  fun _ => ⟨rfl, rfl, rfl⟩

theorem ofHost
    {interaction : Interaction σ ε α}
    (spares : ∀ world, part (run interaction world).world = part world) :
    Spares part interaction.ofHost := by
  intro world
  rw [run_ofHost]
  exact ⟨spares world, History.authorityActions_host _, History.events_host _⟩

end Spares

end Interaction

namespace IdentityDatabase

/-- A database whose look-ups leave a part of the world as it is. -/
structure Spares (database : IdentityDatabase σ ε) (part : σ → κ) : Prop where
  primaryGroup :
    ∀ account world, part (run (database.primaryGroup account) world).world = part world
  attempt :
    ∀ account primary capacity world,
      part (run (database.attempt account primary capacity) world).world = part world
  groupId :
    ∀ group world, part (run (database.groupId group) world).world = part world

/-- The search for an exemption spares what the database spares. -/
theorem spares_exemption
    {database : IdentityDatabase σ ε}
    {part : σ → κ}
    (spares : database.Spares part)
    (rules : BypassRules)
    (account : String) :
    Interaction.Spares part (database.exemption rules account) := by
  have asked :
      Asked (fun _ search (_ : Interaction σ (Effect ε) _) => Interaction.Spares part search)
        database database account := by
    constructor
    case primaryGroup =>
      exact .bind (.identity _) fun _ => .ofHost (spares.primaryGroup account)
    case attempt =>
      intro primary capacity _
      exact .bind (.identity _) fun _ => .ofHost (spares.attempt account primary capacity)
    case groupId =>
      intro group
      exact .bind (.identity _) fun _ => .ofHost (spares.groupId group)
  exact related_exemption ⟨.pure, .bind, .note⟩
    (related_membership ⟨.pure, .bind, .note⟩ asked) asked.groupId rules

end IdentityDatabase

end LoginGate
