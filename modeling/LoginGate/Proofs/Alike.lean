import LoginGate.Authority.Scope

namespace LoginGate

/-!
# Two runs that do alike

Two computations are compared over two outsides that may have nothing to do with
each other but a relation. They are alike when, from related worlds, they answer
the same, do the same and leave related worlds. What an outside does by itself
does not count, and the sessions of the first run may come behind a number of
sessions that the second one never saw.

Being alike passes through sequences, so two programs of the same shape are alike
when the questions to their outsides are.
-/

open Interaction

variable {σ τ ε φ α β : Type}

/-- A dealing on a session that comes behind others. -/
def AuthorityAction.behind (offset : Nat) : AuthorityAction → AuthorityAction
  | .connect endpoint =>
      .connect endpoint
  | .call session endpoint method account =>
      .call (session + offset) endpoint method account
  | .send session endpoint method account =>
      .send (session + offset) endpoint method account
  | .release session =>
      .release (session + offset)

namespace Effect

/-- Extract what the gate does itself. -/
def deed? : Effect ε → Option (Effect Empty)
  | .identity call =>
      some (.identity call)
  | .authority action =>
      some (.authority action)
  | .note made =>
      some (.note made)
  | .event recorded =>
      some (.event recorded)
  | .host _ =>
      none

/-- An effect whose session, if it has one, comes behind others. -/
def behind (offset : Nat) : Effect ε → Effect ε
  | .authority action =>
      .authority (action.behind offset)
  | other =>
      other

end Effect

namespace History

/-- What the gate did itself, in order. -/
def deeds (history : History ε) : History Empty :=
  history.filterMap Effect.deed?

/-- A history whose sessions come behind others. -/
def behind (offset : Nat) (history : History ε) : History ε :=
  history.map (Effect.behind offset)

@[simp] theorem deeds_append (first second : History ε) :
    deeds (first ++ second) = deeds first ++ deeds second := by
  simp [deeds]

@[simp] theorem deeds_host (effects : List ε) :
    deeds (effects.map Effect.host) = [] := by
  simp [deeds, Function.comp_def, Effect.deed?]

@[simp] theorem behind_append (offset : Nat) (first second : History ε) :
    behind offset (first ++ second) = behind offset first ++ behind offset second := by
  simp [behind]

theorem behind_zero (history : History ε) : behind 0 history = history := by
  have unchanged : Effect.behind 0 = (id : Effect ε → Effect ε) := by
    funext effect
    cases effect with
    | authority action =>
        cases action <;> rfl
    | _ =>
        rfl
  rw [behind, unchanged, List.map_id]

/-- What can be read off the effects of a gate itself can be read off its deeds. -/
theorem filterMap_deeds
    {extract : Effect ε → Option β}
    {extractDeed : Effect Empty → Option β}
    (reads : ∀ effect, effect.deed?.bind extractDeed = extract effect)
    (history : History ε) :
    history.deeds.filterMap extractDeed = history.filterMap extract := by
  unfold deeds
  rw [List.filterMap_filterMap]
  congr
  funext effect
  exact reads effect

theorem identityCalls_deeds (history : History ε) :
    identityCalls history.deeds = identityCalls history :=
  filterMap_deeds (fun effect => by cases effect <;> rfl) history

theorem authorityActions_deeds (history : History ε) :
    authorityActions history.deeds = authorityActions history :=
  filterMap_deeds (fun effect => by cases effect <;> rfl) history

theorem notes_deeds (history : History ε) : notes history.deeds = notes history :=
  filterMap_deeds (fun effect => by cases effect <;> rfl) history

theorem events_deeds (history : History ε) : events history.deeds = events history :=
  filterMap_deeds (fun effect => by cases effect <;> rfl) history

end History

/-- Reports that answer the same, tell of the same deeds and leave related worlds. -/
structure Report.Alike
    (offset : Nat)
    (related : σ → τ → Prop)
    (first : Report σ (Effect ε) α)
    (second : Report τ (Effect φ) α) : Prop where
  answer : first.answer = second.answer
  deeds : History.deeds first.effects = (History.deeds second.effects).behind offset
  worlds : related first.world second.world

namespace Report.Alike

variable {related : σ → τ → Prop}
variable {first : Report σ (Effect ε) α} {second : Report τ (Effect φ) α}

theorem deeds_eq (alike : first.Alike 0 related second) :
    History.deeds first.effects = History.deeds second.effects :=
  alike.deeds.trans (History.behind_zero _)

theorem identityCalls_eq (alike : first.Alike 0 related second) :
    first.identityCalls = second.identityCalls := by
  unfold Report.identityCalls
  rw [← History.identityCalls_deeds, alike.deeds_eq, History.identityCalls_deeds]

theorem authorityActions_eq (alike : first.Alike 0 related second) :
    first.authorityActions = second.authorityActions := by
  unfold Report.authorityActions
  rw [← History.authorityActions_deeds, alike.deeds_eq, History.authorityActions_deeds]

theorem notes_eq (alike : first.Alike 0 related second) : first.notes = second.notes := by
  unfold Report.notes
  rw [← History.notes_deeds, alike.deeds_eq, History.notes_deeds]

theorem events_eq (alike : first.Alike 0 related second) : first.events = second.events := by
  unfold Report.events
  rw [← History.events_deeds, alike.deeds_eq, History.events_deeds]

end Report.Alike

namespace Interaction

/-- Computations of two outsides that answer the same in related worlds, and keep them related. -/
def Agree
    (related : σ → τ → Prop)
    (first : Interaction σ ε α)
    (second : Interaction τ φ α) : Prop :=
  ∀ world other,
    related world other →
      (run first world).answer = (run second other).answer ∧
        related (run first world).world (run second other).world

/-- Computations whose reports are alike in related worlds. -/
def Alike
    (offset : Nat)
    (related : σ → τ → Prop)
    (first : Interaction σ (Effect ε) α)
    (second : Interaction τ (Effect φ) α) : Prop :=
  ∀ world other,
    related world other →
      (run first world).Alike offset related (run second other)

namespace Alike

variable {offset : Nat} {related : σ → τ → Prop}

theorem pure (answer : α) :
    Alike (ε := ε) (φ := φ) offset related (Pure.pure answer) (Pure.pure answer) :=
  fun _ _ areRelated => ⟨rfl, rfl, areRelated⟩

theorem bind
    {first : Interaction σ (Effect ε) α}
    {second : Interaction τ (Effect φ) α}
    {firstNext : α → Interaction σ (Effect ε) β}
    {secondNext : α → Interaction τ (Effect φ) β}
    (alike : Alike offset related first second)
    (nextAlike : ∀ answer, Alike offset related (firstNext answer) (secondNext answer)) :
    Alike offset related (first >>= firstNext) (second >>= secondNext) := by
  intro world other areRelated
  have before := alike world other areRelated
  have after := nextAlike (run second other).answer _ _ before.worlds
  rw [run_bind, run_bind, before.answer]
  refine ⟨after.answer, ?_, after.worlds⟩
  rw [History.deeds_append, before.deeds, after.deeds, History.deeds_append,
    History.behind_append]

theorem map
    {first : Interaction σ (Effect ε) α}
    {second : Interaction τ (Effect φ) α}
    (function : α → β)
    (alike : Alike offset related first second) :
    Alike offset related (function <$> first) (function <$> second) := by
  intro world other areRelated
  have before := alike world other areRelated
  rw [run_map, run_map]
  exact ⟨congrArg function before.answer, before.deeds, before.worlds⟩

theorem perform
    {first : Effect ε}
    {second : Effect φ}
    (same : History.deeds [first] = History.behind offset (History.deeds [second])) :
    Alike offset related (Interaction.perform first) (Interaction.perform second) :=
  fun _ _ areRelated => ⟨rfl, same, areRelated⟩

theorem ofHost
    {first : Interaction σ ε α}
    {second : Interaction τ φ α}
    (agree : Agree related first second) :
    Alike offset related first.ofHost second.ofHost := by
  intro world other areRelated
  have answered := agree world other areRelated
  rw [run_ofHost, run_ofHost]
  refine ⟨answered.1, ?_, answered.2⟩
  rw [History.deeds_host, History.deeds_host]
  rfl

end Alike

end Interaction

end LoginGate
