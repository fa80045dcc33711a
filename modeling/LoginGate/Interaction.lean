namespace LoginGate

/-!
# Computations over an outside world

The gate asks an account database and an authority that may change between
any two questions. An `Interaction σ ε α` is such a computation: it starts in a
world `σ`, and ends with an answer, the world after it, and the effects `ε` that
it had, in the order in which they happened.
-/

/-- What one computation left behind. -/
structure Report (σ ε α : Type) where
  answer : α
  world : σ
  /-- Oldest first. -/
  effects : List ε

/-- A computation over a world `σ` with effects `ε` and an answer in `α`. -/
def Interaction (σ ε α : Type) : Type :=
  σ → Report σ ε α

namespace Interaction

variable {σ τ ε φ α β : Type}

/-- Start a computation in a given world. -/
def run (interaction : Interaction σ ε α) (world : σ) : Report σ ε α :=
  interaction world

/-- Answer without looking at the world. -/
protected def pure (answer : α) : Interaction σ ε α :=
  fun world => ⟨answer, world, []⟩

/-- Go on, in the world that the first computation left, with what its answer asks for. -/
protected def bind
    (first : Interaction σ ε α)
    (next : α → Interaction σ ε β) :
    Interaction σ ε β :=
  fun world =>
    let before := first world
    let after := next before.answer before.world
    ⟨after.answer, after.world, before.effects ++ after.effects⟩

instance : Monad (Interaction σ ε) where
  pure := Interaction.pure
  bind := Interaction.bind

/-- Have one effect and nothing else. -/
def perform (effect : ε) : Interaction σ ε Unit :=
  fun world => ⟨(), world, [effect]⟩

/-- Put one question to the world, which may change by answering. -/
def ask (question : σ → α × σ) : Interaction σ ε α :=
  fun world => ⟨(question world).1, (question world).2, []⟩

/-- Change the world and answer nothing. -/
def change (update : σ → σ) : Interaction σ ε Unit :=
  fun world => ⟨(), update world, []⟩

/-- Tell the effects of a computation in other words, each by a list of effects. -/
def retell (words : ε → List φ) (interaction : Interaction σ ε α) : Interaction σ φ α :=
  fun world =>
    let report := interaction world
    ⟨report.answer, report.world, report.effects.flatMap words⟩

/-- A computation that also answers with the effects that it had. -/
def observe (interaction : Interaction σ ε α) : Interaction σ ε (α × List ε) :=
  fun world =>
    let report := interaction world
    ⟨(report.answer, report.effects), report.world, report.effects⟩

/--
Run computations one after the other, and answer for each of them with its own
answer and its own effects.
-/
def transcript : List (Interaction σ ε α) → Interaction σ ε (List (α × List ε))
  | [] =>
      pure []
  | first :: rest => do
      let step ← first.observe
      let others ← transcript rest
      pure (step :: others)

/-- Have effects told one after the other by computations over a second world. -/
def tellEach (words : ε → Interaction τ φ Unit) : List ε → Interaction τ φ Unit
  | [] =>
      Interaction.pure ()
  | effect :: rest =>
      (words effect).bind fun _ => tellEach words rest

/--
Tell the effects of a computation in other words, each by a computation over a
second world that stands beside the first and is never seen by it.
-/
def interpret (words : ε → Interaction τ φ Unit) (interaction : Interaction σ ε α) :
    Interaction (σ × τ) φ α :=
  fun worlds =>
    let report := interaction worlds.1
    let told := tellEach words report.effects worlds.2
    ⟨report.answer, (report.world, told.world), told.effects⟩

/-- A question to one part of a larger world. -/
def askPart (part : τ → σ) (replace : σ → τ → τ) (question : σ → α × σ) : τ → α × τ :=
  fun world =>
    let asked := question (part world)
    (asked.1, replace asked.2 world)

/-- Run a computation on one part of a larger world and leave the rest alone. -/
def within
    (part : τ → σ)
    (replace : σ → τ → τ)
    (interaction : Interaction σ ε α) :
    Interaction τ ε α :=
  fun world =>
    let report := interaction (part world)
    ⟨report.answer, replace report.world world, report.effects⟩

/-- Run a computation on the first component of a world of two. -/
def onFirst (interaction : Interaction σ ε α) : Interaction (σ × τ) ε α :=
  within Prod.fst (fun changed world => (changed, world.2)) interaction

/-- Run a computation on the second component of a world of two. -/
def onSecond (interaction : Interaction σ ε α) : Interaction (τ × σ) ε α :=
  within Prod.snd (fun changed world => (world.1, changed)) interaction

/-- An immediate answer changes nothing and has no effect. -/
@[simp] theorem run_pure (answer : α) (world : σ) :
    run (pure answer : Interaction σ ε α) world = ⟨answer, world, []⟩ :=
  rfl

/-- A sequence of two computations appends their effects. -/
@[simp] theorem run_bind
    (first : Interaction σ ε α)
    (next : α → Interaction σ ε β)
    (world : σ) :
    run (first >>= next) world =
      ⟨(run (next (run first world).answer) (run first world).world).answer,
        (run (next (run first world).answer) (run first world).world).world,
        (run first world).effects ++
          (run (next (run first world).answer) (run first world).world).effects⟩ :=
  rfl

/-- A function of the answer changes the answer alone. -/
@[simp] theorem run_map
    (function : α → β)
    (interaction : Interaction σ ε α)
    (world : σ) :
    run (function <$> interaction) world =
      ⟨function (run interaction world).answer, (run interaction world).world,
        (run interaction world).effects⟩ := by
  show Report.mk (function (interaction world).answer) (interaction world).world
    ((interaction world).effects ++ []) = _
  rw [List.append_nil]
  rfl

@[simp] theorem run_perform (effect : ε) (world : σ) :
    run (perform effect : Interaction σ ε Unit) world = ⟨(), world, [effect]⟩ :=
  rfl

@[simp] theorem run_ask (question : σ → α × σ) (world : σ) :
    run (ask question : Interaction σ ε α) world =
      ⟨(question world).1, (question world).2, []⟩ :=
  rfl

@[simp] theorem run_change (update : σ → σ) (world : σ) :
    run (change update : Interaction σ ε Unit) world = ⟨(), update world, []⟩ :=
  rfl

@[simp] theorem run_retell
    (words : ε → List φ)
    (interaction : Interaction σ ε α)
    (world : σ) :
    run (retell words interaction) world =
      ⟨(run interaction world).answer, (run interaction world).world,
        (run interaction world).effects.flatMap words⟩ :=
  rfl

@[simp] theorem run_observe (interaction : Interaction σ ε α) (world : σ) :
    run (observe interaction) world =
      ⟨((run interaction world).answer, (run interaction world).effects),
        (run interaction world).world, (run interaction world).effects⟩ :=
  rfl

/-- The effects of a transcript are those of its steps, in order. -/
theorem effects_run_transcript (interactions : List (Interaction σ ε α)) (world : σ) :
    (run (transcript interactions) world).effects =
      (run (transcript interactions) world).answer.flatMap Prod.snd := by
  induction interactions generalizing world with
  | nil =>
      rfl
  | cons first rest inductionHypothesis =>
      simp [transcript, inductionHypothesis]

@[simp] theorem run_within
    (part : τ → σ)
    (replace : σ → τ → τ)
    (interaction : Interaction σ ε α)
    (world : τ) :
    run (within part replace interaction) world =
      ⟨(run interaction (part world)).answer,
        replace (run interaction (part world)).world world,
        (run interaction (part world)).effects⟩ :=
  rfl

/-- Two computations are equal when they leave the same behind in every world. -/
theorem ext_run
    {left right : Interaction σ ε α}
    (agree : ∀ world, run left world = run right world) :
    left = right :=
  funext agree

instance : LawfulMonad (Interaction σ ε) :=
  LawfulMonad.mk' _
    (fun interaction => by
      apply ext_run
      intro world
      show Report.mk (interaction world).answer (interaction world).world
        ((interaction world).effects ++ []) = interaction world
      simp)
    (fun _ _ => rfl)
    (fun first second third => by
      apply ext_run
      intro world
      simp)

end Interaction

end LoginGate
