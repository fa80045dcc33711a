import LoginGate.Proofs.Gate.Admission
import LoginGate.Proofs.Gate.Alike
import LoginGate.Proofs.Gate.Course
import LoginGate.Simulation.Accounts
import LoginGate.Simulation.Authority

namespace LoginGate

/-!
# Strict and exempting decisions

Asked in the same world about the same account, a strict decision and one with
exemptions differ by the exemption and by nothing else. This holds where looking
things up does not reach the authority: its part of the world is left alone by
the database, and is all that its answers depend on.
-/

open Interaction

variable {σ τ ε κ : Type}

namespace Gate

/-- The authority lives in a part of the world that look-ups leave alone. -/
structure KeepsApart (gate : Gate σ ε) (part : σ → κ) : Prop where
  database : gate.database.Spares part
  authority :
    gate.authority.Agree 0 (fun world other => part world = part other) gate.authority

/-- A gate whose database and authority live in two worlds beside each other. -/
def ofParts
    (configuration : Configuration)
    (database : IdentityDatabase σ ε)
    (authority : Authority τ ε) :
    Gate (σ × τ) ε where
  configuration :=
    configuration
  database :=
    database.within Prod.fst fun changed world => (changed, world.2)
  authority :=
    authority.within Prod.snd fun changed world => (world.1, changed)

theorem keepsApart_ofParts
    (configuration : Configuration)
    (database : IdentityDatabase σ ε)
    (authority : Authority τ ε) :
    (ofParts configuration database authority).KeepsApart Prod.snd := by
  constructor
  case database =>
    exact ⟨fun _ _ => rfl, fun _ _ _ _ => rfl, fun _ _ => rfl⟩
  case authority =>
    have agree {α : Type} (interaction : Interaction τ ε α) :
        Interaction.Agree (fun world other : σ × τ => world.2 = other.2)
          interaction.onSecond interaction.onSecond := by
      intro world other same
      simp only [onSecond, run_within, same, and_self]
    exact ⟨fun _ _ => agree _, fun _ _ _ _ => agree _, fun _ _ _ _ => agree _,
      fun _ => agree _⟩

section Decisions

variable (gate : Gate σ ε) (part : σ → κ) (phase : Phase) (named : Option String)
variable (account : String) (world : World σ)

/-- What a decision with exemptions leaves behind. -/
abbrev deciding : Report (World σ) (Effect ε) Decision :=
  run (gate.decideWithExemptions phase named) world

/-- What a strict decision leaves behind. -/
abbrev decidingStrictly : Report (World σ) (Effect ε) Decision :=
  run (gate.decideStrictly phase named) world

/-- What is recorded about look-ups: that they failed, if they did. -/
def lookupEvents : List Event :=
  match (gate.lookingUp world account).answer with
  | .error failure =>
      [failure.event phase account]
  | .ok _ =>
      []

/--
Both decisions are the same, and so is what happens with the authority. The one
with exemptions may say more, right behind its announcement, about a look-up.
-/
structure DecidesTheSame : Prop where
  decision :
    (gate.deciding phase named world).answer = (gate.decidingStrictly phase named world).answer
  dealings :
    (gate.deciding phase named world).authorityActions =
      (gate.decidingStrictly phase named world).authorityActions
  authority :
    part (gate.deciding phase named world).world.outside =
      part (gate.decidingStrictly phase named world).world.outside
  sessions :
    (gate.deciding phase named world).world.sessionsOpened =
      (gate.decidingStrictly phase named world).world.sessionsOpened
  events :
    ∃ later,
      (gate.decidingStrictly phase named world).events = .announcement phase :: later ∧
        (gate.deciding phase named world).events =
          .announcement phase :: gate.lookupEvents phase account world ++ later

/--
The decision with exemptions lets an account pass without the authority, which
the strict one asks and obeys.
-/
structure PassesUnasked (found : Exemption) : Prop where
  passes : (gate.deciding phase named world).answer = ⟨phase, true, found.basis⟩
  unasked : (gate.deciding phase named world).authorityActions = []
  authority : part (gate.deciding phase named world).world.outside = part world.outside
  sessions : (gate.deciding phase named world).world.sessionsOpened = world.sessionsOpened
  asked :
    (gate.decidingStrictly phase named world).authorityActions =
      gate.consultation account world
  obeys :
    (gate.decidingStrictly phase named world).answer =
      .ofAuthority phase (run (gate.queryAuthority account) world).answer
  consent :
    (gate.decidingStrictly phase named world).answer.allowed = true ↔
      gate.Consents account world

/--
What it means that two decisions differ by the exemption only. The strict one
lets nobody pass whom the other one stops. Where nobody is named they are the
same in every respect. Otherwise everything depends on what the look-ups find.
-/
structure DifferByExemption : Prop where
  neverLaxer :
    (gate.decidingStrictly phase named world).answer.allowed = true →
    (gate.deciding phase named world).answer.allowed = true
  nobody :
    presentAccount named = none →
    gate.deciding phase named world = gate.decidingStrictly phase named world
  stranger :
    ∀ account,
      presentAccount named = some account →
      (∀ found, (gate.lookingUp world account).answer ≠ .ok (some found)) →
      gate.DecidesTheSame part phase named account world
  exempt :
    ∀ account found,
      presentAccount named = some account →
      (gate.lookingUp world account).answer = .ok (some found) →
      gate.PassesUnasked part phase named account world found

end Decisions

/-- Whoever is not found to be exempt is left to the authority, behind what is said about it. -/
theorem run_decideWithExemptions_of_not_exempt
    (gate : Gate σ ε)
    (phase : Phase)
    {named : Option String}
    {account : String}
    (world : World σ)
    (present : presentAccount named = some account)
    (stranger : ∀ found, (gate.lookingUp world account).answer ≠ .ok (some found)) :
    run (gate.decideWithExemptions phase named) world =
      let asked := run (gate.askAuthority phase account) (gate.worldBehindLookups world account)
      ⟨asked.answer, asked.world,
        .event (.announcement phase) :: (gate.lookingUp world account).effects ++
          (gate.lookupEvents phase account world).map .event ++ asked.effects⟩ := by
  cases looked : (gate.lookingUp world account).answer with
  | error failure =>
      rw [gate.run_decideWithExemptions_of_failure phase world present looked]
      simp [lookupEvents, looked]
  | ok found? =>
      cases found? with
      | some found =>
          exact (stranger found looked).elim
      | none =>
          rw [gate.run_decideWithExemptions_of_stranger phase world present looked]
          simp [lookupEvents, looked]

section Comparison

variable {gate : Gate σ ε} {part : σ → κ} (apart : gate.KeepsApart part)
variable (phase : Phase) {named : Option String} {account : String} (world : World σ)

include apart

/-- Behind the look-ups the authority is found as it was before them. -/
theorem related_worldBehindLookups (account : String) :
    World.Related 0 (fun world other => part world = part other)
      (gate.worldBehindLookups world account) world :=
  ⟨(IdentityDatabase.spares_exemption apart.database gate.configuration.bypass account
    world.outside).part, rfl⟩

theorem alike_askAuthority_behindLookups (account : String) :
    (run (gate.askAuthority phase account) (gate.worldBehindLookups world account)).Alike 0
      (World.Related 0 fun world other => part world = part other)
      (run (gate.askAuthority phase account) world) :=
  alike_askAuthority rfl apart.authority phase account _ _
    (related_worldBehindLookups apart world account)

theorem decidesTheSame_of_stranger
    (present : presentAccount named = some account)
    (stranger : ∀ found, (gate.lookingUp world account).answer ≠ .ok (some found)) :
    gate.DecidesTheSame part phase named account world := by
  have alike := alike_askAuthority_behindLookups apart phase world account
  have dealings := alike.authorityActions_eq
  have events := alike.events_eq
  have unasked := (gate.leaves_lookingUp account world).dealings
  have silent := (gate.leaves_lookingUp account world).events
  rw [Report.authorityActions] at dealings unasked
  rw [Report.events] at events silent
  have exempting : gate.deciding phase named world = _ :=
    run_decideWithExemptions_of_not_exempt gate phase world present stranger
  have strictly : gate.decidingStrictly phase named world = _ :=
    gate.run_decideStrictly_of_present phase world present
  constructor
  case decision =>
    rw [exempting, strictly]
    exact alike.answer
  case dealings =>
    rw [exempting, strictly]
    simp only [Report.authorityActions, List.cons_append, History.authorityActions_cons_event,
      History.authorityActions_append, History.authorityActions_map_event, unasked, dealings,
      List.nil_append]
  case authority =>
    rw [exempting, strictly]
    exact alike.worlds.outsides
  case sessions =>
    rw [exempting, strictly]
    exact alike.worlds.sessions
  case events =>
    rw [exempting, strictly]
    refine ⟨(run (gate.askAuthority phase account) world).events, rfl, ?_⟩
    simp only [Report.events, List.cons_append, History.events_cons_event,
      History.events_append, History.events_map_event, silent, events, List.nil_append]

theorem passesUnasked_of_exempt
    {found : Exemption}
    (present : presentAccount named = some account)
    (exempt : (gate.lookingUp world account).answer = .ok (some found)) :
    gate.PassesUnasked part phase named account world found := by
  have exempting : gate.deciding phase named world = _ :=
    gate.run_decideWithExemptions_of_exempt phase world present exempt
  have strictly : gate.decidingStrictly phase named world = _ :=
    gate.run_decideStrictly_of_present phase world present
  constructor
  case passes =>
    rw [exempting]
  case unasked =>
    have unasked := (gate.leaves_lookingUp account world).dealings
    rw [Report.authorityActions] at unasked
    rw [exempting]
    simp only [Report.authorityActions, List.cons_append, History.authorityActions_cons_event,
      History.authorityActions_append, unasked]
    rfl
  case authority =>
    rw [exempting]
    exact (related_worldBehindLookups apart world account).outsides
  case sessions =>
    rw [exempting]
    rfl
  case asked =>
    rw [strictly]
    exact gate.authorityActions_askAuthority phase account world
  case obeys =>
    rw [strictly]
    exact congrArg Report.answer (gate.run_askAuthority phase world account)
  case consent =>
    obtain ⟨rfl, notEmpty⟩ := (presentAccount_eq_some_iff _ _).mp present
    rw [allowed_decideStrictly_iff]
    constructor
    · rintro ⟨_, same, _, consents⟩
      obtain rfl := Option.some.inj same
      exact consents
    · intro consents
      exact ⟨account, rfl, notEmpty, consents⟩

end Comparison

/-- The strict decision and the one with exemptions differ by the exemption only. -/
theorem differByExemption_of_keepsApart
    (gate : Gate σ ε)
    {part : σ → κ}
    (apart : gate.KeepsApart part)
    (phase : Phase)
    (named : Option String)
    (world : World σ) :
    gate.DifferByExemption part phase named world := by
  have nobody
      (isNobody : presentAccount named = none) :
      gate.deciding phase named world = gate.decidingStrictly phase named world := by
    rw [deciding, decidingStrictly, gate.run_decideWithExemptions_of_nobody phase world isNobody,
      gate.run_decideStrictly_of_nobody phase world isNobody]
  constructor
  case neverLaxer =>
    intro permitted
    cases present : presentAccount named with
    | none =>
        rw [nobody present]
        exact permitted
    | some account =>
        -- Whoever is exempt passes, whatever the strict decision is.
        by_cases exempt : ∃ found, (gate.lookingUp world account).answer = .ok (some found)
        · obtain ⟨found, exempt⟩ := exempt
          rw [(passesUnasked_of_exempt apart phase world present exempt).passes]
        · have stranger := not_exists.mp exempt
          rw [(decidesTheSame_of_stranger apart phase world present stranger).decision]
          exact permitted
  case nobody =>
    exact nobody
  case stranger =>
    intro account present stranger
    exact decidesTheSame_of_stranger apart phase world present stranger
  case exempt =>
    intro account found present exempt
    exact passesUnasked_of_exempt apart phase world present exempt

/--
An account database that fails about one account leaves it to the authority, and
says so; the root account passes without the authority all the same.
-/
theorem differByExemption_failing_lookup :
    let accounts : SimulatedAccounts :=
      ⟨[("bob", ⟨.constant (.error (.account "bob" "timeout")), [], .empty⟩)], []⟩
    let consenting : SimulatedAuthority :=
      ⟨.empty, .constant (.ok (.boolean true)), .empty⟩
    let gate : Gate (SimulatedAccounts × SimulatedAuthority) Empty :=
      .ofParts {} SimulatedAccounts.database SimulatedAuthority.authority
    let world : World (SimulatedAccounts × SimulatedAuthority) :=
      .ofOutside (accounts, consenting)
    gate.DecidesTheSame Prod.snd .authenticate (some "bob") "bob" world ∧
      gate.lookupEvents .authenticate "bob" world =
        [.debug .authenticate
          "identity lookup failed, treating bob as not exempt: account lookup failed for 'bob': timeout"] ∧
      gate.PassesUnasked Prod.snd .authenticate (some "root") "root" world .rootAccount := by
  intro accounts consenting gate world
  have apart : gate.KeepsApart Prod.snd :=
    keepsApart_ofParts {} SimulatedAccounts.database SimulatedAuthority.authority
  have missed :
      (gate.lookingUp world "bob").answer = .error (.account "bob" "timeout") :=
    rfl
  have isRoot : (gate.lookingUp world "root").answer = .ok (some .rootAccount) :=
    rfl
  have noExemption : ∀ found, (gate.lookingUp world "bob").answer ≠ .ok (some found) := by
    simp [missed]
  refine ⟨?_, ?_, ?_⟩
  · exact (differByExemption_of_keepsApart gate apart .authenticate (some "bob") world).stranger
      "bob" rfl noExemption
  · rw [lookupEvents, missed]
    rfl
  · exact (differByExemption_of_keepsApart gate apart .authenticate (some "root") world).exempt
      "root" .rootAccount rfl isRoot

end Gate

end LoginGate
