import LoginGate.Proofs.Gate.Consultation

namespace LoginGate

/-!
# The paths of a decision

A decision is announced, and then takes one of a few paths: nobody is named, the
account is exempt, or the authority is asked. Each path is described by its
whole report.
-/

open Interaction

/-- The event that announces a decision. -/
def Event.announcement (phase : Phase) : Event :=
  .notice phase ("sessionwarden called for " ++ phase.label)

/-- What a decision rests on that lets an exempt account pass. -/
def Exemption.basis : Exemption → Basis
  | .bypassGroup group =>
      .bypassGroup group
  | .rootAccount =>
      .rootAccount

/-- The event that tells why an account passes by itself. -/
def Exemption.event (phase : Phase) (account : String) : Exemption → Event
  | .bypassGroup group =>
      .debug phase ("User " ++ account ++ " is in bypass group " ++ group ++ ", allowing")
  | .rootAccount =>
      .debug phase "User is root, allowing"

/-- The event that tells of a failed look-up. -/
def IdentityError.event (phase : Phase) (account : String) (failure : IdentityError) : Event :=
  .debug phase
    ("identity lookup failed, treating " ++ account ++ " as not exempt: " ++ failure.message)

/-- The decision that the outcome of a question to the authority gives. -/
def Decision.ofAuthority (phase : Phase) : Except AuthorityError Bool → Decision
  | .ok true =>
      ⟨phase, true, .authorityAllowed⟩
  | .ok false =>
      ⟨phase, false, .authorityDenied⟩
  | .error failure =>
      ⟨phase, false, .transportFailure failure.message⟩

/-- The events that tell of a denial behind a question to the authority. -/
def Event.denials (phase : Phase) (account : String) : List Event :=
  [.debug phase ("Access denied by sessionwarden for " ++ account),
    .notice phase ("sessionwarden denied access for " ++ account)]

/-- The events that tell why the authority gave no answer. -/
def AuthorityError.events (phase : Phase) (account : String) (failure : AuthorityError) :
    List Event :=
  [.error phase failure.message,
    .debug phase
      (if failure.isConnect then
        "Failed to connect to D-Bus system bus"
      else
        "CheckLogin failed for user " ++ account ++ ": " ++ failure.message)]

/-- The events behind a question to the authority. -/
def Event.ofAuthority (phase : Phase) (account : String) :
    Except AuthorityError Bool → List Event
  | .ok true =>
      [.debug phase ("Access allowed by sessionwarden for " ++ account)]
  | .ok false =>
      Event.denials phase account
  | .error failure =>
      failure.events phase account ++ Event.denials phase account

namespace Gate

variable {σ ε : Type}
variable (gate : Gate σ ε) (phase : Phase) {named : Option String} {account : String}
variable (world : World σ)

/-- What the look-ups about an account leave behind. -/
def lookingUp (account : String) :
    Report σ (Effect ε) (Except IdentityError (Option Exemption)) :=
  run (gate.database.exemption gate.configuration.bypass account) world.outside

/-- The world in which the authority is asked about an account that is not exempt. -/
def worldBehindLookups (account : String) : World σ :=
  world.withOutside (gate.lookingUp world account).world

/-- A question to the authority gives the decision and the events that its outcome asks for. -/
theorem run_askAuthority (account : String) :
    run (gate.askAuthority phase account) world =
      ⟨.ofAuthority phase (run (gate.queryAuthority account) world).answer,
        (run (gate.queryAuthority account) world).world,
        (run (gate.queryAuthority account) world).effects ++
          (Event.ofAuthority phase account
            (run (gate.queryAuthority account) world).answer).map .event⟩ := by
  simp only [askAuthority, run_bind]
  cases answer : (run (gate.queryAuthority account) world).answer with
  | error failure =>
      simp [recordFailure, recordDenial, recordEvent, Decision.ofAuthority, Event.ofAuthority,
        Event.denials, AuthorityError.events]
  | ok consent =>
      cases consent with
      | false =>
          simp [recordDenial, recordEvent, Decision.ofAuthority, Event.ofAuthority,
            Event.denials]
      | true =>
          simp [recordConsent, recordEvent, Decision.ofAuthority, Event.ofAuthority]

/-- Nobody passes when nobody is named. -/
theorem run_decideWithExemptions_of_nobody (nobody : presentAccount named = none) :
    run (gate.decideWithExemptions phase named) world =
      ⟨⟨phase, false, .noAccount⟩, world,
        [.event (.announcement phase), .event (.debug phase "No user found")]⟩ := by
  simp [decideWithExemptions, nobody, announce, denyNobody, recordEvent, Event.announcement]

/-- An exempt account passes without the authority. -/
theorem run_decideWithExemptions_of_exempt
    {found : Exemption}
    (present : presentAccount named = some account)
    (exempt : (gate.lookingUp world account).answer = .ok (some found)) :
    run (gate.decideWithExemptions phase named) world =
      ⟨⟨phase, true, found.basis⟩, gate.worldBehindLookups world account,
        .event (.announcement phase) :: (gate.lookingUp world account).effects ++
          [.event (found.event phase account)]⟩ := by
  unfold worldBehindLookups
  unfold lookingUp at exempt ⊢
  cases found with
  | bypassGroup group =>
      simp [decideWithExemptions, present, announce, recordEvent, exempt, Event.announcement,
        Exemption.basis, Exemption.event]
  | rootAccount =>
      simp [decideWithExemptions, present, announce, recordEvent, exempt, Event.announcement,
        Exemption.basis, Exemption.event]

/-- The authority is asked about an account that is found not to be exempt. -/
theorem run_decideWithExemptions_of_stranger
    (present : presentAccount named = some account)
    (stranger : (gate.lookingUp world account).answer = .ok none) :
    run (gate.decideWithExemptions phase named) world =
      let asked := run (gate.askAuthority phase account) (gate.worldBehindLookups world account)
      ⟨asked.answer, asked.world,
        .event (.announcement phase) :: (gate.lookingUp world account).effects ++
          asked.effects⟩ := by
  unfold worldBehindLookups
  unfold lookingUp at stranger ⊢
  simp [decideWithExemptions, present, announce, recordEvent, stranger, Event.announcement]

/-- The authority is asked about an account whose look-up failed. -/
theorem run_decideWithExemptions_of_failure
    {failure : IdentityError}
    (present : presentAccount named = some account)
    (failed : (gate.lookingUp world account).answer = .error failure) :
    run (gate.decideWithExemptions phase named) world =
      let asked := run (gate.askAuthority phase account) (gate.worldBehindLookups world account)
      ⟨asked.answer, asked.world,
        .event (.announcement phase) :: (gate.lookingUp world account).effects ++
          .event (failure.event phase account) :: asked.effects⟩ := by
  unfold worldBehindLookups
  unfold lookingUp at failed ⊢
  simp [decideWithExemptions, present, announce, recordEvent, failed, Event.announcement,
    IdentityError.event]

/-- Nobody passes the strict checkpoint when nobody is named. -/
theorem run_decideStrictly_of_nobody (nobody : presentAccount named = none) :
    run (gate.decideStrictly phase named) world =
      ⟨⟨phase, false, .noAccount⟩, world,
        [.event (.announcement phase), .event (.debug phase "No user found")]⟩ := by
  simp [decideStrictly, nobody, announce, denyNobody, recordEvent, Event.announcement]

/-- The authority is asked about everybody who is named at the strict checkpoint. -/
theorem run_decideStrictly_of_present (present : presentAccount named = some account) :
    run (gate.decideStrictly phase named) world =
      let asked := run (gate.askAuthority phase account) world
      ⟨asked.answer, asked.world, .event (.announcement phase) :: asked.effects⟩ := by
  simp [decideStrictly, present, announce, recordEvent, Event.announcement]

end Gate

end LoginGate
