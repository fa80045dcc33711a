import LoginGate.Proofs.Identity.LookupHistory

namespace LoginGate

/-!
# Errands

What a step of a gate is for, and what it may do for it: a step looks things up
first and then deals with the authority in one of three ways, not at all, by a
vain attempt to connect, or by one session that carries one message and is given
back. Whatever it reports as an error came from the authority.
-/

variable {ε : Type}

/-- A message does not come to the authority at all, or on a session of its own. -/
inductive Consults (session : Nat) (endpoint : Endpoint) (account : String) (method : Method) :
    List Dealing → Prop where
  | refused {failure : AuthorityError} :
      Consults session endpoint account method
        [.connect session endpoint (.error failure)]
  | exchanged {message : Dealing} :
      message.Carries session endpoint account method →
      Consults session endpoint account method
        [.connect session endpoint (.ok ()), message, .release session]

/-- A failure is one that the authority reported, or an answer that is no decision. -/
def Explains (dealings : List Dealing) (failure : AuthorityError) : Prop :=
  (∃ dealing ∈ dealings, dealing.failure? = some failure) ∨
    failure = .noArguments ∨ ∃ signature, failure = .unexpectedType signature

/-- What a request may do: for whom, by which method, and whether exemptions are looked up. -/
structure Errand where
  account : Option String
  method : Option Method
  exempting : Bool

/-- An errand that ends without the authority, or consults it once. -/
def Errand.Deals
    (errand : Errand)
    (session : Nat)
    (endpoint : Endpoint)
    (dealings : List Dealing) : Prop :=
  dealings = [] ∨
    ∃ account method,
      errand.account = some account ∧ errand.method = some method ∧
        Consults session endpoint account method dealings

/-- Look-ups that an errand may make: for its account, where exemptions are looked up. -/
def Errand.MayLookUp
    (errand : Errand)
    (configuration : Configuration)
    (lookups : List IdentityCall) : Prop :=
  ∀ lookup ∈ lookups,
    errand.exempting = true ∧
      ∃ account,
        errand.account = some account ∧ lookup.Concerns account configuration.bypass.groups

/--
What one step does: look-ups for the errand come first, then what is dealt on
the session behind those opened before; and every error is explained by these.
-/
structure Errand.Discipline
    (errand : Errand)
    (configuration : Configuration)
    (before after : Nat)
    (history : History (Recorded ε)) : Prop where
  contacts :
    ∃ (lookups : List IdentityCall) (dealings : List Dealing),
      history.contacts = lookups.map .lookup ++ dealings.map .dealing ∧
        errand.MayLookUp configuration lookups ∧
        errand.Deals (before + 1) configuration.endpoint dealings
  sessions : after = before + (openedSessions history.dealings).length
  failures :
    ∀ event ∈ history.events,
      event.severity = .error →
      ∃ failure, event.message = failure.message ∧ Explains history.dealings failure

/-- What a step does before it deals with the authority: look-ups, and no error. -/
structure Errand.Prelude
    (errand : Errand)
    (configuration : Configuration)
    (history : History (Recorded ε)) : Prop where
  contacts :
    ∃ lookups : List IdentityCall,
      history.contacts = lookups.map .lookup ∧ errand.MayLookUp configuration lookups
  noError : ∀ event ∈ history.events, event.severity ≠ .error

namespace Errand

variable {errand : Errand} {configuration : Configuration} {before after : Nat}
variable {first second : History (Recorded ε)}

theorem Prelude.nothing : errand.Prelude configuration ([] : History (Recorded ε)) :=
  ⟨⟨[], rfl, by simp [MayLookUp]⟩, by simp [History.events]⟩

theorem Prelude.of_event {event : Event} (noError : event.severity ≠ .error) :
    errand.Prelude configuration ([.event event] : History (Recorded ε)) := by
  refine ⟨⟨[], rfl, by simp [MayLookUp]⟩, ?_⟩
  intro other isOther
  obtain rfl := List.mem_singleton.mp isOther
  exact noError

theorem Prelude.of_looksUp
    {account : String}
    {history : History (Recorded ε)}
    (exempting : errand.exempting = true)
    (named : errand.account = some account)
    (looksUp : history.LooksUp account configuration.bypass.groups) :
    errand.Prelude configuration history := by
  obtain ⟨⟨calls, contacts, concern⟩, silent⟩ := looksUp
  refine ⟨⟨calls, contacts, ?_⟩, by simp [silent]⟩
  intro lookup isLookup
  exact ⟨exempting, account, named, concern lookup isLookup⟩

theorem Prelude.append
    (firstPrelude : errand.Prelude configuration first)
    (secondPrelude : errand.Prelude configuration second) :
    errand.Prelude configuration (first ++ second) := by
  obtain ⟨⟨firstCalls, firstContacts, firstMay⟩, firstNoError⟩ := firstPrelude
  obtain ⟨⟨secondCalls, secondContacts, secondMay⟩, secondNoError⟩ := secondPrelude
  refine ⟨⟨firstCalls ++ secondCalls, ?_, ?_⟩, ?_⟩
  · rw [History.contacts_append, firstContacts, secondContacts, List.map_append]
  · intro lookup isLookup
    exact (List.mem_append.mp isLookup).elim (firstMay lookup) (secondMay lookup)
  · intro event isEvent
    rw [History.events_append] at isEvent
    exact (List.mem_append.mp isEvent).elim (firstNoError event) (secondNoError event)

theorem Prelude.dealings_eq_nil (prelude : errand.Prelude configuration first) :
    first.dealings = [] := by
  obtain ⟨⟨calls, contacts, _⟩, _⟩ := prelude
  rw [History.dealings_eq_contacts, contacts]
  simp [Contact.dealing?]

/-- A step that only looks up is over without the authority. -/
theorem Prelude.discipline (prelude : errand.Prelude configuration first) :
    errand.Discipline configuration before before first := by
  have noDealings := prelude.dealings_eq_nil
  obtain ⟨⟨calls, contacts, may⟩, noError⟩ := prelude
  refine ⟨⟨calls, [], by simp [contacts], may, .inl rfl⟩, by simp [noDealings], ?_⟩
  intro event isEvent isError
  exact (noError event isEvent isError).elim

/-- What a step does with the authority comes behind its look-ups. -/
theorem Prelude.precedes
    (prelude : errand.Prelude configuration first)
    (discipline : errand.Discipline configuration before after second) :
    errand.Discipline configuration before after (first ++ second) := by
  have noDealings := prelude.dealings_eq_nil
  obtain ⟨⟨calls, contacts, may⟩, noError⟩ := prelude
  obtain ⟨⟨laterCalls, dealings, laterContacts, laterMay, deals⟩, sessions, failures⟩ := discipline
  have sameDealings : (first ++ second).dealings = second.dealings := by
    rw [History.dealings_append, noDealings, List.nil_append]
  refine ⟨⟨calls ++ laterCalls, dealings, ?_, ?_, deals⟩, ?_, ?_⟩
  · rw [History.contacts_append, contacts, laterContacts, List.map_append, List.append_assoc]
  · intro lookup isLookup
    exact (List.mem_append.mp isLookup).elim (may lookup) (laterMay lookup)
  · rw [sameDealings]
    exact sessions
  · intro event isEvent isError
    rw [History.events_append] at isEvent
    rw [sameDealings]
    rcases List.mem_append.mp isEvent with isFirst | isSecond
    · exact (noError event isFirst isError).elim
    · exact failures event isSecond isError

/-- A consultation alone is a step of an errand for its account and method. -/
theorem Discipline.of_consults
    {account : String}
    {method : Method}
    {dealings : List Dealing}
    (named : errand.account = some account)
    (asks : errand.method = some method)
    (contacts : first.contacts = dealings.map .dealing)
    (consults : Consults (before + 1) configuration.endpoint account method dealings)
    (sessions : after = before + (openedSessions dealings).length)
    (failures :
      ∀ event ∈ first.events,
        event.severity = .error →
        ∃ failure, event.message = failure.message ∧ Explains dealings failure) :
    errand.Discipline configuration before after first := by
  have allDealings : first.dealings = dealings := by
    rw [History.dealings_eq_contacts, contacts]
    simp [Contact.dealing?, Function.comp_def]
  refine ⟨⟨[], dealings, contacts, by simp [MayLookUp],
    .inr ⟨account, method, named, asks, consults⟩⟩, ?_, ?_⟩
  · rw [allDealings]
    exact sessions
  · rw [allDealings]
    exact failures

end Errand

end LoginGate
