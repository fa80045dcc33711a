import LoginGate.Proofs.Authority.Tracking

namespace LoginGate.ScopeTable

/-!
# What interleaved scopes do with their authority

A run of scopes starts with an empty table and ends with the end of every scope
that is left. Its steps are lawful, what a lifetime sends is bounded, and every
session that was opened has been given back once. A method that was used up may
be asked for again: nothing else in the run depends on it.
-/

variable {σ ε : Type}

section Repeats

variable {endpoint : Endpoint} {number : Nat} {request : ScopeRequest} {method : Method}

theorem lt_length_of_used
    {table : ScopeTable}
    {scope : Scope}
    (held : table.get number = some scope)
    (used : scope.used method = true) :
    number < table.length := by
  refine Nat.lt_of_not_le fun outside => ?_
  obtain rfl : Scope.fresh = scope := by
    simpa [get, List.getD_eq_getElem?_getD, List.getElem?_eq_none outside] using held
  cases method <;> simp [Scope.used, Scope.fresh] at used

theorem extend_of_lt
    {table : ScopeTable}
    (inTable : number < table.length) :
    table.extend number = table := by
  have nothingMissing : number + 1 - table.length = 0 := by
    omega
  simp [extend, nothingMissing]

/-- A slot whose method is used up answers, and leaves the table and the world as they are. -/
theorem run_answer_of_used
    (authority : Authority σ ε)
    (endpoint : Endpoint)
    {table : ScopeTable}
    {scope : Scope}
    (held : table.get number = some scope)
    (isMethod : request.method? = some method)
    (used : scope.used method = true)
    (world : World σ) :
    Interaction.run (table.answer authority endpoint number request) world =
      ⟨(.failed (.alreadySent method) method, table), world, []⟩ := by
  have inTable := lt_length_of_used held used
  have unchanged : table.set number (some scope) = table := by
    rw [← held, set_get inTable]
  rw [answer_eq_answerSlot, held, Scope.answerSlot_of_method authority endpoint isMethod,
    extend_of_lt inTable]
  simp [used, unchanged]

theorem run_answerEach_append
    (authority : Authority σ ε)
    (endpoint : Endpoint)
    (before after : List (Nat × ScopeRequest))
    (table : ScopeTable)
    (world : World σ) :
    Interaction.run (answerEach authority endpoint (before ++ after) table) world =
      let first := Interaction.run (answerEach authority endpoint before table) world
      let second :=
        Interaction.run (answerEach authority endpoint after first.answer.2) first.world
      ⟨(first.answer.1 ++ second.answer.1, second.answer.2), second.world,
        first.effects ++ second.effects⟩ := by
  induction before generalizing table world with
  | nil =>
      rfl
  | cons first rest inductionHypothesis =>
      obtain ⟨number, request⟩ := first
      simp [answerEach, inductionHypothesis]

theorem SlotReflects.exists_used
    {slot : Option Scope}
    {life : List (Step (Recorded ε))}
    (reflects : SlotReflects slot (some life))
    (used : usesMethod life method = true) :
    ∃ scope, slot = some scope ∧ scope.used method = true := by
  cases reflects with
  | held reflects =>
      exact ⟨_, rfl, (reflects.used method).trans used⟩

end Repeats

variable (authority : Authority σ ε) (endpoint : Endpoint)
variable (requests : List (Nat × ScopeRequest)) (world : World σ)

/-- What a run of scopes leaves behind when the dealings with their authority are recorded. -/
def scoping :
    Report (World σ) (Effect (Recorded ε)) (List (Step (Recorded ε)) × History (Recorded ε)) :=
  Interaction.run (ScopeTable.run authority.recorded endpoint requests) world

/-- The recorded steps of a run. -/
def stepsOf : List (Step (Recorded ε)) :=
  (scoping authority endpoint requests world).answer.1

/-- The recorded dealings of the end of a run. -/
def endingOf : List Dealing :=
  History.dealings (scoping authority endpoint requests world).answer.2

/-- The answer to a method that was used up, as one step more between those of a run. -/
def repeatedBetween
    (count number : Nat)
    (request : ScopeRequest)
    (method : Method)
    (steps : List (Step (Recorded ε))) :
    List (Step (Recorded ε)) :=
  steps.take count ++
    ⟨number, request, .failed (.alreadySent method) method, []⟩ :: steps.drop count

/--
What can be said of a whole run of scopes. Recording changes nothing. The steps
answer the requests, and each follows from its lifetime. What a lifetime sends is
bounded at every point of the run. The end of the run gives back the sessions of
the lifetimes that are left. All dealings together are in order, and every opened
session is given back once. A request for a method that was used up gets its
answer, and the run is the same as without it.
-/
structure ScopeDiscipline : Prop where
  faithful :
    Interaction.run (ScopeTable.run authority endpoint requests) world =
      ⟨((stepsOf authority endpoint requests world).map Step.withoutRecord,
          History.withoutRecord (scoping authority endpoint requests world).answer.2),
        (scoping authority endpoint requests world).world,
        History.withoutRecord (scoping authority endpoint requests world).effects⟩
  requested :
    (stepsOf authority endpoint requests world).map (fun step => (step.number, step.request)) =
      requests
  lawful : Lawful endpoint [] (stepsOf authority endpoint requests world)
  bounds :
    ∀ earlier, earlier <+: stepsOf authority endpoint requests world →
      ∀ number life, lifetime number earlier = some life → LifetimeBounds life
  ending :
    ∃ sessions : List Nat,
      endingOf authority endpoint requests world = sessions.map .release ∧
        ∀ session,
          session ∈ sessions ↔
            ∃ number,
              session ∈
                sessionsOf (lifetime number (stepsOf authority endpoint requests world))
  whole :
    History.dealings (scoping authority endpoint requests world).effects =
      dealingsIn (stepsOf authority endpoint requests world) ++
        endingOf authority endpoint requests world
  orderly : Orderly [] (History.dealings (scoping authority endpoint requests world).effects)
  openedOnce :
    (openedSessions
      (History.dealings (scoping authority endpoint requests world).effects)).Nodup
  releasedOnce :
    (releasedSessions (History.dealings (scoping authority endpoint requests world).effects)).Perm
      (openedSessions (History.dealings (scoping authority endpoint requests world).effects))
  repeats :
    ∀ before after number request method life,
      requests = before ++ after →
      lifetime number ((stepsOf authority endpoint requests world).take before.length) =
        some life →
      request.method? = some method →
      usesMethod life method = true →
      scoping authority endpoint (before ++ (number, request) :: after) world =
        ⟨(repeatedBetween before.length number request method
              (stepsOf authority endpoint requests world),
            (scoping authority endpoint requests world).answer.2),
          (scoping authority endpoint requests world).world,
          (scoping authority endpoint requests world).effects⟩

/-- The requests of a run, answered from the empty table. -/
def answering :
    Report (World σ) (Effect (Recorded ε)) (List (Step (Recorded ε)) × ScopeTable) :=
  Interaction.run (answerEach authority.recorded endpoint requests []) world

/-- The end of every scope behind the requests of a run. -/
def finishing : Report (World σ) (Effect (Recorded ε)) Unit :=
  Interaction.run
    ((answering authority endpoint requests world).answer.2.finishAll authority.recorded)
    (answering authority endpoint requests world).world

theorem scoping_eq :
    scoping authority endpoint requests world =
      ⟨((answering authority endpoint requests world).answer.1,
          (finishing authority endpoint requests world).effects),
        (finishing authority endpoint requests world).world,
        (answering authority endpoint requests world).effects ++
          (finishing authority endpoint requests world).effects⟩ := by
  simp [scoping, ScopeTable.run, answering, finishing]

theorem follows_answering :
    Follows endpoint [] requests (answering authority endpoint requests world) :=
  follows_answerEach authority endpoint requests (.start world.sessionsOpened)

theorem stepsOf_eq :
    stepsOf authority endpoint requests world =
      (answering authority endpoint requests world).answer.1 := by
  rw [stepsOf, scoping_eq]

theorem endingOf_eq :
    endingOf authority endpoint requests world =
      (heldSessions (answering authority endpoint requests world).answer.2).map .release := by
  rw [endingOf, scoping_eq]
  exact dealings_finishAll authority _ _

theorem dealings_scoping :
    History.dealings (scoping authority endpoint requests world).effects =
      dealingsIn (stepsOf authority endpoint requests world) ++
        endingOf authority endpoint requests world := by
  rw [stepsOf_eq, endingOf, scoping_eq, History.dealings_append,
    (follows_answering authority endpoint requests world).whole]

theorem orderly_scoping :
    Orderly [] (History.dealings (scoping authority endpoint requests world).effects) := by
  have follows := follows_answering authority endpoint requests world
  rw [dealings_scoping, stepsOf_eq, endingOf_eq]
  refine follows.orderly _ (orderly_release ?_)
  exact follows.tracks.balance

theorem mem_ending_iff (session : Nat) :
    session ∈ heldSessions (answering authority endpoint requests world).answer.2 ↔
      ∃ number,
        session ∈ sessionsOf (lifetime number (stepsOf authority endpoint requests world)) := by
  rw [stepsOf_eq]
  exact (follows_answering authority endpoint requests world).tracks.mem_heldSessions_iff session

theorem length_answering :
    (answering authority endpoint requests world).answer.1.length = requests.length := by
  rw [← List.length_map, (follows_answering authority endpoint requests world).requested]

/-- The steps of the first requests are those that are made without the others. -/
theorem take_stepsOf (before after : List (Nat × ScopeRequest)) :
    (stepsOf authority endpoint (before ++ after) world).take before.length =
      (answering authority endpoint before world).answer.1 := by
  rw [stepsOf_eq, ← length_answering authority endpoint before world]
  unfold answering
  rw [run_answerEach_append, List.take_left]

/-- A request for a method that was used up changes nothing but that it is answered. -/
theorem answering_repeated
    {before after : List (Nat × ScopeRequest)}
    {number : Nat}
    {request : ScopeRequest}
    {method : Method}
    {life : List (Step (Recorded ε))}
    (current :
      lifetime number (answering authority endpoint before world).answer.1 = some life)
    (isMethod : request.method? = some method)
    (used : usesMethod life method = true) :
    answering authority endpoint (before ++ (number, request) :: after) world =
      ⟨(repeatedBetween before.length number request method
            (answering authority endpoint (before ++ after) world).answer.1,
          (answering authority endpoint (before ++ after) world).answer.2),
        (answering authority endpoint (before ++ after) world).world,
        (answering authority endpoint (before ++ after) world).effects⟩ := by
  have follows := follows_answering authority endpoint before world
  have reflects := follows.tracks.reflects number
  rw [List.nil_append, current] at reflects
  obtain ⟨scope, held, scopeUsed⟩ := reflects.exists_used used
  have sameLength := length_answering authority endpoint before world
  unfold answering at held sameLength ⊢
  rw [run_answerEach_append, run_answerEach_append]
  simp only [answerEach, Interaction.run_bind, Interaction.run_observe, Interaction.run_pure,
    run_answer_of_used authority.recorded endpoint held isMethod scopeUsed, List.nil_append,
    List.append_nil, repeatedBetween]
  rw [← sameLength, List.take_left, List.drop_left]

/-- Every run of scopes keeps the discipline, over any authority. -/
theorem scopeDiscipline : ScopeDiscipline authority endpoint requests world := by
  have follows := follows_answering authority endpoint requests world
  have orderly := orderly_scoping authority endpoint requests world
  constructor
  case faithful =>
    exact run_run_of_recorded authority endpoint requests world
  case requested =>
    rw [stepsOf_eq]
    exact follows.requested
  case lawful =>
    rw [stepsOf_eq]
    exact follows.lawful
  case bounds =>
    rw [stepsOf_eq]
    refine follows.lawful.bounds ?_
    intro number life current
    obtain rfl : [] = life := Option.some.inj current
    exact .empty
  case ending =>
    exact ⟨_, endingOf_eq authority endpoint requests world,
      mem_ending_iff authority endpoint requests world⟩
  case whole =>
    exact dealings_scoping authority endpoint requests world
  case orderly =>
    exact orderly
  case openedOnce =>
    exact orderly.released_perm_opened.1
  case releasedOnce =>
    exact orderly.released_perm_opened.2
  case repeats =>
    rintro before after number request method life rfl current isMethod used
    rw [take_stepsOf] at current
    rw [scoping_eq, scoping_eq, stepsOf_eq, finishing, finishing,
      answering_repeated authority endpoint world current isMethod used]

end LoginGate.ScopeTable
