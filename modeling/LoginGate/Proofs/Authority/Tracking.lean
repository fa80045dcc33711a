import LoginGate.Proofs.Authority.Lifetime

namespace LoginGate.ScopeTable

/-!
# Slots and lifetimes

The slots of a table hold just what can be read off the steps so far: which
methods the current lifetimes have used, and which sessions they have opened.
Each step keeps this, and at the end of a run the open sessions are those that
the slots hold.
-/

variable {σ ε : Type}

/-- A scope holds what its lifetime so far tells: the methods used and the session opened. -/
structure Reflects (scope : Scope) (life : List (Step (Recorded ε))) : Prop where
  used : ∀ method, scope.used method = usesMethod life method
  session : sessionsOf (some life) = scope.session.toList

/-- A slot holds a scope exactly as long as there is a lifetime, and what it tells. -/
inductive SlotReflects : Option Scope → Option (List (Step (Recorded ε))) → Prop where
  | gone :
      SlotReflects none none
  | held {scope : Scope} {life : List (Step (Recorded ε))} :
      Reflects scope life →
      SlotReflects (some scope) (some life)

theorem Reflects.fresh : Reflects .fresh ([] : List (Step (Recorded ε))) where
  used method := by
    cases method <;> rfl
  session := rfl

theorem SlotReflects.successor (request : ScopeRequest) :
    SlotReflects request.successor
      (request.successor.map fun _ => ([] : List (Step (Recorded ε)))) := by
  cases request with
  | renew =>
      exact .held .fresh
  | _ =>
      exact .gone

theorem SlotReflects.sessions
    {slot : Option Scope}
    {current : Option (List (Step (Recorded ε)))}
    (reflects : SlotReflects slot current) :
    sessionsOf current = slotSessions slot := by
  cases reflects with
  | gone =>
      rfl
  | held reflects =>
      exact reflects.session

theorem Reflects.snoc_of_silent
    {scope : Scope}
    {life : List (Step (Recorded ε))}
    {step : Step (Recorded ε)}
    (reflects : Reflects scope life)
    (silent : step.history = [])
    (noNews : ∀ method, step.request.method? = some method → usesMethod life method = true) :
    Reflects scope (life ++ [step]) := by
  constructor
  case used =>
    intro method
    rw [reflects.used, usesMethod_snoc]
    cases same : step.request.method? == some method with
    | false =>
        rw [Bool.or_false]
    | true =>
        rw [noNews method (by simpa using same)]
        rfl
  case session =>
    rw [← reflects.session]
    simp [sessionsOf, silent]

theorem Reflects.snoc_of_method
    {scope after : Scope}
    {life : List (Step (Recorded ε))}
    {step : Step (Recorded ε)}
    {method : Method}
    (reflects : Reflects scope life)
    (isMethod : step.request.method? = some method)
    (uses : ∀ other, after.used other = (scope.use method).used other)
    (sessions :
      scope.session.toList ++ openedSessions step.history.dealings = after.session.toList) :
    Reflects after (life ++ [step]) := by
  constructor
  case used =>
    intro other
    rw [uses, Scope.used_use, reflects.used, usesMethod_snoc, isMethod, Option.some_beq_some]
  case session =>
    rw [← sessions, ← reflects.session]
    simp [sessionsOf]

/-- A turn of a slot that tells its lifetime is a lawful step, and the slot tells it again. -/
theorem stepLaw_of_turn
    {endpoint : Endpoint}
    {next number : Nat}
    {slot left : Option Scope}
    {current : Option (List (Step (Recorded ε)))}
    {request : ScopeRequest}
    {answer : ScopeAnswer}
    {history : History (Recorded ε)}
    (reflects : SlotReflects slot current)
    (turn : Turn endpoint next slot request answer history left) :
    StepLaw endpoint current ⟨number, request, answer, history⟩ ∧
      SlotReflects left (extendLifetime current ⟨number, request, answer, history⟩) := by
  cases turn with
  | ended ends dealings =>
      rw [extendLifetime_of_ends ends]
      rw [← reflects.sessions] at dealings
      exact ⟨.ended ends dealings, .successor request⟩
  | dropped lasting =>
      cases reflects with
      | gone =>
          rw [extendLifetime_of_lasting lasting]
          exact ⟨.dropped lasting, .gone⟩
  | connected =>
      cases reflects with
      | held reflects =>
          rw [extendLifetime_of_lasting rfl]
          refine ⟨.connected ?_, .held (reflects.snoc_of_silent rfl ?_)⟩
          · rw [reflects.session]
            simp [Option.isSome_iff_exists]
          · intro method isMethod
            simp [ScopeRequest.method?] at isMethod
  | repeated isMethod used =>
      cases reflects with
      | held reflects =>
          rw [extendLifetime_of_lasting (ScopeRequest.ends_eq_false isMethod)]
          have usedInLife := (reflects.used _).symm.trans used
          refine ⟨.repeated isMethod usedInLife, .held (reflects.snoc_of_silent rfl ?_)⟩
          intro method isAlso
          obtain rfl := Option.some.inj (isMethod.symm.trans isAlso)
          exact usedInLife
  | refused isMethod unused closed dealings =>
      cases reflects with
      | held reflects =>
          rw [extendLifetime_of_lasting (ScopeRequest.ends_eq_false isMethod)]
          have unusedInLife := (reflects.used _).symm.trans unused
          have noSession := reflects.session
          rw [closed] at noSession
          refine ⟨.refused isMethod unusedInLife noSession dealings,
            .held (reflects.snoc_of_method isMethod (fun _ => rfl) ?_)⟩
          simp [dealings, Dealing.opened?]
  | opened isMethod unused closed dealings exchange =>
      cases reflects with
      | held reflects =>
          rw [extendLifetime_of_lasting (ScopeRequest.ends_eq_false isMethod)]
          have unusedInLife := (reflects.used _).symm.trans unused
          have noSession := reflects.session
          rw [closed] at noSession
          refine ⟨.opened isMethod unusedInLife noSession dealings exchange,
            .held (reflects.snoc_of_method isMethod (fun _ => ?_) ?_)⟩
          · rename_i other
            cases other <;> rfl
          · simp only [closed, dealings, openedSessions_cons, openedSessions_nil,
              exchange.opened?_eq_none]
            rfl
  | reused isMethod unused held dealings exchange =>
      cases reflects with
      | held reflects =>
          rw [extendLifetime_of_lasting (ScopeRequest.ends_eq_false isMethod)]
          have unusedInLife := (reflects.used _).symm.trans unused
          have oneSession := reflects.session
          rw [held] at oneSession
          refine ⟨.reused isMethod unusedInLife oneSession dealings exchange,
            .held (reflects.snoc_of_method isMethod (fun _ => rfl) ?_)⟩
          simp [dealings, exchange.opened?_eq_none]

/-- The sessions that are held in the slots of a table, in order. -/
def heldSessions (table : ScopeTable) : List Nat :=
  table.flatMap slotSessions

theorem heldSessions_extend (number : Nat) (table : ScopeTable) :
    heldSessions (table.extend number) = heldSessions table := by
  simp [heldSessions, extend, slotSessions, Scope.fresh, List.flatMap_replicate]

/-- Changing a slot changes what is held by just what it held before and holds now. -/
theorem count_heldSessions_set
    {number : Nat}
    {table : ScopeTable}
    (inTable : number < table.length)
    (left : Option Scope)
    (session : Nat) :
    (heldSessions (table.set number left)).count session +
        (slotSessions (table.get number)).count session =
      (heldSessions table).count session + (slotSessions left).count session := by
  induction table generalizing number with
  | nil =>
      simp at inTable
  | cons slot rest inductionHypothesis =>
      cases number with
      | zero =>
          simp [heldSessions, get, List.count_append]
          omega
      | succ number =>
          have inRest : number < rest.length := by
            simpa using inTable
          have restBalance := inductionHypothesis inRest
          simp [heldSessions, get, List.count_append] at restBalance ⊢
          omega

section Order

variable {endpoint : Endpoint} {opened : Nat} {slot left : Option Scope}
variable {request : ScopeRequest} {answer : ScopeAnswer} {history : History (Recorded ε)}
variable {past later : List Dealing}

theorem inOrder_of_exchange
    {session : Nat}
    {message : Dealing}
    (exchange : Exchange session endpoint request message answer)
    (isOpen : session ∈ openSessions past) :
    message.InOrder past := by
  refine ⟨?_, ?_, ?_⟩
  · simp [exchange.opened?_eq_none]
  · simpa [exchange.messaged?_eq] using isOpen
  · simp [exchange.released?_eq_none]

/-- The dealings of a turn are in order where the slot's session is open. -/
theorem orderly_of_turn
    (turn : Turn endpoint (opened + 1) slot request answer history left)
    (isOpen : ∀ session ∈ slotSessions slot, session ∈ openSessions past)
    (numbered : ∀ session ∈ openedSessions past, session ≤ opened)
    (rest : Orderly (past ++ history.dealings) later) :
    Orderly past (history.dealings ++ later) := by
  have isNew : opened + 1 ∉ openedSessions past := by
    intro isOld
    exact Nat.not_succ_le_self opened (numbered _ isOld)
  cases turn with
  | ended ends dealings =>
      rw [dealings] at rest ⊢
      cases held : slot.bind Scope.session with
      | none =>
          simpa [slotSessions, held] using rest
      | some session =>
          have sessionIsOpen : session ∈ openSessions past :=
            isOpen session (by simp [slotSessions, held])
          simp only [slotSessions, held, Option.toList_some, List.map_cons, List.map_nil] at rest ⊢
          exact .next (Dealing.inOrder_release sessionIsOpen) rest
  | dropped =>
      simpa using rest
  | connected =>
      simpa using rest
  | repeated =>
      simpa using rest
  | refused isMethod unused closed dealings =>
      rw [dealings] at rest ⊢
      exact .next (Dealing.inOrder_refused _) rest
  | @opened _ _ _ message _ _ isMethod unused closed dealings exchange =>
      rw [dealings] at rest ⊢
      refine .next (Dealing.inOrder_connect isNew) (.next (inOrder_of_exchange exchange ?_) ?_)
      · rw [openSessions_snoc]
        exact List.mem_cons_self
      · simpa using rest
  | @reused scope _ _ session _ _ _ isMethod unused held dealings exchange =>
      rw [dealings] at rest ⊢
      have sessionIsOpen : session ∈ openSessions past :=
        isOpen session (by simp [slotSessions, held])
      exact .next (inOrder_of_exchange exchange sessionIsOpen) rest

/-- Behind a turn just the slot's session is open that was not open before, and the other way. -/
theorem count_openSessions_of_turn
    (turn : Turn endpoint (opened + 1) slot request answer history left)
    (isOpen : ∀ session ∈ slotSessions slot, session ∈ openSessions past)
    (session : Nat) :
    (openSessions (past ++ history.dealings)).count session +
        (slotSessions slot).count session =
      (openSessions past).count session + (slotSessions left).count session := by
  cases turn with
  | ended ends dealings =>
      have nothingHeld : slotSessions request.successor = [] := by
        cases request <;> rfl
      rw [dealings, nothingHeld]
      cases held : slot.bind Scope.session with
      | none =>
          simp [slotSessions, held]
      | some released =>
          have releasedIsOpen : released ∈ openSessions past :=
            isOpen released (by simp [slotSessions, held])
          have tracked := (Dealing.inOrder_release releasedIsOpen).count_track session
          simpa [slotSessions, held, Dealing.released?, Dealing.opened?] using tracked
  | dropped =>
      simp
  | connected =>
      simp
  | repeated =>
      simp
  | refused isMethod unused closed dealings =>
      simp [dealings, Dealing.track, slotSessions]
  | @opened _ _ _ message _ _ isMethod unused closed dealings exchange =>
      have sameDealings :
          past ++ history.dealings =
            past ++ [.connect (opened + 1) endpoint (.ok ())] ++ [message] := by
        simp [dealings]
      rw [sameDealings, openSessions_snoc, openSessions_snoc, exchange.track_eq]
      simp [Dealing.track, slotSessions, closed, List.count_cons]
  | reused isMethod unused held dealings exchange =>
      rw [dealings, openSessions_snoc, exchange.track_eq]
      simp [slotSessions]

theorem openedSessions_of_turn
    (turn : Turn endpoint (opened + 1) slot request answer history left)
    {session : Nat}
    (isOpened : session ∈ openedSessions history.dealings) :
    session = opened + 1 := by
  cases turn with
  | ended ends dealings =>
      simp [dealings, openedSessions_map_release] at isOpened
  | dropped =>
      simp at isOpened
  | connected =>
      simp at isOpened
  | repeated =>
      simp at isOpened
  | refused isMethod unused closed dealings =>
      simp [dealings, Dealing.opened?] at isOpened
  | opened isMethod unused closed dealings exchange =>
      have opens : (Dealing.connect (opened + 1) endpoint (.ok ())).opened? = some (opened + 1) :=
        rfl
      simpa [dealings, exchange.opened?_eq_none, opens] using isOpened
  | reused isMethod unused held dealings exchange =>
      simp [dealings, exchange.opened?_eq_none] at isOpened

end Order

/-- What a table, the steps so far and the number of opened sessions have to do with each other. -/
structure Tracks
    (table : ScopeTable)
    (earlier : List (Step (Recorded ε)))
    (opened : Nat) : Prop where
  reflects : ∀ number, SlotReflects (table.get number) (lifetime number earlier)
  balance :
    ∀ session,
      (openSessions (dealingsIn earlier)).count session = (heldSessions table).count session
  numbered : ∀ session ∈ openedSessions (dealingsIn earlier), session ≤ opened

theorem Tracks.start (opened : Nat) : Tracks [] ([] : List (Step (Recorded ε))) opened where
  reflects _ := .held .fresh
  balance _ := rfl
  numbered := by
    simp [dealingsIn]

theorem Tracks.isOpen
    {table : ScopeTable}
    {earlier : List (Step (Recorded ε))}
    {opened : Nat}
    (tracks : Tracks table earlier opened)
    (number : Nat) :
    ∀ session ∈ slotSessions (table.get number), session ∈ openSessions (dealingsIn earlier) := by
  intro session isHeld
  have heldOnce := List.count_pos_iff.mpr isHeld
  have taken := count_heldSessions_set (lt_length_extend number table) none session
  rw [get_extend, heldSessions_extend] at taken
  rw [← List.count_pos_iff, tracks.balance]
  simp only [slotSessions, Option.bind_none, Option.toList_none, List.count_nil] at taken
  simp only [slotSessions] at heldOnce
  omega

/-- A request takes a table and the steps so far to a table and one lawful step more. -/
theorem Tracks.turn
    {endpoint : Endpoint}
    {table : ScopeTable}
    {earlier : List (Step (Recorded ε))}
    {opened after number : Nat}
    {request : ScopeRequest}
    {answer : ScopeAnswer}
    {history : History (Recorded ε)}
    {left : Option Scope}
    (tracks : Tracks table earlier opened)
    (turn : Turn endpoint (opened + 1) (table.get number) request answer history left)
    (sessions : after = opened + (openedSessions history.dealings).length) :
    Tracks ((table.extend number).set number left)
      (earlier ++ [⟨number, request, answer, history⟩]) after := by
  have inTable := lt_length_extend number table
  constructor
  case reflects =>
    intro other
    rw [get_set inTable, get_extend]
    split
    · rename_i same
      subst same
      exact (lifetime_snoc_same earlier ⟨other, request, answer, history⟩).symm ▸
        (stepLaw_of_turn (tracks.reflects other) turn).2
    · rename_i different
      rw [lifetime_snoc_other earlier (Ne.symm different)]
      exact tracks.reflects other
  case balance =>
    intro session
    have opens := count_openSessions_of_turn turn (tracks.isOpen number) session
    have holds := count_heldSessions_set inTable left session
    have balanced := tracks.balance session
    rw [get_extend, heldSessions_extend] at holds
    simp only [dealingsIn_snoc]
    omega
  case numbered =>
    intro session isOpened
    simp only [dealingsIn_snoc, openedSessions_append] at isOpened
    rcases List.mem_append.mp isOpened with isOld | isNew
    · have old := tracks.numbered session isOld
      omega
    · have new := openedSessions_of_turn turn isNew
      have atLeastOne := List.length_pos_of_mem isNew
      omega

/-- How the answers to requests follow from a table and the steps so far. -/
structure Follows
    (endpoint : Endpoint)
    (earlier : List (Step (Recorded ε)))
    (requests : List (Nat × ScopeRequest))
    (report :
      Report (World σ) (Effect (Recorded ε)) (List (Step (Recorded ε)) × ScopeTable)) : Prop where
  requested : report.answer.1.map (fun step => (step.number, step.request)) = requests
  lawful : Lawful endpoint earlier report.answer.1
  tracks : Tracks report.answer.2 (earlier ++ report.answer.1) report.world.sessionsOpened
  orderly :
    ∀ later,
      Orderly (dealingsIn (earlier ++ report.answer.1)) later →
      Orderly (dealingsIn earlier) (dealingsIn report.answer.1 ++ later)
  whole : History.dealings report.effects = dealingsIn report.answer.1

theorem follows_answerEach
    (authority : Authority σ ε)
    (endpoint : Endpoint)
    (requests : List (Nat × ScopeRequest))
    {table : ScopeTable}
    {earlier : List (Step (Recorded ε))}
    {world : World σ}
    (tracks : Tracks table earlier world.sessionsOpened) :
    Follows endpoint earlier requests
      (Interaction.run (answerEach authority.recorded endpoint requests table) world) := by
  induction requests generalizing table earlier world with
  | nil =>
      refine ⟨rfl, .done, ?_, ?_, rfl⟩
      · simpa [answerEach] using tracks
      · intro later orderly
        simpa [answerEach, dealingsIn] using orderly
  | cons first rest inductionHypothesis =>
      obtain ⟨number, request⟩ := first
      obtain ⟨turn, sessions⟩ :=
        takesTurn_answerSlot authority endpoint world request (table.get number)
      have law : StepLaw endpoint (lifetime number earlier) ⟨number, request, _, _⟩ :=
        (stepLaw_of_turn (tracks.reflects number) turn).1
      have follows := inductionHypothesis (tracks.turn turn sessions)
      simp only [answerEach, answer_eq_answerSlot, Interaction.run_bind, Interaction.run_observe,
        Interaction.run_map, Interaction.run_pure, List.append_nil]
      constructor
      case requested =>
        rw [List.map_cons, follows.requested]
      case lawful =>
        exact .next law follows.lawful
      case tracks =>
        simpa using follows.tracks
      case orderly =>
        intro later orderly
        have restOrderly := follows.orderly later (by simpa using orderly)
        rw [dealingsIn_snoc] at restOrderly
        simpa [dealingsIn] using
          orderly_of_turn turn (tracks.isOpen number) tracks.numbered restOrderly
      case whole =>
        rw [History.dealings_append, follows.whole]
        rfl

theorem dealings_finishAll
    (authority : Authority σ ε)
    (table : ScopeTable)
    (world : World σ) :
    History.dealings (Interaction.run (table.finishAll authority.recorded) world).effects =
      (heldSessions table).map .release := by
  induction table generalizing world with
  | nil =>
      rfl
  | cons slot rest inductionHypothesis =>
      simp only [finishAll, Interaction.run_bind, History.dealings_append,
        (finishSlot_recorded authority world slot).1, inductionHypothesis]
      simp [heldSessions]

/-- Giving back all sessions that are open is in order, and leaves none open. -/
theorem orderly_release
    {past : List Dealing}
    {sessions : List Nat}
    (balance : ∀ session, (openSessions past).count session = sessions.count session) :
    Orderly past (sessions.map .release) := by
  induction sessions generalizing past with
  | nil =>
      refine .done (List.eq_nil_iff_forall_not_mem.mpr ?_)
      intro session isOpen
      have noneHeld := balance session
      have atLeastOnce := List.count_pos_iff.mpr isOpen
      rw [List.count_nil] at noneHeld
      omega
  | cons released rest inductionHypothesis =>
      have isOpen : released ∈ openSessions past := by
        rw [← List.count_pos_iff, balance]
        simp
      have inOrder : (Dealing.release released).InOrder past :=
        Dealing.inOrder_release isOpen
      refine .next inOrder (inductionHypothesis ?_)
      intro session
      have tracked := inOrder.count_track session
      have balanced := balance session
      simp only [Dealing.released?, Dealing.opened?, Option.toList_some, Option.toList_none,
        List.count_nil] at tracked
      rw [List.count_cons] at balanced
      rw [List.count_singleton] at tracked
      rw [openSessions_snoc]
      omega

/-- The sessions in the slots are those of the current lifetimes. -/
theorem Tracks.mem_heldSessions_iff
    {table : ScopeTable}
    {earlier : List (Step (Recorded ε))}
    {opened : Nat}
    (tracks : Tracks table earlier opened)
    (session : Nat) :
    session ∈ heldSessions table ↔ ∃ number, session ∈ sessionsOf (lifetime number earlier) := by
  constructor
  · intro isHeld
    obtain ⟨slot, isSlot, inSlot⟩ := List.mem_flatMap.mp isHeld
    obtain ⟨number, inTable, rfl⟩ := List.getElem_of_mem isSlot
    refine ⟨number, ?_⟩
    rw [(tracks.reflects number).sessions]
    simpa [get, inTable] using inSlot
  · rintro ⟨number, inLife⟩
    rw [(tracks.reflects number).sessions] at inLife
    have isOpen := List.count_pos_iff.mpr (tracks.isOpen number session inLife)
    rw [tracks.balance] at isOpen
    exact List.count_pos_iff.mp isOpen

end LoginGate.ScopeTable
