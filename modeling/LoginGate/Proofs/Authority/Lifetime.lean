import LoginGate.Proofs.Authority.Turn

namespace LoginGate

/-!
# Lifetimes of scopes

A scope lives from the beginning of a run, or from the request that puts it in
its place, to the request that ends it, or to the end of the run. The steps of a
run alone tell which of them belong to one lifetime, and a law says how each step
follows from those in front of it in the same lifetime.
-/

variable {ε : Type}

namespace Dealing

/-- Whether a dealing is an attempt to open a session. -/
def isConnect : Dealing → Bool
  | .connect .. =>
      true
  | _ =>
      false

/-- Whether a dealing is a message that waits for an answer. -/
def isCall : Dealing → Bool
  | .call .. =>
      true
  | _ =>
      false

/-- Whether a dealing is a message that waits for nothing. -/
def isSend : Dealing → Bool
  | .send .. =>
      true
  | _ =>
      false

end Dealing

namespace Exchange

variable {session : Nat} {endpoint : Endpoint} {request : ScopeRequest} {message : Dealing}
variable {answer : ScopeAnswer} {method : Method}

theorem messaged?_eq (exchange : Exchange session endpoint request message answer) :
    message.messaged? = some session := by
  cases exchange <;> rfl

theorem released?_eq_none (exchange : Exchange session endpoint request message answer) :
    message.released? = none := by
  cases exchange <;> rfl

theorem track_eq
    (exchange : Exchange session endpoint request message answer)
    (openBefore : List Nat) :
    message.track openBefore = openBefore := by
  cases exchange <;> rfl

theorem countP_isConnect (exchange : Exchange session endpoint request message answer) :
    [message].countP Dealing.isConnect = 0 := by
  cases exchange <;> rfl

theorem countP_isCall
    (exchange : Exchange session endpoint request message answer)
    (isMethod : request.method? = some method) :
    [message].countP Dealing.isCall = (method == .checkLogin).toNat := by
  cases exchange <;> obtain rfl := Option.some.inj isMethod <;> rfl

theorem countP_isSend
    (exchange : Exchange session endpoint request message answer)
    (isMethod : request.method? = some method) :
    [message].countP Dealing.isSend = (method == .notifyLogout).toNat := by
  cases exchange <;> obtain rfl := Option.some.inj isMethod <;> rfl

end Exchange

namespace ScopeTable

/-- The dealings of steps, in order. -/
def dealingsIn (steps : List (Step (Recorded ε))) : List Dealing :=
  steps.flatMap fun step => step.history.dealings

/-- The steps of a lifetime after one more step; there is no lifetime behind a drop. -/
def extendLifetime (life : Option (List (Step ε))) (step : Step ε) : Option (List (Step ε)) :=
  match step.request with
  | .renew =>
      some []
  | .drop =>
      none
  | _ =>
      life.map (· ++ [step])

/-- The steps so far in the current lifetime of the scope with a number. -/
def lifetime (number : Nat) (steps : List (Step ε)) : Option (List (Step ε)) :=
  steps.foldl
    (fun life step => if step.number = number then extendLifetime life step else life)
    (some [])

/-- Whether a method was asked for in a lifetime. -/
def usesMethod (life : List (Step ε)) (method : Method) : Bool :=
  life.any fun step => step.request.method? == some method

/-- The sessions that were opened in a lifetime, if there is one. -/
def sessionsOf (life : Option (List (Step (Recorded ε)))) : List Nat :=
  openedSessions (dealingsIn (life.getD []))

/--
How a step follows from the current lifetime of its scope. A method is used once
in a lifetime; it goes out on the lifetime's session, which is opened if there is
none, and given back by the step that ends the lifetime.
-/
inductive StepLaw (endpoint : Endpoint) :
    Option (List (Step (Recorded ε))) → Step (Recorded ε) → Prop where
  | ended {life : Option (List (Step (Recorded ε)))} {number : Nat}
      {request : ScopeRequest} {history : History (Recorded ε)} :
      request.ends = true →
      history.dealings = (sessionsOf life).map .release →
      StepLaw endpoint life ⟨number, request, .done, history⟩
  | dropped {number : Nat} {request : ScopeRequest} :
      request.ends = false →
      StepLaw endpoint none ⟨number, request, .dropped, []⟩
  | connected {life : List (Step (Recorded ε))} {number : Nat} {open? : Bool} :
      (open? = true ↔ ∃ session, session ∈ sessionsOf (some life)) →
      StepLaw endpoint (some life) ⟨number, .isConnected, .connected open?, []⟩
  | repeated {life : List (Step (Recorded ε))} {number : Nat}
      {request : ScopeRequest} {method : Method} :
      request.method? = some method →
      usesMethod life method = true →
      StepLaw endpoint (some life)
        ⟨number, request, .failed (.alreadySent method) method, []⟩
  | refused {life : List (Step (Recorded ε))} {number session : Nat}
      {request : ScopeRequest} {method : Method} {failure : AuthorityError}
      {history : History (Recorded ε)} :
      request.method? = some method →
      usesMethod life method = false →
      sessionsOf (some life) = [] →
      history.dealings = [.connect session endpoint (.error failure)] →
      StepLaw endpoint (some life) ⟨number, request, .failed failure method, history⟩
  | opened {life : List (Step (Recorded ε))} {number session : Nat}
      {request : ScopeRequest} {method : Method} {message : Dealing}
      {answer : ScopeAnswer} {history : History (Recorded ε)} :
      request.method? = some method →
      usesMethod life method = false →
      sessionsOf (some life) = [] →
      history.dealings = [.connect session endpoint (.ok ()), message] →
      Exchange session endpoint request message answer →
      StepLaw endpoint (some life) ⟨number, request, answer, history⟩
  | reused {life : List (Step (Recorded ε))} {number session : Nat}
      {request : ScopeRequest} {method : Method} {message : Dealing}
      {answer : ScopeAnswer} {history : History (Recorded ε)} :
      request.method? = some method →
      usesMethod life method = false →
      sessionsOf (some life) = [session] →
      history.dealings = [message] →
      Exchange session endpoint request message answer →
      StepLaw endpoint (some life) ⟨number, request, answer, history⟩

/-- Steps that each follow from the lifetimes in front of them. -/
inductive Lawful (endpoint : Endpoint) :
    (earlier : List (Step (Recorded ε))) → List (Step (Recorded ε)) → Prop where
  | done {earlier : List (Step (Recorded ε))} :
      Lawful endpoint earlier []
  | next {earlier : List (Step (Recorded ε))} {step : Step (Recorded ε)}
      {rest : List (Step (Recorded ε))} :
      StepLaw endpoint (lifetime step.number earlier) step →
      Lawful endpoint (earlier ++ [step]) rest →
      Lawful endpoint earlier (step :: rest)

/-- Every message goes out on a session that was opened before by the same dealings. -/
def OwnSessions (dealings : List Dealing) : Prop :=
  ∀ before dealing after,
    dealings = before ++ dealing :: after →
    ∀ session, dealing.messaged? = some session → session ∈ openedSessions before

/-- What goes out in one lifetime, and on which session. -/
structure LifetimeBounds (life : List (Step (Recorded ε))) : Prop where
  oneQuestion : (dealingsIn life).countP Dealing.isCall ≤ 1
  oneNotice : (dealingsIn life).countP Dealing.isSend ≤ 1
  twoAttempts : (dealingsIn life).countP Dealing.isConnect ≤ 2
  oneSession : (sessionsOf (some life)).length ≤ 1
  ownSessions : OwnSessions (dealingsIn life)
  keptSession : releasedSessions (dealingsIn life) = []

@[simp] theorem dealingsIn_snoc (steps : List (Step (Recorded ε))) (step : Step (Recorded ε)) :
    dealingsIn (steps ++ [step]) = dealingsIn steps ++ step.history.dealings := by
  simp [dealingsIn]

@[simp] theorem usesMethod_snoc (life : List (Step ε)) (step : Step ε) (method : Method) :
    usesMethod (life ++ [step]) method =
      (usesMethod life method || step.request.method? == some method) := by
  simp [usesMethod]

theorem extendLifetime_of_lasting
    {step : Step ε}
    (lasting : step.request.ends = false)
    (life : Option (List (Step ε))) :
    extendLifetime life step = life.map (· ++ [step]) := by
  unfold extendLifetime
  cases request : step.request <;> simp [request, ScopeRequest.ends] at lasting ⊢

theorem extendLifetime_of_ends
    {step : Step ε}
    (ends : step.request.ends = true)
    (life : Option (List (Step ε))) :
    extendLifetime life step = step.request.successor.map fun _ => [] := by
  unfold extendLifetime
  cases request : step.request <;>
    simp [request, ScopeRequest.ends, ScopeRequest.successor] at ends ⊢

theorem lifetime_snoc_same (steps : List (Step ε)) (step : Step ε) :
    lifetime step.number (steps ++ [step]) = extendLifetime (lifetime step.number steps) step := by
  simp [lifetime]

theorem lifetime_snoc_other
    {number : Nat}
    (steps : List (Step ε))
    {step : Step ε}
    (other : step.number ≠ number) :
    lifetime number (steps ++ [step]) = lifetime number steps := by
  simp [lifetime, other]

theorem OwnSessions.snoc
    {dealings : List Dealing}
    {dealing : Dealing}
    (own : OwnSessions dealings)
    (ownLast : ∀ session, dealing.messaged? = some session → session ∈ openedSessions dealings) :
    OwnSessions (dealings ++ [dealing]) := by
  intro before other after shape session isMessage
  rcases List.eq_nil_or_concat after with rfl | ⟨later, last, rfl⟩
  · obtain ⟨rfl, sameLast⟩ := List.append_inj' shape rfl
    obtain rfl := List.singleton_inj.mp sameLast
    exact ownLast session isMessage
  · have front : dealings = before ++ other :: later := by
      rw [List.concat_eq_append, ← List.cons_append, ← List.append_assoc] at shape
      exact (List.append_inj' shape rfl).1
    exact own before other later front session isMessage

/-- The bounds of a lifetime as steps keep them: what goes out is paid for by a method. -/
structure Tally (life : List (Step (Recorded ε))) : Prop where
  calls : (dealingsIn life).countP Dealing.isCall ≤ (usesMethod life .checkLogin).toNat
  sends : (dealingsIn life).countP Dealing.isSend ≤ (usesMethod life .notifyLogout).toNat
  connects :
    (dealingsIn life).countP Dealing.isConnect ≤
      (usesMethod life .checkLogin).toNat + (usesMethod life .notifyLogout).toNat
  sessions : (sessionsOf (some life)).length ≤ 1
  own : OwnSessions (dealingsIn life)
  kept : releasedSessions (dealingsIn life) = []

namespace Tally

variable {endpoint : Endpoint} {life : List (Step (Recorded ε))} {step : Step (Recorded ε)}

theorem bounds (tally : Tally life) : LifetimeBounds life where
  oneQuestion := Nat.le_trans tally.calls (Bool.toNat_le _)
  oneNotice := Nat.le_trans tally.sends (Bool.toNat_le _)
  twoAttempts :=
    Nat.le_trans tally.connects (Nat.add_le_add (Bool.toNat_le _) (Bool.toNat_le _))
  oneSession := tally.sessions
  ownSessions := tally.own
  keptSession := tally.kept

theorem empty : Tally ([] : List (Step (Recorded ε))) :=
  ⟨Nat.le_refl 0, Nat.le_refl 0, Nat.le_refl 0, Nat.zero_le 1,
    by simp [OwnSessions, dealingsIn], rfl⟩

theorem snoc_of_silent (tally : Tally life) (silent : step.history = []) :
    Tally (life ++ [step]) := by
  have sameDealings : dealingsIn (life ++ [step]) = dealingsIn life := by
    simp [silent]
  have moreUsed (method : Method) :
      (usesMethod life method).toNat ≤ (usesMethod (life ++ [step]) method).toNat := by
    rw [usesMethod_snoc]
    cases usesMethod life method with
    | false =>
        exact Nat.zero_le _
    | true =>
        exact Nat.le_refl 1
  constructor
  case calls =>
    rw [sameDealings]
    exact Nat.le_trans tally.calls (moreUsed _)
  case sends =>
    rw [sameDealings]
    exact Nat.le_trans tally.sends (moreUsed _)
  case connects =>
    rw [sameDealings]
    exact Nat.le_trans tally.connects (Nat.add_le_add (moreUsed _) (moreUsed _))
  case sessions =>
    simpa [sessionsOf, sameDealings] using tally.sessions
  case own =>
    rw [sameDealings]
    exact tally.own
  case kept =>
    rw [sameDealings]
    exact tally.kept

theorem snoc_of_method
    {method : Method}
    (tally : Tally life)
    (isMethod : step.request.method? = some method)
    (unused : usesMethod life method = false)
    (calls : step.history.dealings.countP Dealing.isCall ≤ (method == .checkLogin).toNat)
    (sends : step.history.dealings.countP Dealing.isSend ≤ (method == .notifyLogout).toNat)
    (connects : step.history.dealings.countP Dealing.isConnect ≤ 1)
    (sessions : (sessionsOf (some (life ++ [step]))).length ≤ 1)
    (own : OwnSessions (dealingsIn (life ++ [step])))
    (kept : releasedSessions step.history.dealings = []) :
    Tally (life ++ [step]) := by
  have oneMethod : (method == .checkLogin).toNat + (method == .notifyLogout).toNat = 1 := by
    cases method <;> rfl
  have paid (other : Method) :
      (usesMethod (life ++ [step]) other).toNat =
        (usesMethod life other).toNat + (method == other).toNat := by
    rw [usesMethod_snoc, isMethod, Option.some_beq_some]
    by_cases same : method = other
    · subst same
      simp [unused]
    · have different : (method == other) = false :=
        beq_eq_false_iff_ne.mpr same
      simp [different]
  constructor
  case calls =>
    rw [dealingsIn_snoc, List.countP_append, paid]
    exact Nat.add_le_add tally.calls calls
  case sends =>
    rw [dealingsIn_snoc, List.countP_append, paid]
    exact Nat.add_le_add tally.sends sends
  case connects =>
    have earlier := tally.connects
    rw [dealingsIn_snoc, List.countP_append, paid, paid]
    omega
  case sessions =>
    exact sessions
  case own =>
    exact own
  case kept =>
    rw [dealingsIn_snoc, releasedSessions_append, tally.kept, kept]
    rfl

theorem snoc
    (tally : Tally life)
    (law : StepLaw endpoint (some life) step)
    (lasting : step.request.ends = false) :
    Tally (life ++ [step]) := by
  cases law with
  | ended ends =>
      simp [ends] at lasting
  | connected =>
      exact tally.snoc_of_silent rfl
  | repeated =>
      exact tally.snoc_of_silent rfl
  | refused isMethod unused closed dealings =>
      refine tally.snoc_of_method isMethod unused ?_ ?_ ?_ ?_ ?_ ?_
      · rw [dealings]
        exact Nat.zero_le _
      · rw [dealings]
        exact Nat.zero_le _
      · rw [dealings]
        exact Nat.le_refl 1
      · simpa [sessionsOf, dealings, Dealing.opened?] using tally.sessions
      · rw [dealingsIn_snoc, dealings]
        exact tally.own.snoc (by simp [Dealing.messaged?])
      · rw [dealings]
        rfl
  | @opened _ _ session _ _ message _ _ isMethod unused closed dealings exchange =>
      have opens : (Dealing.connect session endpoint (.ok ())).opened? = some session :=
        rfl
      have closedLife : openedSessions (dealingsIn life) = [] :=
        closed
      refine tally.snoc_of_method isMethod unused ?_ ?_ ?_ ?_ ?_ ?_
      · apply Nat.le_of_eq
        rw [dealings, List.countP_cons_of_neg Bool.false_ne_true, exchange.countP_isCall isMethod]
      · apply Nat.le_of_eq
        rw [dealings, List.countP_cons_of_neg Bool.false_ne_true, exchange.countP_isSend isMethod]
      · apply Nat.le_of_eq
        rw [dealings, List.countP_cons_of_pos rfl, exchange.countP_isConnect]
      · simp [sessionsOf, dealings, closedLife, opens, exchange.opened?_eq_none]
      · have behindConnect :
            OwnSessions (dealingsIn life ++ [.connect session endpoint (.ok ())]) :=
          tally.own.snoc (by simp [Dealing.messaged?])
        have sameDealings :
            dealingsIn life ++ [.connect session endpoint (.ok ()), message] =
              dealingsIn life ++ [.connect session endpoint (.ok ())] ++ [message] := by
          simp
        rw [dealingsIn_snoc, dealings, sameDealings]
        exact behindConnect.snoc (by simp [exchange.messaged?_eq, opens])
      · rw [dealings, releasedSessions_cons, releasedSessions_cons, exchange.released?_eq_none]
        rfl
  | @reused _ _ session _ _ message _ _ isMethod unused held dealings exchange =>
      have heldInLife : openedSessions (dealingsIn life) = [session] :=
        held
      refine tally.snoc_of_method isMethod unused ?_ ?_ ?_ ?_ ?_ ?_
      · apply Nat.le_of_eq
        rw [dealings, exchange.countP_isCall isMethod]
      · apply Nat.le_of_eq
        rw [dealings, exchange.countP_isSend isMethod]
      · rw [dealings, exchange.countP_isConnect]
        exact Nat.zero_le 1
      · simp [sessionsOf, dealings, heldInLife, exchange.opened?_eq_none]
      · rw [dealingsIn_snoc, dealings]
        exact tally.own.snoc (by simp [exchange.messaged?_eq, heldInLife])
      · rw [dealings, releasedSessions_cons, exchange.released?_eq_none]
        rfl

/-- A step leads from a lifetime within its bounds to one within its bounds. -/
theorem extend
    {current : Option (List (Step (Recorded ε)))}
    (law : StepLaw endpoint current step)
    (tallied : ∀ life, current = some life → Tally life) :
    ∀ life, extendLifetime current step = some life → Tally life := by
  intro extended isExtended
  cases ends : step.request.ends with
  | true =>
      rw [extendLifetime_of_ends ends, Option.map_eq_some_iff] at isExtended
      obtain ⟨_, _, rfl⟩ := isExtended
      exact .empty
  | false =>
      rw [extendLifetime_of_lasting ends, Option.map_eq_some_iff] at isExtended
      obtain ⟨life, rfl, rfl⟩ := isExtended
      exact (tallied life rfl).snoc law ends

end Tally

/-- Whatever lifetimes a lawful run has at any point, they keep within their bounds. -/
theorem Lawful.bounds
    {endpoint : Endpoint}
    {earlier steps : List (Step (Recorded ε))}
    (lawful : Lawful endpoint earlier steps)
    (tallied : ∀ number life, lifetime number earlier = some life → Tally life) :
    ∀ before, before <+: steps →
      ∀ number life, lifetime number (earlier ++ before) = some life → LifetimeBounds life := by
  induction lawful with
  | done =>
      intro before isBefore number life current
      obtain rfl := List.prefix_nil.mp isBefore
      rw [List.append_nil] at current
      exact (tallied number life current).bounds
  | @next earlier step rest law _ inductionHypothesis =>
      intro before isBefore number life current
      rcases List.prefix_cons_iff.mp isBefore with rfl | ⟨behind, rfl, isBehind⟩
      · rw [List.append_nil] at current
        exact (tallied number life current).bounds
      · refine inductionHypothesis ?_ behind isBehind number life (by simpa using current)
        intro other otherLife otherCurrent
        by_cases same : step.number = other
        · subst same
          rw [lifetime_snoc_same] at otherCurrent
          exact Tally.extend law (tallied step.number) otherLife otherCurrent
        · rw [lifetime_snoc_other earlier same] at otherCurrent
          exact tallied other otherLife otherCurrent

end ScopeTable

end LoginGate
