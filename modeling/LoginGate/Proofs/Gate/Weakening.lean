import LoginGate.Proofs.Authority.FixedAnswers
import LoginGate.Proofs.Gate.Admission
import LoginGate.Proofs.Identity.FixedAnswers

namespace LoginGate

/-!
# Failures only take permission away

A run over a weaker database and a weaker authority may leave the way of the
full run at any question: a group list is given up, a group is passed over, the
authority is asked in place of an exemption. What carries over is success. A
membership that is read is the one that the full database gives, a bypass group
that is found there is found by the full search or comes behind an earlier one,
and a consent is a consent.
-/

open Interaction

variable {σ τ ε φ : Type}

theorem LookupWeakens.eq_of_found
    {full : Except IdentityError (Option GroupId)}
    {group : GroupId}
    (weakens : LookupWeakens full (.ok (some group))) :
    full = .ok (some group) := by
  cases weakens with
  | same =>
      rfl

theorem AttemptWeakens.eq_of_ok
    {full : Except IdentityError GroupListReading}
    {reading : GroupListReading}
    (weakens : AttemptWeakens full (.ok reading)) :
    full = .ok reading := by
  cases weakens with
  | same =>
      rfl

theorem OpeningWeakens.eq_of_ok
    {full : Except AuthorityError Unit}
    (weakens : OpeningWeakens full (.ok ())) :
    full = .ok () := by
  cases weakens with
  | same =>
      rfl

theorem ReplyWeakens.eq_of_boolean
    {full : Except AuthorityError Reply}
    {value : Bool}
    (weakens : ReplyWeakens full (.ok (.boolean value))) :
    full = .ok (.boolean value) := by
  cases weakens with
  | same =>
      rfl

namespace IdentityDatabase

section Weaker

variable {answers : IdentityAnswers}
variable {full : IdentityDatabase σ ε} (gives : full.Gives answers) (world : σ)
variable {weak : IdentityDatabase τ φ} (weakens : weak.Weakens answers) {other : τ}
variable {account : String} {primary : GroupId}

include gives weakens

/-- A group list that a weaker database gives is the full one. -/
theorem answer_readGroupList_of_weaker
    {attempts capacity : Nat}
    {entries : List GroupId}
    (read :
      (run (weak.readGroupList account primary attempts capacity) other).answer =
        .ok entries) :
    (run (full.readGroupList account primary attempts capacity) world).answer =
      .ok entries := by
  induction attempts generalizing capacity world other with
  | zero =>
      simp [readGroupList] at read
  | succ attempts inductionHypothesis =>
      have told := weakens.attempt account primary capacity other
      rw [readGroupList_succ, run_bind, run_askAttempt] at read ⊢
      dsimp only at read ⊢
      cases attempted : (run (weak.attempt account primary capacity) other).answer with
      | error failure =>
          rw [attempted] at read
          simp [behindAttempt] at read
      | ok reading =>
          rw [attempted] at read told
          rw [gives.attempt, told.eq_of_ok]
          cases reading with
          | whole entries =>
              exact read
          | insufficient required =>
              simp only [behindAttempt] at read ⊢
              split at read
              · simp at read
              · rename_i notTooLarge
                rw [if_neg notTooLarge]
                exact inductionHypothesis _ read

/-- A membership that a weaker database gives is the full one. -/
theorem answer_membership_of_weaker
    {membership : Membership}
    (read : (run (weak.membership account) other).answer = .ok (some membership)) :
    (run (full.membership account) world).answer = .ok (some membership) := by
  have known := weakens.primaryGroup account other
  have knownInFull := gives.primaryGroup account world
  simp only [IdentityDatabase.membership, askPrimaryGroup, run_bind, run_perform,
    run_ofHost] at read ⊢
  cases looked : (run (weak.primaryGroup account) other).answer with
  | error failure =>
      rw [looked] at read
      simp at read
  | ok primary? =>
      cases primary? with
      | none =>
          rw [looked] at read
          simp at read
      | some primary =>
          rw [looked] at read known
          rw [knownInFull, known.eq_of_found]
          simp only [run_bind] at read ⊢
          cases listed : (run (weak.groupList account primary)
              (run (weak.primaryGroup account) other).world).answer with
          | error failure =>
              rw [listed] at read
              simp at read
          | ok supplementary =>
              rw [listed] at read
              have listedInFull :=
                answer_readGroupList_of_weaker gives
                  (run (full.primaryGroup account) world).world weakens listed
              rw [groupList, listedInFull]
              exact read

/-- Where a weaker database leads to a group, the full one leads to it or to an earlier one. -/
theorem exists_firstGroupOf_of_weaker
    {membership : Membership}
    {names : List String}
    {name : String}
    (found : (run (weak.firstGroupOf membership names) other).answer = some name) :
    ∃ earlier, (run (full.firstGroupOf membership names) world).answer = some earlier := by
  induction names generalizing world other with
  | nil =>
      simp [firstGroupOf] at found
  | cons head rest inductionHypothesis =>
      -- The full search may stop where the weaker one goes on, but not the other way round.
      by_cases fullMatches : full.MatchesAt membership (head :: rest) world 0
      · exact ⟨head, answer_firstGroupOf_of_match fullMatches⟩
      · have weakFails : ¬ weak.MatchesAt membership (head :: rest) other 0 := by
          rw [matchesAt_zero] at fullMatches ⊢
          rintro ⟨group, answered, contained⟩
          have known := weakens.groupId head other
          rw [answered] at known
          exact fullMatches ⟨group, (gives.groupId head world).trans known.eq_of_found, contained⟩
        rw [answer_firstGroupOf_of_not_match weakFails] at found
        rw [answer_firstGroupOf_of_not_match fullMatches]
        exact inductionHypothesis _ found

/-- Whoever is exempt by the answers of a weaker database is exempt by the full ones. -/
theorem exempts_of_weaker
    {rules : BypassRules}
    (exempts : weak.Exempts rules account other) :
    full.Exempts rules account world := by
  rcases exempts with isRoot | ⟨group, belongs⟩
  · exact .inl isRoot
  · right
    rw [← answer_bypassGroupOf_eq_some_iff] at belongs
    simp only [← answer_bypassGroupOf_eq_some_iff, bypassGroupOf, run_bind] at belongs ⊢
    cases read : (run (weak.membership account) other).answer with
    | error failure =>
        rw [read] at belongs
        simp at belongs
    | ok membership? =>
        cases membership? with
        | none =>
            rw [read] at belongs
            simp at belongs
        | some membership =>
            rw [read] at belongs
            rw [answer_membership_of_weaker gives world weakens read]
            simp only [run_bind, run_pure, Except.ok.injEq] at belongs ⊢
            exact exists_firstGroupOf_of_weaker gives _ weakens belongs

end Weaker

end IdentityDatabase

namespace Gate

/-- The consent of a weaker authority is one that the full authority gives in every world. -/
theorem consents_of_weaker
    (full : Gate σ ε)
    (weak : Gate τ φ)
    {answers : AuthorityAnswers}
    (replies : full.authority.Replies answers)
    (sameConfiguration : weak.configuration = full.configuration)
    (weakens : weak.authority.Weakens answers)
    {account : String}
    {other : World τ}
    (consents : weak.Consents account other)
    (world : World σ) :
    full.Consents account world := by
  obtain ⟨opened, granted⟩ := consents
  have opening := weakens.connect (other.sessionsOpened + 1) weak.configuration.endpoint
    other.outside
  have reply := weakens.call (other.sessionsOpened + 1) weak.configuration.endpoint .checkLogin
    account (weak.opening other).world
  simp only [Gate.opening, Authority.opening, Gate.questioning, Authority.questioning]
    at opened granted reply
  rw [opened] at opening
  rw [granted] at reply
  constructor
  case opened =>
    rw [sameConfiguration] at opening
    exact (replies.connect ..).trans opening.eq_of_ok
  case granted =>
    rw [sameConfiguration] at reply
    exact (replies.call ..).trans reply.eq_of_boolean

/--
One gate permits nothing that another does not, in whatever worlds the two are
asked, and it still lets the root account pass where exempt accounts do.
-/
structure NoLaxer (weak : Gate τ φ) (full : Gate σ ε) : Prop where
  withExemptions :
    ∀ phase named other world,
      (run (weak.decideWithExemptions phase named) other).answer.allowed = true →
      (run (full.decideWithExemptions phase named) world).answer.allowed = true
  strictly :
    ∀ phase named other world,
      (run (weak.decideStrictly phase named) other).answer.allowed = true →
      (run (full.decideStrictly phase named) world).answer.allowed = true
  exempt :
    ∀ account other world,
      (run (weak.database.isExempt weak.configuration.bypass account) other).answer = true →
      (run (full.database.isExempt full.configuration.bypass account) world).answer = true
  root :
    ∀ phase account other,
      account = weak.configuration.bypass.rootAccount →
      account ≠ "" →
      (run (weak.decideWithExemptions phase (some account)) other).answer.allowed = true

/-- A gate over a weaker database and a weaker authority permits nothing more. -/
theorem noLaxer_of_weakens
    (configuration : Configuration)
    {identity : IdentityAnswers}
    {database : IdentityDatabase σ ε}
    {weakDatabase : IdentityDatabase τ φ}
    {answers : AuthorityAnswers}
    {authority : Authority σ ε}
    {weakAuthority : Authority τ φ}
    (gives : database.Gives identity)
    (weakens : weakDatabase.Weakens identity)
    (replies : authority.Replies answers)
    (replyWeakens : weakAuthority.Weakens answers) :
    NoLaxer ⟨configuration, weakDatabase, weakAuthority⟩
      ⟨configuration, database, authority⟩ := by
  have consentsInFull
      {account : String}
      {other : World τ}
      (consents : Consents ⟨configuration, weakDatabase, weakAuthority⟩ account other)
      (world : World σ) :
      Consents ⟨configuration, database, authority⟩ account world :=
    consents_of_weaker ⟨configuration, database, authority⟩
      ⟨configuration, weakDatabase, weakAuthority⟩ replies rfl replyWeakens consents world
  constructor
  case withExemptions =>
    intro phase named other world permitted
    rw [allowed_decideWithExemptions_iff] at permitted ⊢
    obtain ⟨account, isNamed, notEmpty, exempts | consents⟩ := permitted
    · exact ⟨account, isNamed, notEmpty,
        .inl (IdentityDatabase.exempts_of_weaker gives _ weakens exempts)⟩
    · exact ⟨account, isNamed, notEmpty,
        .inr (consentsInFull consents _)⟩
  case strictly =>
    intro phase named other world permitted
    rw [allowed_decideStrictly_iff] at permitted ⊢
    obtain ⟨account, isNamed, notEmpty, consents⟩ := permitted
    exact ⟨account, isNamed, notEmpty, consentsInFull consents _⟩
  case exempt =>
    intro account other world exempt
    rw [IdentityDatabase.answer_isExempt_iff] at exempt ⊢
    exact IdentityDatabase.exempts_of_weaker gives _ weakens exempt
  case root =>
    intro phase account other isRoot notEmpty
    rw [allowed_decideWithExemptions_iff]
    exact ⟨account, rfl, notEmpty, .inl (.inl isRoot)⟩

/--
A member of two bypass groups passes when the look-up of the first one fails and
the authority is out of reach, and therefore passes when nothing fails.
-/
theorem noLaxer_member_of_two_groups :
    let table : AccountTable :=
      ⟨fun _ => .ok (some 1000), fun _ _ => [1000, 10, 27],
        fun group => .ok (if group = "wheel" then some 10 else some 27)⟩
    let failing : AccountTable :=
      { table with
        groupId := fun group =>
          if group = "wheel" then .error (.group group "timeout") else .ok (some 27) }
    let replies : AuthorityAnswers :=
      ⟨fun _ => .ok (), fun _ _ _ => .ok (.boolean false), fun _ _ _ => .ok ()⟩
    let unreachable : AuthorityAnswers :=
      { replies with connect := fun _ => .error (.connect "no bus") }
    let full : Gate Unit Empty :=
      ⟨{}, table.database, replies.authority⟩
    let weak : Gate Unit Empty :=
      ⟨{}, failing.database, unreachable.authority⟩
    let world : World Unit :=
      .ofOutside ()
    (run (weak.decideWithExemptions .authenticate (some "bob")) world).answer =
        ⟨.authenticate, true, .bypassGroup "sudo"⟩ ∧
      (run (full.decideWithExemptions .authenticate (some "bob")) world).answer.allowed =
        true := by
  intro table failing replies unreachable full weak world
  have weakens : (failing.database : IdentityDatabase Unit Empty).Weakens table.answers := by
    constructor
    case primaryGroup =>
      intro account outside
      exact .same
    case attempt =>
      intro account primary capacity outside
      rw [failing.gives.attempt]
      exact .same
    case groupId =>
      intro group outside
      rw [failing.gives.groupId]
      by_cases isWheel : group = "wheel"
      · simp only [AccountTable.answers, failing, isWheel, if_true]
        exact .failed
      · simp only [AccountTable.answers, failing, table, isWheel, if_false]
        exact .same
  have replyWeakens :
      (unreachable.authority : Authority Unit Empty).Weakens replies :=
    ⟨fun _ _ _ => .failed, fun _ _ _ _ _ => .same⟩
  have noLaxer : NoLaxer weak full :=
    noLaxer_of_weakens {} table.gives weakens replies.gives.toReplies replyWeakens
  have passes :
      (run (weak.decideWithExemptions .authenticate (some "bob")) world).answer =
        ⟨.authenticate, true, .bypassGroup "sudo"⟩ := by
    decide +kernel
  refine ⟨passes, noLaxer.withExemptions .authenticate (some "bob") world world ?_⟩
  rw [passes]

end Gate

end LoginGate
