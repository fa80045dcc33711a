import LoginGate.Gate
import LoginGate.Proofs.Authority.Exchange

namespace LoginGate

/-!
# Dealings and their record

The history of a run tells that a session was asked for, but not whether it was
opened: that is only known to whoever sees the answer. A recorded authority does
what the authority does and also reports every dealing with its answer, as one
more effect of its own. What a run of the gate does with its authority can then
be read off the run itself.
-/

open Interaction

/-- One dealing with the authority and its answer. -/
inductive Dealing where
  | connect (session : Nat) (endpoint : Endpoint) (answer : Except AuthorityError Unit)
  | call
      (session : Nat)
      (endpoint : Endpoint)
      (method : Method)
      (account : String)
      (answer : Except AuthorityError Reply)
  | send
      (session : Nat)
      (endpoint : Endpoint)
      (method : Method)
      (account : String)
      (answer : Except AuthorityError Unit)
  | release (session : Nat)

namespace Dealing

/-- Extract the session that a dealing opens. -/
def opened? : Dealing → Option Nat
  | .connect session _ (.ok _) =>
      some session
  | _ =>
      none

/-- Extract the session that a dealing gives back. -/
def released? : Dealing → Option Nat
  | .release session =>
      some session
  | _ =>
      none

/-- Extract the session on which a dealing sends a message. -/
def messaged? : Dealing → Option Nat
  | .call session .. =>
      some session
  | .send session .. =>
      some session
  | _ =>
      none

/-- Extract the failure with which a dealing is answered. -/
def failure? : Dealing → Option AuthorityError
  | .connect _ _ (.error failure) =>
      some failure
  | .call _ _ _ _ (.error failure) =>
      some failure
  | .send _ _ _ _ (.error failure) =>
      some failure
  | _ =>
      none

/-- A dealing sends one of the methods for an account on a session: a question or a notice. -/
inductive Carries (session : Nat) (endpoint : Endpoint) (account : String) :
    Method → Dealing → Prop where
  | question {answer : Except AuthorityError Reply} :
      Carries session endpoint account .checkLogin
        (.call session endpoint .checkLogin account answer)
  | notice {answer : Except AuthorityError Unit} :
      Carries session endpoint account .notifyLogout
        (.send session endpoint .notifyLogout account answer)

/-- The open sessions after one more dealing. -/
def track (openBefore : List Nat) : Dealing → List Nat
  | .connect session _ (.ok _) =>
      session :: openBefore
  | .release session =>
      openBefore.erase session
  | _ =>
      openBefore

end Dealing

/-- The sessions that dealings open, in order. -/
def openedSessions (dealings : List Dealing) : List Nat :=
  dealings.filterMap Dealing.opened?

/-- The sessions that dealings give back, in order. -/
def releasedSessions (dealings : List Dealing) : List Nat :=
  dealings.filterMap Dealing.released?

/-- The sessions that are open behind dealings. -/
def openSessions (dealings : List Dealing) : List Nat :=
  dealings.foldl Dealing.track []

@[simp] theorem openedSessions_nil : openedSessions [] = [] :=
  rfl

@[simp] theorem openedSessions_cons (dealing : Dealing) (rest : List Dealing) :
    openedSessions (dealing :: rest) = dealing.opened?.toList ++ openedSessions rest := by
  cases opened : dealing.opened? <;> simp [openedSessions, opened]

@[simp] theorem openedSessions_append (first second : List Dealing) :
    openedSessions (first ++ second) = openedSessions first ++ openedSessions second := by
  simp [openedSessions]

@[simp] theorem releasedSessions_nil : releasedSessions [] = [] :=
  rfl

@[simp] theorem releasedSessions_cons (dealing : Dealing) (rest : List Dealing) :
    releasedSessions (dealing :: rest) = dealing.released?.toList ++ releasedSessions rest := by
  cases released : dealing.released? <;> simp [releasedSessions, released]

@[simp] theorem releasedSessions_append (first second : List Dealing) :
    releasedSessions (first ++ second) = releasedSessions first ++ releasedSessions second := by
  simp [releasedSessions]

@[simp] theorem openSessions_nil : openSessions [] = [] :=
  rfl

@[simp] theorem openSessions_snoc (past : List Dealing) (dealing : Dealing) :
    openSessions (past ++ [dealing]) = dealing.track (openSessions past) := by
  simp [openSessions]

/-- A dealing is in order behind others: it opens a new session or uses an open one. -/
def Dealing.InOrder (past : List Dealing) (dealing : Dealing) : Prop :=
  (∀ session, dealing.opened? = some session → session ∉ openedSessions past) ∧
    (∀ session, dealing.messaged? = some session → session ∈ openSessions past) ∧
    ∀ session, dealing.released? = some session → session ∈ openSessions past

section InOrder

variable {past : List Dealing} {session : Nat} {endpoint : Endpoint}

theorem Dealing.inOrder_refused (failure : AuthorityError) :
    (Dealing.connect session endpoint (.error failure)).InOrder past := by
  simp [InOrder, opened?, messaged?, released?]

theorem Dealing.inOrder_connect (isNew : session ∉ openedSessions past) :
    (Dealing.connect session endpoint (.ok ())).InOrder past := by
  simpa [InOrder, opened?, messaged?, released?] using isNew

theorem Dealing.inOrder_release (isOpen : session ∈ openSessions past) :
    (Dealing.release session).InOrder past := by
  simpa [InOrder, opened?, messaged?, released?] using isOpen

end InOrder

/-- Dealings that are all in order behind others, and leave no session open. -/
inductive Orderly : (past : List Dealing) → List Dealing → Prop where
  | done {past : List Dealing} :
      openSessions past = [] →
      Orderly past []
  | next {past : List Dealing} {dealing : Dealing} {rest : List Dealing} :
      dealing.InOrder past →
      Orderly (past ++ [dealing]) rest →
      Orderly past (dealing :: rest)

/-- What a dealing opens is open behind it, and what it gives back is not. -/
theorem Dealing.InOrder.count_track
    {past : List Dealing}
    {dealing : Dealing}
    (inOrder : dealing.InOrder past)
    (session : Nat) :
    (dealing.track (openSessions past)).count session +
        dealing.released?.toList.count session =
      (openSessions past).count session + dealing.opened?.toList.count session := by
  cases dealing with
  | connect opened endpoint answer =>
      cases answer with
      | error failure =>
          rfl
      | ok _ =>
          simp [Dealing.track, Dealing.released?, Dealing.opened?, List.count_cons]
  | call =>
      rfl
  | send =>
      rfl
  | release released =>
      have isOpen : released ∈ openSessions past :=
        inOrder.2.2 released rfl
      have atLeastOnce := List.count_pos_iff.mpr isOpen
      simp only [Dealing.track, Dealing.released?, Dealing.opened?, List.count_erase,
        Option.toList_some, Option.toList_none, List.count_nil, List.count_singleton]
      by_cases same : released = session
      · subst same
        simp only [BEq.rfl, if_true]
        omega
      · have different : (released == session) = false := by
          simpa using same
        simp [different]

/-- The sessions given back are the open ones and those that are still to be opened. -/
theorem Orderly.count_releasedSessions
    {past dealings : List Dealing}
    (orderly : Orderly past dealings)
    (session : Nat) :
    (releasedSessions dealings).count session =
      (openSessions past).count session + (openedSessions dealings).count session := by
  induction orderly with
  | done noneOpen =>
      simp [noneOpen]
  | next inOrder _ inductionHypothesis =>
      have tracked := inOrder.count_track session
      simp only [openSessions_snoc, releasedSessions_cons, openedSessions_cons,
        List.count_append] at inductionHypothesis ⊢
      omega

/-- No session is opened twice. -/
theorem Orderly.nodup_openedSessions
    {past dealings : List Dealing}
    (orderly : Orderly past dealings)
    (pastNodup : (openedSessions past).Nodup) :
    (openedSessions (past ++ dealings)).Nodup := by
  induction orderly with
  | done =>
      simpa using pastNodup
  | @next past dealing rest inOrder _ inductionHypothesis =>
      have stillNodup : (openedSessions (past ++ [dealing])).Nodup := by
        cases opened : dealing.opened? with
        | none =>
            simpa [opened] using pastNodup
        | some session =>
            have isNew := inOrder.1 session opened
            rw [openedSessions_append, List.nodup_append]
            refine ⟨pastNodup, by simp [opened], ?_⟩
            intro old isOld other isOther same
            obtain rfl : other = session := by
              simpa [opened] using isOther
            exact isNew (same ▸ isOld)
      simpa using inductionHypothesis stillNodup

/-- Where all dealings are in order, every opened session is given back exactly once. -/
theorem Orderly.released_perm_opened
    {dealings : List Dealing}
    (orderly : Orderly [] dealings) :
    (openedSessions dealings).Nodup ∧
      (releasedSessions dealings).Perm (openedSessions dealings) := by
  refine ⟨by simpa using orderly.nodup_openedSessions List.nodup_nil, ?_⟩
  rw [List.perm_iff_count]
  intro session
  rw [orderly.count_releasedSessions, openSessions_nil, List.count_nil, Nat.zero_add]

end LoginGate
