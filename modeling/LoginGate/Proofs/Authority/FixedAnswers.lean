import LoginGate.Proofs.Authority.Exchange

namespace LoginGate

/-!
# Authorities with fixed answers

A table of answers says how an authority answers an attempt to open a session, a
question and a notice, whichever session it is. A weaker authority may also be
out of reach, fail, or answer with something that is no decision.
-/

open Interaction

variable {σ ε : Type}

/-- What an authority answers, as a function of what it is asked. -/
structure AuthorityAnswers where
  connect : Endpoint → Except AuthorityError Unit
  call : Endpoint → Method → (account : String) → Except AuthorityError Reply
  send : Endpoint → Method → (account : String) → Except AuthorityError Unit

/-- The answer to an attempt to open a session, or any failure. -/
inductive OpeningWeakens (full : Except AuthorityError Unit) :
    Except AuthorityError Unit → Prop where
  | same : OpeningWeakens full full
  | failed {failure : AuthorityError} : OpeningWeakens full (.error failure)

/-- The answer to a question, or any failure, or a reply that is no truth value. -/
inductive ReplyWeakens (full : Except AuthorityError Reply) :
    Except AuthorityError Reply → Prop where
  | same : ReplyWeakens full full
  | failed {failure : AuthorityError} : ReplyWeakens full (.error failure)
  | noArguments : ReplyWeakens full (.ok .noArguments)
  | other {signature : String} : ReplyWeakens full (.ok (.other signature))

namespace Authority

/-- In every world and on every session, an authority opens and replies as a table says. -/
structure Replies (authority : Authority σ ε) (answers : AuthorityAnswers) : Prop where
  connect :
    ∀ session endpoint world,
      (run (authority.connect session endpoint) world).answer = answers.connect endpoint
  call :
    ∀ session endpoint method account world,
      (run (authority.call session endpoint method account) world).answer =
        answers.call endpoint method account

/-- An authority replies as a table says, and takes notices as it says. -/
structure Gives (authority : Authority σ ε) (answers : AuthorityAnswers) : Prop
    extends authority.Replies answers where
  send :
    ∀ session endpoint method account world,
      (run (authority.send session endpoint method account) world).answer =
        answers.send endpoint method account

/-- An authority opens sessions and replies as a table says, or gives no decision. -/
structure Weakens (authority : Authority σ ε) (answers : AuthorityAnswers) : Prop where
  connect :
    ∀ session endpoint world,
      OpeningWeakens (answers.connect endpoint)
        (run (authority.connect session endpoint) world).answer
  call :
    ∀ session endpoint method account world,
      ReplyWeakens (answers.call endpoint method account)
        (run (authority.call session endpoint method account) world).answer

end Authority

namespace AuthorityAnswers

/-- The authority that answers from a table. -/
def authority (answers : AuthorityAnswers) : Authority σ ε where
  connect _ endpoint :=
    pure (answers.connect endpoint)
  call _ endpoint method account :=
    pure (answers.call endpoint method account)
  send _ endpoint method account :=
    pure (answers.send endpoint method account)
  release _ :=
    pure ()

theorem gives (answers : AuthorityAnswers) :
    (answers.authority : Authority σ ε).Gives answers :=
  ⟨⟨fun _ _ _ => rfl, fun _ _ _ _ _ => rfl⟩, fun _ _ _ _ _ => rfl⟩

end AuthorityAnswers

end LoginGate
