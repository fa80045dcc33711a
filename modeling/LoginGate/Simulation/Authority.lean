import LoginGate.Authority.Basic
import LoginGate.Simulation.Queue

namespace LoginGate

/-!
# A simulated authority

An authority with prepared answers. Without a prepared answer it opens every
session, takes every message, and answers calls with nothing.
-/

/-- A simulated authority. -/
structure SimulatedAuthority where
  connects : Queue (Except AuthorityError Unit)
  replies : Queue (Except AuthorityError Reply)
  sends : Queue (Except AuthorityError Unit)

namespace SimulatedAuthority

/-- The authority of prepared answers. -/
def authority {ε : Type} : Authority SimulatedAuthority ε where
  connect _ _ :=
    .ask (Interaction.askPart connects
      (fun changed world => { world with connects := changed })
      (Queue.nextOr (.ok ())))
  call _ _ _ _ :=
    .ask (Interaction.askPart replies
      (fun changed world => { world with replies := changed })
      (Queue.nextOr (.ok .noArguments)))
  send _ _ _ _ :=
    .ask (Interaction.askPart sends
      (fun changed world => { world with sends := changed })
      (Queue.nextOr (.ok ())))
  release _ :=
    pure ()

end SimulatedAuthority

end LoginGate
