import LoginGate.Proofs.Alike
import LoginGate.Proofs.Identity.FixedAnswers
import LoginGate.Proofs.Identity.Parametric

namespace LoginGate

/-!
# Look-ups over databases that agree

Over two databases that agree on every question, every search of the gate takes
the same way: it puts the same questions in the same order, makes the same notes
and ends with the same answer.
-/

open Interaction

variable {σ τ ε φ : Type}

/-- Immediate answers, sequences and notes keep computations alike. -/
theorem Interaction.Sequential.alike (offset : Nat) (related : σ → τ → Prop) :
    Sequential fun _ => Alike (ε := ε) (φ := φ) offset related :=
  ⟨.pure, .bind, fun _ => .perform rfl⟩

namespace IdentityDatabase

/-- In related worlds two databases answer every question alike. -/
structure Agree
    (related : σ → τ → Prop)
    (first : IdentityDatabase σ ε)
    (second : IdentityDatabase τ φ) : Prop where
  primaryGroup :
    ∀ account,
      Interaction.Agree related (first.primaryGroup account) (second.primaryGroup account)
  attempt :
    ∀ account primary capacity,
      Interaction.Agree related (first.attempt account primary capacity)
        (second.attempt account primary capacity)
  groupId :
    ∀ group, Interaction.Agree related (first.groupId group) (second.groupId group)

/-- Databases that give the same answers agree, whatever becomes of their worlds. -/
theorem Gives.agree
    {answers : IdentityAnswers}
    {first : IdentityDatabase σ ε}
    {second : IdentityDatabase τ φ}
    (firstGives : first.Gives answers)
    (secondGives : second.Gives answers) :
    first.Agree (fun _ _ => True) second := by
  constructor
  case primaryGroup =>
    intro account world other _
    exact ⟨(firstGives.primaryGroup account world).trans
      (secondGives.primaryGroup account other).symm, trivial⟩
  case attempt =>
    intro account primary capacity world other _
    exact ⟨(firstGives.attempt account primary capacity world).trans
      (secondGives.attempt account primary capacity other).symm, trivial⟩
  case groupId =>
    intro group world other _
    exact ⟨(firstGives.groupId group world).trans (secondGives.groupId group other).symm,
      trivial⟩

variable {related : σ → τ → Prop}
variable {first : IdentityDatabase σ ε} {second : IdentityDatabase τ φ}

/-- The questions to databases that agree are alike. -/
theorem Agree.asked (agree : first.Agree related second) (offset : Nat) (account : String) :
    Asked (fun _ => Alike offset related) first second account := by
  constructor
  case primaryGroup =>
    exact .bind (.perform rfl) fun _ => .ofHost (agree.primaryGroup account)
  case attempt =>
    intro primary capacity _
    exact .bind (.perform rfl) fun _ => .ofHost (agree.attempt account primary capacity)
  case groupId =>
    intro group
    exact .bind (.perform rfl) fun _ => .ofHost (agree.groupId group)

/-- The search for an exemption is the same over databases that agree. -/
theorem alike_exemption
    (agree : first.Agree related second)
    (offset : Nat)
    (rules : BypassRules)
    (account : String) :
    Alike offset related (first.exemption rules account) (second.exemption rules account) :=
  have asked := agree.asked offset account
  related_exemption (.alike offset related)
    (related_membership (.alike offset related) asked) asked.groupId rules

end IdentityDatabase

end LoginGate
