import LoginGate.Phase
import LoginGate.Text.Utf8

namespace LoginGate

/-!
# The Linux-PAM library of a module

Between Linux-PAM and the module stands a library. It hands the arguments of a call
over as texts, asks Linux-PAM for the user's name, and answers the calls that the
module does not have.
-/

/-- What Linux-PAM gives when it is asked for the user's name. -/
structure UserAnswer where
  status : Int
  name : Option (List UInt8)
  deriving Repr, DecidableEq

/-- A library that a module is written with. -/
structure PamLibrary where
  /-- The arguments of a call, or the status with which the call is turned down. -/
  arguments : (count : Int) → List (List UInt8) → Except Int (List String)
  /-- What the module gets for the user's name: a failure, bytes, or a null pointer. -/
  user : UserAnswer → Except Int (Option (List UInt8))
  /-- The status of a call that the module does not have. -/
  missingCall : Int

namespace PamLibrary

/-- The bytes that name the user, if the module gets any. -/
def userBytes? (library : PamLibrary) (answer : UserAnswer) : Option (List UInt8) :=
  match library.user answer with
  | .ok (some bytes) =>
      some bytes
  | _ =>
      none

/-- The library that turns down calls whose arguments are not all UTF-8. -/
def strict : PamLibrary where
  arguments count arguments :=
    let texts :=
      if 0 ≤ count then (arguments.take count.toNat).mapM Utf8.decode? else none
    match texts with
    | some texts =>
        .ok texts
    | none =>
        .error pamServiceError
  user answer :=
    if answer.status = pamSuccess then .ok answer.name else .error answer.status
  missingCall :=
    pamServiceError

end PamLibrary

end LoginGate
