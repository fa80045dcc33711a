namespace LoginGate

/-!
# The authority's methods, and what can go wrong while it is asked
-/

/-- What the authority can be told. -/
inductive Method where
  /-- Ask whether an account may go on. -/
  | checkLogin
  /-- Say that an account's session has ended. -/
  | notifyLogout
  deriving Repr, DecidableEq

/-- The name of a method on the bus. -/
def Method.name : Method → String
  | .checkLogin =>
      "CheckLogin"
  | .notifyLogout =>
      "NotifyLogout"

/-- Why the authority gave no answer. -/
inductive AuthorityError where
  /-- The authority cannot be reached at all. -/
  | connect (reason : String)
  /-- A call failed, or was answered by an error. -/
  | call (reason : String)
  /-- The answer to a call is empty. -/
  | noArguments
  /-- The answer to a call is not one truth value. -/
  | unexpectedType (signature : String)
  /-- A message could not be sent. -/
  | send (reason : String)
  /-- The method was used before in the same scope. -/
  | alreadySent (method : Method)
  deriving Repr, DecidableEq

namespace AuthorityError

/-- The text of a failure. -/
def message : AuthorityError → String
  | .connect reason =>
      "D-Bus connection error: " ++ reason
  | .call reason =>
      "D-Bus call failed: " ++ reason
  | .noArguments =>
      "D-Bus reply has no arguments"
  | .unexpectedType signature =>
      "unexpected D-Bus reply type '" ++ signature ++ "'"
  | .send reason =>
      "failed to send D-Bus message: " ++ reason
  | .alreadySent method =>
      method.name ++ " was already sent in this invocation"

/-- The text of the failure below this one, when there is one. -/
def source? : AuthorityError → Option String
  | .connect reason =>
      some reason
  | .call reason =>
      some reason
  | .send reason =>
      some reason
  | _ =>
      none

/-- Whether the authority could not be reached, as opposed to a bad exchange. -/
def isConnect : AuthorityError → Bool
  | .connect _ =>
      true
  | _ =>
      false

end AuthorityError

end LoginGate
