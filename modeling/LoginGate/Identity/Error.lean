namespace LoginGate

/-!
# What can go wrong while an account is looked up
-/

/-- Why the account database gave no answer. -/
inductive IdentityError where
  /-- The look-up of an account failed. -/
  | account (account reason : String)
  /-- The look-up of a group failed. -/
  | group (group reason : String)
  /-- The name holds U+0000 and cannot be handed to the database. -/
  | invalidName (name : String)
  /-- The account's group list asks for more room than is ever given. -/
  | groupListTooLarge (account : String) (requested : Nat)
  /-- The account's group list did not fit in any of the attempts. -/
  | groupListUnstable (account : String) (attempts : Nat)
  deriving Repr, DecidableEq

namespace IdentityError

/-- The text of a failure. -/
def message : IdentityError → String
  | .account name reason =>
      "account lookup failed for '" ++ name ++ "': " ++ reason
  | .group name reason =>
      "group lookup failed for '" ++ name ++ "': " ++ reason
  | .invalidName name =>
      "name '" ++ name ++ "' contains an interior NUL byte"
  | .groupListTooLarge name requested =>
      "group list for '" ++ name ++ "' needs " ++ Nat.repr requested ++
        " entries, over the limit"
  | .groupListUnstable name attempts =>
      "group list for '" ++ name ++ "' still too small after " ++ Nat.repr attempts ++
        " attempts"

/-- The text of the failure below this one, when there is one. -/
def source? : IdentityError → Option String
  | .account _ reason =>
      some reason
  | .group _ reason =>
      some reason
  | _ =>
      none

end IdentityError

end LoginGate
