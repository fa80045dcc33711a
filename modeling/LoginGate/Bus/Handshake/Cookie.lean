import LoginGate.Bus.Name
import LoginGate.Text.Utf8
import LoginGate.Text.Words

namespace LoginGate

/-!
# Challenges by cookie

A server may ask for a secret that both sides keep in a file, a cookie. It
names the file, which is a context, the number of the cookie in it, and a
challenge, as three words.
-/

/-- Why a word is no number. -/
inductive NumberFault where
  /-- A character is no digit. -/
  | noDigit
  /-- The number has more than 64 bits. -/
  | tooLarge
  deriving Repr, DecidableEq

/-- The text of a fault. -/
def NumberFault.message : NumberFault → String
  | .noDigit =>
      "invalid digit found in string"
  | .tooLarge =>
      "number too large to fit in target type"

/-- The numbers of 64 bits end below this one. -/
def numberBound : Nat :=
  UInt64.size

/-- The number that digits spell behind others that spell `number`. -/
def readDigits : (number : Nat) → List Char → Except NumberFault Nat
  | number, [] =>
      .ok number
  | number, character :: rest =>
      let next := 10 * number + (character.toNat - '0'.toNat)
      if ¬ isAsciiDigit character then
        .error .noDigit
      else if numberBound ≤ next then
        .error .tooLarge
      else
        readDigits next rest

/-- The number that a word spells; a plus may stand in front of its digits. -/
def readNumber (word : String) : Except NumberFault Nat :=
  match word.toList with
  | '+' :: digit :: rest =>
      readDigits 0 (digit :: rest)
  | characters =>
      readDigits 0 characters

/-- What is wrong with a challenge by cookie. -/
inductive CookieFault where
  /-- The server sent nothing. -/
  | noData
  /-- What the server sent is not UTF-8. -/
  | encoding
  | noContext
  /-- The context can be no name of a file. -/
  | context
  | noNumber
  /-- The word for the cookie's number is none. -/
  | number (word : String) (fault : NumberFault)
  | noChallenge
  deriving Repr, DecidableEq

/-- The text of a fault. -/
def CookieFault.message : CookieFault → String
  | .noData =>
      "Received DATA with no data from server"
  | .encoding =>
      "Cookie context was not valid UTF-8"
  | .noContext =>
      "Missing cookie context name"
  | .context =>
      "Invalid characters in cookie context"
  | .noNumber =>
      "Missing cookie ID"
  | .number word fault =>
      "Invalid cookie ID `" ++ word ++ "`: " ++ fault.message
  | .noChallenge =>
      "Missing cookie challenge"

/-- A challenge by cookie. -/
structure CookieChallenge where
  context : String
  cookie : Nat
  challenge : String
  deriving Repr, DecidableEq

/-- Whether a word may be a context: ASCII characters, but no slash, backslash or dot. -/
def isCookieContext (word : String) : Bool :=
  word.toList.all fun character =>
    character.toNat < 0x80 && character ∉ ['/', '\\', '.']

namespace CookieChallenge

/-- The challenge that words make up. -/
def ofWords : List String → Except CookieFault CookieChallenge
  | [] =>
      .error .noContext
  | context :: words =>
      if isCookieContext context then
        match words with
        | [] =>
            .error .noNumber
        | number :: others => do
            let cookie ← (readNumber number).mapError (.number number)
            match others with
            | [] =>
                throw .noChallenge
            | challenge :: _ =>
                return ⟨context, cookie, challenge⟩
      else
        .error .context

/-- The challenge that the server sent, if it sent anything. -/
def read : Option (List UInt8) → Except CookieFault CookieChallenge
  | none =>
      .error .noData
  | some bytes =>
      match Utf8.decode? bytes with
      | none =>
          .error .encoding
      | some text =>
          ofWords (Words.ofLine text)

end CookieChallenge

end LoginGate
