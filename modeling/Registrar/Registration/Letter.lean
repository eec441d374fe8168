import Registrar.Handler.Program
import Registrar.Registration.Policy
/-!
The e-mail that carries a code.
-/

namespace Registrar.Registration

/-- The address for a login: a login that is no address gets the domain, if there is one. -/
def Policy.recipient (policy : Policy) (login : String) : String :=
  match policy.loginDomain with
  | some domain =>
    if Text.isBlank domain ∨ '@' ∈ login.toList then login
    else login ++ "@" ++ String.ofList (domain.toList.dropWhile (· = '@'))
  | none => login

/-- A quotient rounded to a whole number; a half goes to the even neighbour. -/
def roundHalfEven (num den : Nat) : Nat :=
  let q := num / den
  let r := num % den
  if 2 * r < den then q
  else if den < 2 * r then q + 1
  else q + q % 2

/-- The time left until a code expires, in minutes. -/
def timeLeft (now expires : Instant) : String :=
  toString (roundHalfEven (now.secondsUntil expires).toNat 60) ++ " minutes"

def subject : String := "Your Verification Code"

def letter (policy : Policy) (login code : String) (now expires : Instant) : Email where
  recipient := policy.recipient login
  subject := subject
  fields := [("Code", code), ("ExpiresIn", timeLeft now expires), ("Login", login)]

/-- Sends a code; the answer is the address that it went to. -/
def sendCode (policy : Policy) (login code : String) (expires : Instant) :
    Program (Except EmailError String) :=
  .ask .clock fun now =>
    .ask (.deliver (letter policy login code now expires)) fun result =>
      .done (result.map fun _ => policy.recipient login)

end Registrar.Registration
