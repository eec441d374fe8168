import Registrar.Chat.State
/-!
The course of a registration: its states, the scratch fields that it keeps, and what may be set about
it.

A user who asks to register is asked for a login, is sent a code, and is registered once the code has
come back.
-/

namespace Registrar.Registration

def awaitingLogin : State := ⟨"awaiting_login"⟩

def awaitingCode : State := ⟨"awaiting_otp"⟩

def registered : State := ⟨"registered"⟩

def loginField : String := "login"

def codeField : String := "code"

def expiryField : String := "expires_at"

structure Policy where
  /-- The number of bytes of a code. -/
  codeLength : Nat
  /-- For how many seconds a code is valid. -/
  validity : Nat
  /-- Whether the user is held back if the code could not be sent. -/
  blockOnEmailFailure : Bool
  /-- Whether a code is refused after it has expired. -/
  enforceExpiry : Bool
  /-- The domain of the addresses of logins that are not addresses themselves. -/
  loginDomain : Option String
deriving DecidableEq

/-- Six digits, valid for half an hour. -/
def Policy.default : Policy := ⟨6, 1800, false, false, none⟩

end Registrar.Registration
