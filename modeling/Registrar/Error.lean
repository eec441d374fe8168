import Registrar.Chat.State
/-!
What can go wrong, and how it is told to a reader.
-/

namespace Registrar

/-- A failure of the store of states and scratch data. -/
inductive StorageError where
  /-- The store cannot be reached or refuses the command. -/
  | backend (reason : String)
  /-- A value cannot be written as JSON text, or a stored text is not JSON. -/
  | serialization (reason : String)
  /-- A stored value is not of the type that was asked for. -/
  | typeMismatch (field reason : String)
deriving DecidableEq

inductive EmailError where
  | http (reason : String)
  | api (status : Nat) (body : String)
  | invalidRecipient (address : String)
deriving DecidableEq

inductive UsersError where
  | database (reason : String)
  | invalid (reason : String)
deriving DecidableEq

/-- Why a message was not handled. -/
inductive BotError where
  | storage (cause : StorageError)
  | commandNotFound (command : String)
  | noHandlerForState (state : State)
  | validation (reason : String)
  | bot (reason : String)
  | email (reason : String)
  | repository (reason : String)
  | otp (reason : String)
  | config (reason : String)
  | dispatch (reason : String)
deriving DecidableEq

def StorageError.message : StorageError → String
  | backend reason => "Storage backend error: " ++ reason
  | serialization reason => "Serialization error: " ++ reason
  | typeMismatch field reason => "Type mismatch for field '" ++ field ++ "': " ++ reason

def EmailError.message : EmailError → String
  | http reason => "HTTP request failed: " ++ reason
  | api status body => "Email API error (" ++ toString status ++ "): " ++ body
  | invalidRecipient address => "Invalid recipient: " ++ address

def UsersError.message : UsersError → String
  | database reason => "Database error: " ++ reason
  | invalid reason => "Invalid user: " ++ reason

def BotError.message : BotError → String
  | storage cause => "Storage error: " ++ cause.message
  | commandNotFound command => "Command not found: " ++ command
  | noHandlerForState state => "No handler for state: " ++ state.display
  | validation reason => "Validation error: " ++ reason
  | bot reason => "Bot error: " ++ reason
  | email reason => "Email error: " ++ reason
  | repository reason => "Repository error: " ++ reason
  | otp reason => "OTP generation error: " ++ reason
  | config reason => "Config error: " ++ reason
  | dispatch reason => "Dispatch error: " ++ reason

/-- A text that is not JSON is a serialization failure. -/
def StorageError.ofJsonError (e : JsonError) : StorageError := .serialization e.message

/-- An e-mail failure as the reason why a message was not handled. -/
def BotError.ofEmail (e : EmailError) : BotError := .email e.message

/-- A failure of the table of users as the reason why a message was not handled. -/
def BotError.ofUsers (e : UsersError) : BotError := .repository e.message

end Registrar
