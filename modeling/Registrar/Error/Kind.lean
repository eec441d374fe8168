import Registrar.Error
/-!
Short names for the kinds of errors, by which reports tell them apart.
-/

namespace Registrar

def StorageError.kind : StorageError → String
  | backend _ => "Storage.Backend"
  | serialization _ => "Storage.Serialization"
  | typeMismatch _ _ => "Storage.TypeMismatch"

def EmailError.kind : EmailError → String
  | http _ => "Email.Http"
  | api _ _ => "Email.Api"
  | invalidRecipient _ => "Email.InvalidRecipient"

def UsersError.kind : UsersError → String
  | database _ => "Repository.Database"
  | invalid _ => "Repository.Invalid"

/-- The name of the kind of reason why a message was not handled. A storage failure keeps its own. -/
def BotError.kind : BotError → String
  | storage cause => cause.kind
  | commandNotFound _ => "CommandNotFound"
  | noHandlerForState _ => "NoHandlerForState"
  | validation _ => "Validation"
  | bot _ => "Bot"
  | email _ => "Email"
  | repository _ => "Repository"
  | otp _ => "Otp"
  | config _ => "Config"
  | dispatch _ => "Dispatch"

def BotError.ofKind (kind text : String) : BotError :=
  match kind with
  | "Storage.Backend" => .storage (.backend text)
  | "Storage.Serialization" => .storage (.serialization text)
  | "Storage.TypeMismatch" => .storage (.typeMismatch "" text)
  | "CommandNotFound" => .commandNotFound text
  | "NoHandlerForState" => .noHandlerForState ⟨text⟩
  | "Validation" => .validation text
  | "Bot" => .bot text
  | "Email" => .email text
  | "Repository" => .repository text
  | "Otp" => .otp text
  | "Config" => .config text
  | _ => .dispatch text

end Registrar
