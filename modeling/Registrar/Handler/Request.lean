import Registrar.Chat.Message
import Registrar.Chat.Outgoing
import Registrar.Store.Call
import Registrar.Users.Record
/-!
What a handler may ask of its surroundings, and what it gets in answer. An e-mail is an address, a
subject, and named texts to fill in.
-/

namespace Registrar

/-- An e-mail. The named texts are listed by ascending name. -/
structure Email where
  recipient : String
  subject : String
  fields : List (String × String)
deriving DecidableEq

def Email.toJson (mail : Email) : Json :=
  .ofMembers [("to", .string mail.recipient), ("subject", .string mail.subject),
    ("data", .ofMembers (mail.fields.map fun f => (f.1, .string f.2)))]

inductive Request where
  /-- A call on the store. -/
  | store (call : StoreCall)
  /-- The time on the clock. -/
  | clock
  /-- A fresh verification code. -/
  | newCode
  /-- Hands an e-mail to the sender. -/
  | deliver (mail : Email)
  /-- Enters a user under a login, or merges the entry with the one under that login. -/
  | enroll (login : String) (telegramId : Option Int64) (roles : Roles)
  /-- Sends a message to a chat. -/
  | send (message : Outgoing)
  /-- Waits. -/
  | pause (milliseconds : Nat)
  /-- Waits for a permit of a gate at which permits are handed out one by one. -/
  | permit
  /-- Leaves a note for an observer. -/
  | note (text : String)

def Request.Answer : Request → Type
  | store call => call.Answer
  | clock => Instant
  | newCode => Except BotError String
  | deliver _ => Except EmailError Unit
  | enroll _ _ _ => Except UsersError UserRecord
  | send _ => Except BotError Unit
  | pause _ => Unit
  | permit => Unit
  | note _ => Unit

end Registrar
