import Registrar.Chat.Message
import Registrar.Json.Access
/-!
Messages as the messenger delivers them, and what becomes of them: only a text that a human wrote is
taken for a message.
-/

namespace Registrar.Telegram

/-- Who wrote a message. -/
structure Sender where
  id : UInt64
  isBot : Bool
  firstName : String
  lastName : Option String
  username : Option String
deriving DecidableEq

inductive ChatKind where
  | personal
  | group
  | supergroup
  | channel
deriving DecidableEq

/-- A message as it is delivered. It may have no sender, and something else than a text in it. -/
structure Incoming where
  id : Int64
  date : Instant
  chat : Int64
  kind : ChatKind
  sender : Option Sender
  text : Option String
deriving DecidableEq

namespace ChatKind

def name : ChatKind → String
  | personal => "private"
  | group => "group"
  | supergroup => "supergroup"
  | channel => "channel"

def ofName? : String → Option ChatKind
  | "private" => some personal
  | "group" => some group
  | "supergroup" => some supergroup
  | "channel" => some channel
  | _ => none

end ChatKind

namespace Sender

def ofJson? (v : Json) : Option Sender := do
  let id ← Json.Access.nat? v "id"
  let firstName ← Json.Access.text? v "first_name"
  some ⟨UInt64.ofNat id, Json.Access.bool v "is_bot", firstName, Json.Access.text? v "last_name",
    Json.Access.text? v "username"⟩

/-- A sender as a user. The identifier becomes a signed word. -/
def toUser (s : Sender) : User := ⟨s.id.toInt64, s.username, some s.firstName, s.lastName⟩

end Sender

namespace Incoming

def ofJson? (v : Json) : Option Incoming := do
  let id ← Json.Access.int64? v "message_id"
  let date ← Json.Access.asInt? (Json.Access.field v "date")
  let date ← Instant.ofParts? date 0
  let chat := Json.Access.field v "chat"
  let chatId ← Json.Access.int64? chat "id"
  let kind ← ChatKind.ofName? (Json.Access.text chat "type")
  some ⟨id, date, chatId, kind, Sender.ofJson? (Json.Access.field v "from"), Json.Access.text? v "text"⟩

/-- The user who stands for a message without a sender. -/
def nobody : User := ⟨0, none, none, none⟩

/-- What is delivered as a message, whoever sent it. What is no text counts as an empty one. -/
def toMessage (m : Incoming) : Message where
  id := toString m.id.toInt
  user := m.sender.elim nobody Sender.toUser
  chat := ⟨m.chat, m.kind.name⟩
  content := m.text.getD ""
  createdAt := m.date

/-- Whether a human wrote a text. -/
def isWritten (m : Incoming) : Bool :=
  match m.sender with
  | some s => !s.isBot && m.text.isSome
  | none => false

/-- What is delivered as an update. It brings a message if a human wrote a text. -/
def toUpdate (m : Incoming) : Update :=
  if m.isWritten then .ofMessage m.toMessage else .empty (toString m.id.toInt)

/-- What a poll delivers: new messages, and much else that does not matter. -/
def polled (updates : List Json) : List Incoming :=
  updates.filterMap fun v => ofJson? (Json.Access.field v "message")

end Incoming

end Registrar.Telegram
