import Registrar.Json.Decode
/-!
A conversation is identified by a chat and by the user who speaks in it: one user has different
conversations in different chats.
-/

namespace Registrar

structure Conversation where
  chat : Int64
  user : Int64
deriving DecidableEq

namespace Conversation

/-- Chat and user with a colon between them. -/
def display (c : Conversation) : String :=
  toString c.chat.toInt ++ ":" ++ toString c.user.toInt

/-- Conversations are ordered by chat, then by user. -/
def compare (a b : Conversation) : Ordering :=
  (Ord.compare a.chat.toInt b.chat.toInt).then (Ord.compare a.user.toInt b.user.toInt)

def shape : Decode.Shape := ⟨"struct ConversationKey", ["chat_id", "user_id"]⟩

def toJson (c : Conversation) : Json :=
  .ofMembers [("chat_id", .int c.chat), ("user_id", .int c.user)]

def ofJson (v : Json) : Except DecodeError Conversation := do
  let ms ← Decode.record shape (fun
    | "chat_id", v | "user_id", v => Decode.accepts (Decode.int64 v)
    | _, _ => .ok ()) v
  let chat ← Decode.required ms "chat_id" Decode.int64
  let user ← Decode.required ms "user_id" Decode.int64
  .ok ⟨chat, user⟩

end Conversation

end Registrar
