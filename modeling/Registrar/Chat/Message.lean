import Registrar.Chat.Conversation
/-!
Messages that users send, and the commands among them.

A message is a command when it begins with a slash and a name: `/name`, which an address `@bot` or
white space may follow. Main statement: `Message.command` finds exactly the names of this grammar
(`commandName_eq_some_iff`).
-/

namespace Registrar

structure User where
  id : Int64
  username : Option String
  firstName : Option String
  lastName : Option String
deriving DecidableEq

structure Chat where
  id : Int64
  kind : String
deriving DecidableEq

structure Message where
  id : String
  user : User
  chat : Chat
  content : String
  createdAt : Instant
deriving DecidableEq

/-- Something that happened in a chat; only those that bring a message matter. -/
structure Update where
  id : String
  message : Option Message
deriving DecidableEq

def endsCommandName (c : Char) : Bool := Text.isWhiteSpace c || c == '@'

def commandName : List Char → Option (List Char)
  | '/' :: cs =>
    match cs.takeWhile fun c => !endsCommandName c with
    | [] => none
    | name => some name
  | _ => none

namespace Message

def conversation (m : Message) : Conversation := ⟨m.chat.id, m.user.id⟩

def command (m : Message) : Option String := (commandName m.content.toList).map String.ofList

def isCommand (m : Message) : Bool := m.command.isSome

end Message

namespace Update

/-- The update that brings a message; it carries the message's own identifier. -/
def ofMessage (m : Message) : Update := ⟨m.id, some m⟩

/-- An update without a message. -/
def empty (id : String) : Update := ⟨id, none⟩

end Update

/-! ### JSON -/

namespace User

def shape : Decode.Shape := ⟨"struct User", ["id", "username", "first_name", "last_name"]⟩

def toJson (u : User) : Json :=
  .ofMembers [("id", .int u.id), ("username", .optional .string u.username),
    ("first_name", .optional .string u.firstName), ("last_name", .optional .string u.lastName)]

def ofJson (v : Json) : Except DecodeError User := do
  let ms ← Decode.record shape (fun
    | "id", v => Decode.accepts (Decode.int64 v)
    | "username", v | "first_name", v | "last_name", v =>
      Decode.accepts (Decode.option Decode.string v)
    | _, _ => .ok ()) v
  let id ← Decode.required ms "id" Decode.int64
  let username ← Decode.optional ms "username" Decode.string
  let firstName ← Decode.optional ms "first_name" Decode.string
  let lastName ← Decode.optional ms "last_name" Decode.string
  .ok ⟨id, username, firstName, lastName⟩

end User

namespace Chat

def shape : Decode.Shape := ⟨"struct Chat", ["id", "chat_type"]⟩

def toJson (c : Chat) : Json :=
  .ofMembers [("id", .int c.id), ("chat_type", .string c.kind)]

def ofJson (v : Json) : Except DecodeError Chat := do
  let ms ← Decode.record shape (fun
    | "id", v => Decode.accepts (Decode.int64 v)
    | "chat_type", v => Decode.accepts (Decode.string v)
    | _, _ => .ok ()) v
  let id ← Decode.required ms "id" Decode.int64
  let kind ← Decode.required ms "chat_type" Decode.string
  .ok ⟨id, kind⟩

end Chat

namespace Message

def shape : Decode.Shape := ⟨"struct Message", ["id", "user", "chat", "content", "created_at"]⟩

def toJson (m : Message) : Json :=
  .ofMembers [("id", .string m.id), ("user", m.user.toJson), ("chat", m.chat.toJson),
    ("content", .string m.content), ("created_at", .string (Rfc3339.write m.createdAt))]

def ofJson (v : Json) : Except DecodeError Message := do
  let ms ← Decode.record shape (fun
    | "id", v | "content", v => Decode.accepts (Decode.string v)
    | "user", v => Decode.accepts (User.ofJson v)
    | "chat", v => Decode.accepts (Chat.ofJson v)
    | "created_at", v => Decode.accepts (Decode.instant v)
    | _, _ => .ok ()) v
  let id ← Decode.required ms "id" Decode.string
  let user ← Decode.required ms "user" User.ofJson
  let chat ← Decode.required ms "chat" Chat.ofJson
  let content ← Decode.required ms "content" Decode.string
  let createdAt ← Decode.required ms "created_at" Decode.instant
  .ok ⟨id, user, chat, content, createdAt⟩

end Message

namespace Update

def shape : Decode.Shape := ⟨"struct Update", ["id", "message"]⟩

def toJson (u : Update) : Json :=
  .ofMembers [("id", .string u.id), ("message", .optional Message.toJson u.message)]

def ofJson (v : Json) : Except DecodeError Update := do
  let ms ← Decode.record shape (fun
    | "id", v => Decode.accepts (Decode.string v)
    | "message", v => Decode.accepts (Decode.option Message.ofJson v)
    | _, _ => .ok ()) v
  let id ← Decode.required ms "id" Decode.string
  let message ← Decode.optional ms "message" Message.ofJson
  .ok ⟨id, message⟩

end Update

/-! ### The grammar of commands -/

theorem commandName_eq_some_iff {s t : List Char} :
    commandName s = some t ↔
      t ≠ [] ∧ (∀ c ∈ t, endsCommandName c = false) ∧
        ∃ r, s = '/' :: t ++ r ∧ ∀ c, r.head? = some c → endsCommandName c = true := by
  constructor
  · intro h
    unfold commandName at h
    split at h
    · rename_i cs
      have hne : cs.takeWhile (fun c => !endsCommandName c) = t ∧ t ≠ [] := by
        revert h
        cases cs.takeWhile (fun c => !endsCommandName c) with
        | nil => simp
        | cons d ds => intro h; simp at h; simp [← h]
      refine ⟨hne.2, ?_, cs.dropWhile fun c => !endsCommandName c, ?_, ?_⟩
      · intro c hc
        rw [← hne.1] at hc
        have := List.all_takeWhile (p := fun c => !endsCommandName c) (l := cs)
        simpa using List.all_eq_true.1 this c hc
      · rw [← hne.1]
        simp [List.takeWhile_append_dropWhile]
      · intro c hc
        have := List.head?_dropWhile_not (fun c => !endsCommandName c) cs
        rw [hc] at this
        simpa using this
    · simp at h
  · rintro ⟨hne, ht, r, rfl, hr⟩
    have : (t ++ r).takeWhile (fun c => !endsCommandName c) = t := by
      rw [List.takeWhile_append_of_pos (by simpa using ht)]
      cases r with
      | nil => simp
      | cons c r => simp [hr c rfl]
    simp only [commandName, List.cons_append, this]

end Registrar
