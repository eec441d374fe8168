import Registrar.Json.Decode
/-!
Messages that the bot sends: a text, perhaps formatted, perhaps with rows of buttons under it.
-/

namespace Registrar

inductive ParseMode where
  | html
  | markdownV2
deriving DecidableEq

inductive Button where
  /-- Opens a page. -/
  | url (text target : String)
  /-- Opens a page inside the messenger. -/
  | webApp (text target : String)
  /-- Sends data to the bot. -/
  | callback (text data : String)
deriving DecidableEq

/-- Rows of buttons. -/
structure Keyboard where
  rows : List (List Button)
deriving DecidableEq

structure Outgoing where
  chat : Int64
  text : String
  parseMode : Option ParseMode
  keyboard : Option Keyboard
deriving DecidableEq

def Outgoing.plain (chat : Int64) (text : String) : Outgoing := ⟨chat, text, none, none⟩

/-! ### JSON -/

namespace ParseMode

def name : ParseMode → String
  | html => "Html"
  | markdownV2 => "MarkdownV2"

def ofName? : String → Option ParseMode
  | "Html" => some html
  | "MarkdownV2" => some markdownV2
  | _ => none

def toJson (m : ParseMode) : Json := .string m.name

def ofJson (v : Json) : Except DecodeError ParseMode := do
  let (name, contents) ← Decode.alternative v
  match ofName? name with
  | some mode =>
    Decode.noContents contents
    .ok mode
  | none => .error (.unknownVariant name [html.name, markdownV2.name])

end ParseMode

namespace Button

/-- A button as JSON: its kind around its members. -/
def toJson : Button → Json
  | .url text target =>
    .ofMembers [("Url", .ofMembers [("text", .string text), ("url", .string target)])]
  | .webApp text target =>
    .ofMembers [("WebApp", .ofMembers [("text", .string text), ("url", .string target)])]
  | .callback text data =>
    .ofMembers [("Callback", .ofMembers [("text", .string text), ("data", .string data)])]

def texts (second : String) (contents : Option Json) : Except DecodeError (String × String) := do
  let ms ← Decode.recordContents contents
  Decode.checkMembers (fun k v =>
    if k = "text" ∨ k = second then Decode.accepts (Decode.string v) else .ok ()) ms
  let a ← Decode.required ms "text" Decode.string
  let b ← Decode.required ms second Decode.string
  .ok (a, b)

def ofJson (v : Json) : Except DecodeError Button := do
  let (name, contents) ← Decode.alternative v
  match name with
  | "Url" => (texts "url" contents).map fun t => .url t.1 t.2
  | "WebApp" => (texts "url" contents).map fun t => .webApp t.1 t.2
  | "Callback" => (texts "data" contents).map fun t => .callback t.1 t.2
  | _ => .error (.unknownVariant name ["Url", "WebApp", "Callback"])

end Button

namespace Keyboard

def shape : Decode.Shape := ⟨"struct InlineKeyboard", ["rows"]⟩

def toJson (k : Keyboard) : Json :=
  .ofMembers [("rows", .array (k.rows.map fun row => .array (row.map Button.toJson)))]

def ofJson (v : Json) : Except DecodeError Keyboard := do
  let rows := Decode.list (Decode.list Button.ofJson)
  let ms ← Decode.record shape (fun
    | "rows", v => Decode.accepts (rows v)
    | _, _ => .ok ()) v
  (Decode.required ms "rows" rows).map Keyboard.mk

end Keyboard

namespace Outgoing

def shape : Decode.Shape :=
  ⟨"struct OutgoingMessage", ["chat_id", "text", "parse_mode", "reply_markup"]⟩

def toJson (m : Outgoing) : Json :=
  .ofMembers [("chat_id", .int m.chat), ("text", .string m.text),
    ("parse_mode", .optional ParseMode.toJson m.parseMode),
    ("reply_markup", .optional Keyboard.toJson m.keyboard)]

def ofJson (v : Json) : Except DecodeError Outgoing := do
  let ms ← Decode.record shape (fun
    | "chat_id", v => Decode.accepts (Decode.int64 v)
    | "text", v => Decode.accepts (Decode.string v)
    | "parse_mode", v => Decode.accepts (Decode.option ParseMode.ofJson v)
    | "reply_markup", v => Decode.accepts (Decode.option Keyboard.ofJson v)
    | _, _ => .ok ()) v
  let chat ← Decode.required ms "chat_id" Decode.int64
  let text ← Decode.required ms "text" Decode.string
  let parseMode ← Decode.optional ms "parse_mode" ParseMode.ofJson
  let keyboard ← Decode.optional ms "reply_markup" Keyboard.ofJson
  .ok ⟨chat, text, parseMode, keyboard⟩

end Outgoing

end Registrar
