import Registrar.Chat.Outgoing
import Registrar.Url.Parser
/-!
Messages as the messenger wants them. Every link under a message has to be a URL; if one of them is
none, the message is not posted, and the first one in reading order is named.
-/

namespace Registrar.Telegram

/-- What a button does. -/
inductive Target (υ : Type) where
  /-- Opens a page. -/
  | page (url : υ)
  /-- Opens a page inside the messenger. -/
  | app (url : υ)
  /-- Sends data to the bot. -/
  | data (text : String)
deriving DecidableEq

/-- A button: what is written on it and what it does. -/
structure MarkupButton (υ : Type) where
  label : String
  target : Target υ
deriving DecidableEq

/-- Rows of buttons. -/
abbrev Markup (υ : Type) := List (List (MarkupButton υ))

structure BadLink (ε : Type) where
  link : String
  reason : ε
deriving DecidableEq

variable {ε υ : Type}

def BadLink.message (wording : ε → String) (b : BadLink ε) : String :=
  "Invalid button URL '" ++ b.link ++ "': " ++ wording b.reason

def readLink (read : String → Except ε υ) (link : String) : Except (BadLink ε) υ :=
  (read link).mapError (BadLink.mk link)

def MarkupButton.ofButton (read : String → Except ε υ) :
    Button → Except (BadLink ε) (MarkupButton υ)
  | .url label link => do
    let url ← readLink read link
    return ⟨label, .page url⟩
  | .webApp label link => do
    let url ← readLink read link
    return ⟨label, .app url⟩
  | .callback label text => return ⟨label, .data text⟩

def Markup.ofKeyboard (read : String → Except ε υ) (k : Keyboard) :
    Except (BadLink ε) (Markup υ) :=
  k.rows.mapM fun row => row.mapM (MarkupButton.ofButton read)

structure Posting (υ : Type) where
  chat : Int64
  text : String
  parseMode : Option ParseMode
  markup : Option (Markup υ)
deriving DecidableEq

def Posting.ofOutgoing (read : String → Except ε υ) (m : Outgoing) :
    Except (BadLink ε) (Posting υ) :=
  match m.keyboard with
  | none => return ⟨m.chat, m.text, m.parseMode, none⟩
  | some k => do
    let markup ← Markup.ofKeyboard read k
    return ⟨m.chat, m.text, m.parseMode, some markup⟩

/-- Posts a message if its links can be read. The answer is the requests that were made and what came of
them; nothing is posted if a link cannot be read. -/
def transmit {ρ φ : Type} (read : String → Except ε υ) (refuse : BadLink ε → φ)
    (post : Posting υ → List ρ × Except φ Unit) (m : Outgoing) : List ρ × Except φ Unit :=
  match Posting.ofOutgoing read m with
  | .ok p => post p
  | .error cause => ([], .error (refuse cause))

/-! ### JSON -/

def MarkupButton.toJson (b : MarkupButton Url) : Json :=
  let action :=
    match b.target with
    | .page url => ("url", Json.string url.write)
    | .app url => ("web_app", Json.ofMembers [("url", .string url.write)])
    | .data text => ("callback_data", Json.string text)
  .ofMembers [("text", .string b.label), action]

def Markup.toJson (m : Markup Url) : Json :=
  .ofMembers [("inline_keyboard", .array (m.map fun row => .array (row.map MarkupButton.toJson)))]

/-- The name by which the messenger knows a way of writing markup. -/
def modeName : ParseMode → String
  | .html => "HTML"
  | .markdownV2 => "MarkdownV2"

/-- What is posted for a message. What is not set is left out. -/
def Posting.toJson (p : Posting Url) : Json :=
  .ofMembers ([("chat_id", .int p.chat), ("text", .string p.text)] ++
    (p.parseMode.map fun mode => ("parse_mode", Json.string (modeName mode))).toList ++
    (p.markup.map fun k => ("reply_markup", k.toJson)).toList)

end Registrar.Telegram
