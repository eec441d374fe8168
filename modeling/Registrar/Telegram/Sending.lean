import Registrar.Error
import Registrar.Http.Exchange
import Registrar.Json.Access
import Registrar.Json.Parser
import Registrar.Json.Printer
import Registrar.Telegram.Incoming
import Registrar.Telegram.Markup
import Registrar.Telegram.Settings
/-!
Sending messages through the interface of the messenger, and what it answers.
-/

namespace Registrar.Telegram

inductive SendError where
  | badLink (cause : BadLink UrlError)
  | unreachable
  /-- The messenger refused. -/
  | refused (description : String)
  /-- The chat has become another one. -/
  | moved (chat : Int64)
  /-- The messenger wants to be left alone for some seconds. -/
  | tooOften (seconds : Nat)
  /-- The messenger's answer makes no sense. -/
  | senseless (reason answer : String)
deriving DecidableEq

/-- The descriptions by which the messenger refuses that are told as they are. -/
def knownDescriptions : List String :=
  ["Forbidden: bot was blocked by the user",
    "Forbidden: bot was kicked from the supergroup chat",
    "Forbidden: user is deactivated",
    "Forbidden: bot can't initiate conversation with a user",
    "Forbidden: bot can't send messages to bots",
    "Unauthorized: bot was kicked from a chat",
    "Conflict: terminated by other getUpdates request; make sure that only one bot instance is running",
    "Bad Request: message is not modified: specified new message content and reply markup are " ++
      "exactly the same as a current content and reply markup of the message",
    "Bad Request: MESSAGE_ID_INVALID",
    "Bad Request: MESSAGE_TOO_LONG",
    "Bad Request: BUTTON_URL_INVALID",
    "Bad Request: BUTTON_DATA_INVALID",
    "Bad Request: STICKERSET_INVALID",
    "Bad Request: message to forward not found",
    "Bad Request: message to delete not found",
    "Bad Request: message to copy not found",
    "Bad Request: message to edit not found",
    "Bad Request: reply message not found",
    "Bad Request: message text is empty",
    "Bad Request: message can't be edited",
    "Bad Request: message can't be deleted",
    "Bad Request: message identifier is not specified",
    "Bad Request: message is too long",
    "Bad Request: message is not a poll",
    "Bad Request: message with poll to stop not found",
    "Bad Request: Too much messages to send as an album",
    "Bad Request: poll has already been closed",
    "Bad Request: poll must have at least 2 option",
    "Bad Request: poll can't have more than 10 options",
    "Bad Request: poll options must be non-empty",
    "Bad Request: poll question must be non-empty",
    "Bad Request: poll options length must not exceed 100",
    "Bad Request: poll question length must not exceed 255",
    "Bad Request: chat not found",
    "Bad Request: user not found",
    "Bad Request: chat description is not modified",
    "Bad Request: query is too old and response timeout expired or query id is invalid",
    "Bad Request: can't parse inline keyboard button: Text buttons are unallowed in the inline keyboard",
    "Bad Request: can't parse URL",
    "Bad Request: wrong file id",
    "Bad Request: wrong HTTP URL specified",
    "Bad Request: group chat was deactivated",
    "Bad Request: Photo should be uploaded as an InputFile",
    "Bad Request: not enough rights to pin a message",
    "Bad Request: not enough rights to manage pinned messages in the chat",
    "Bad Request: not enough rights to change chat permissions",
    "Bad Request: not enough rights to restrict/unrestrict chat member",
    "Bad Request: method is available only for supergroups and channel",
    "Bad Request: can't demote chat creator",
    "Bad Request: can't restrict self"]

/-- What a description begins with that tells of bad markup. -/
def badMarkup : String := "Bad Request: can't parse entities"

def refusalText (description : String) : String :=
  if description = "Unauthorized" ∨ description = "Not Found" then "Invalid bot token"
  else if description ∈ knownDescriptions then description
  else if badMarkup.toList.isPrefixOf description.toList then description
  else "Unknown error: " ++ Text.quoted description

namespace SendError

def message : SendError → String
  | badLink cause => cause.message UrlError.message
  | unreachable => "A network error: error sending request"
  | refused description => "A Telegram's error: " ++ refusalText description
  | moved chat =>
    "The group has been migrated to a supergroup with ID #" ++ toString chat.toInt
  | tooOften seconds => "Retry after " ++ toString seconds ++ " seconds"
  | senseless reason answer =>
    "An error while parsing JSON: " ++ reason ++ " (raw: " ++ Text.quoted answer ++ ")"

/-- A message that was not sent as the reason why a message was not handled. -/
def toBotError (e : SendError) : BotError := .bot e.message

end SendError

def prepare (m : Outgoing) : Except SendError Json :=
  ((Posting.ofOutgoing Url.parse m).mapError .badLink).map Posting.toJson

/-- What the messenger means by not granting a request, if it says enough about it. -/
def readRefusal? (v : Json) : Option SendError := do
  let description ← Json.Access.text? v "description"
  let code ← Json.Access.asInt? (Json.Access.field v "error_code")
  if code < 0 ∨ 65535 < code then none
  else
    let more := Json.Access.field v "parameters"
    match Json.Access.int64? more "migrate_to_chat_id", Json.Access.nat? more "retry_after" with
    | some chat, _ => some (.moved chat)
    | none, some seconds => some (.tooOften seconds)
    | none, none => some (.refused description)

/-- What an answer of the messenger means. A request that is granted is answered with the message as it
was sent. -/
def readAnswer (answer : String) : Except SendError Unit :=
  match Json.parse answer with
  | .error e => .error (.senseless e.message answer)
  | .ok v =>
    let senseless : SendError :=
      .senseless "data did not match any variant of untagged enum TelegramResponse" answer
    match Json.Access.field v "ok" with
    | .bool true =>
      if (Incoming.ofJson? (Json.Access.field v "result")).isSome then .ok () else .error senseless
    | .bool false => .error ((readRefusal? v).getD senseless)
    | _ => .error senseless

namespace Settings

def sendUrl (s : Settings) : Except UrlError Url := do
  let u ← Url.parse s.serverUrl
  .ok { Http.anonymous u with
    path := .segments ["bot" ++ s.token, "SendMessage"], query := none, fragment := none }

/-- Posts a message whose links have been read. The answer is the requests that were made and what came of
them. -/
def post (s : Settings) (web : Http.Web) (p : Posting Url) :
    List Http.Request × Except SendError Unit :=
  match s.sendUrl with
  | .error _ => ([], .error .unreachable)
  | .ok u =>
    match web u with
    | none => ([], .error .unreachable)
    | some serve =>
      let request : Http.Request := ⟨Http.target u, none, p.toJson⟩
      ([request], readAnswer (serve request).body)

/-- Sends a message. The answer is the requests that were made and what came of them. -/
def send (s : Settings) (web : Http.Web) (m : Outgoing) :
    List Http.Request × Except SendError Unit :=
  transmit Url.parse .badLink (s.post web) m

end Settings

end Registrar.Telegram
