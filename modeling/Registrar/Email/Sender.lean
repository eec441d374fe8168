import Registrar.Config.Bot
import Registrar.Handler.Request
import Registrar.Error
import Registrar.Http.Exchange
/-!
How e-mails are sent: they are posted to the interface of a mail service, or told to the log alone.
-/

namespace Registrar

/-- The interface of a mail service, a key to it, and whom e-mails come from. -/
structure MailService where
  url : String
  key : Option String
  sender : String
deriving DecidableEq

inductive EmailSender where
  /-- Tells e-mails to the log. -/
  | log
  | service (service : MailService)
deriving DecidableEq

namespace MailService

def plainText (mail : Email) : String :=
  "\n".intercalate (mail.fields.map fun f => f.1 ++ ": " ++ f.2)

def body (s : MailService) (mail : Email) : Json :=
  .ofMembers [("from", .string s.sender), ("to", .string mail.recipient),
    ("subject", .string mail.subject), ("text", .string (plainText mail)),
    ("data", .ofMembers (mail.fields.map fun f => (f.1, .string f.2)))]

def unmade : EmailError := .http "builder error"

def unmadeFor (u : Url) : EmailError := .http ("builder error for url (" ++ u.write ++ ")")

def unsent (u : Url) : EmailError := .http ("error sending request for url (" ++ u.write ++ ")")

def namesHost (u : Url) : Bool :=
  match u.host with
  | none => false
  | some (.name "") => false
  | some _ => true

/-- The key as the value of a header. An empty key counts as none. -/
def authorization (s : MailService) : Except EmailError (Option String) :=
  match s.key.filter (· ≠ "") with
  | none => .ok none
  | some key =>
    match Http.headerValue? ("Bearer " ++ key) with
    | some value => .ok (some value)
    | none => .error unmade

/-- The request for an e-mail, and the URL it goes to. -/
def prepare (s : MailService) (mail : Email) : Except EmailError (Url × Http.Request) := do
  if Text.isBlank mail.recipient then .error (.invalidRecipient mail.recipient)
  let u ←
    match Url.parse s.url with
    | .error _ => .error unmade
    | .ok u => if namesHost u then .ok (Http.anonymous u) else .error (unmadeFor u)
  let authorization ← s.authorization
  if u.scheme ≠ "http" ∧ u.scheme ≠ "https" then .error (unmadeFor u)
  else .ok (u, ⟨Http.target u, authorization, s.body mail⟩)

/-- Sends an e-mail. The answer is the requests that were made and what came of them. -/
def send (s : MailService) (web : Http.Web) (mail : Email) :
    List Http.Request × Except EmailError Unit :=
  match s.prepare mail with
  | .error e => ([], .error e)
  | .ok (u, request) =>
    match web u with
    | none => ([], .error (unsent u))
    | some serve =>
      let response := serve request
      if response.isSuccess then ([request], .ok ())
      else ([request], .error (.api response.status response.text))

end MailService

namespace EmailSender

def create (s : EmailSettings) : Except ConfigError EmailSender :=
  match s.apiUrl with
  | none => .ok log
  | some url =>
    match s.sender with
    | some sender => .ok (service ⟨url, s.apiKey.filter (· ≠ ""), sender⟩)
    | none => .error .senderNotSet

/-- Sends an e-mail. The answer is the requests that were made and what came of them. -/
def send (sender : EmailSender) (web : Http.Web) (mail : Email) :
    List Http.Request × Except EmailError Unit :=
  match sender with
  | log => ([], .ok ())
  | service s => s.send web mail

end EmailSender

end Registrar
