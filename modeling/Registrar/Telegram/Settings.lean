import Registrar.Config.Environment
import Registrar.Config.Error
import Registrar.Url.Parser
/-!
How the messenger is reached: a token, and the server of its interface.
-/

namespace Registrar.Telegram

/-- A token and the URL of a server, if it is not the usual one. -/
structure Settings where
  token : String
  apiUrl : Option String
deriving DecidableEq

namespace Settings

def usualServer : String := "https://api.telegram.org/"

/-- The server in an environment. The first setting counts if it is there, even if it is empty. -/
def chooseApiUrl (env : Environment) : Option String :=
  ((env "TELEGRAM_API_URL").or (env "TELOXIDE_API_URL")).filter (· ≠ "")

/-- The settings in an environment, with a token of one's own. -/
def withToken (env : Environment) (token : String) : Settings := ⟨token, chooseApiUrl env⟩

def load (env : Environment) : Except ConfigError Settings :=
  match env "BOT_TOKEN" with
  | some token => .ok (withToken env token)
  | none => .error .tokenNotSet

/-- The URL of the server in its usual form; the usual server if what is set is no URL. -/
def serverUrl (s : Settings) : String :=
  match s.apiUrl with
  | none => usualServer
  | some url =>
    match Url.parse url with
    | .ok u => u.write
    | .error _ => usualServer

end Settings

end Registrar.Telegram
