import Registrar.Redis.Reply
/-!
What goes wrong between the bot and a Redis server, and how it is told.
-/

namespace Registrar.Redis

/-- What went wrong. -/
inductive Fault where
  /-- No way leads to the server. -/
  | unreachable
  /-- No server listens at the place in the tree of files. -/
  | noSocket
  | badUrl
  | noHost
  | noPath
  | noEncryption
  | badDatabase
  | badUser
  | badPassword
  | badVersion (version : String)
  | refused (refusal : Refusal)
  | wrongPassword
  | oddGreeting
  | databaseRefused (detail : Option String)
  | noTransaction
  | notText (reply : Reply)

/-- The codes of refusals that have a name of their own. -/
def codeNames : List (String × String) :=
  [("ERR", "ResponseError"), ("EXECABORT", "ExecAbortError"), ("LOADING", "BusyLoadingError"),
    ("NOSCRIPT", "NoScriptError"), ("MOVED", "Moved"), ("ASK", "Ask"), ("TRYAGAIN", "TryAgain"),
    ("CLUSTERDOWN", "ClusterDown"), ("CROSSSLOT", "CrossSlot"), ("MASTERDOWN", "MasterDown"),
    ("READONLY", "ReadOnly"), ("NOTBUSY", "NotBusy"), ("NOSUB", "NoSub")]

namespace Fault

/-- A summary, what kind of fault it is, and perhaps an explanation. -/
def phrase (summary kind : String) (detail : Option String) : String :=
  match detail with
  | some detail => summary ++ " - " ++ kind ++ ": " ++ detail
  | none => summary ++ "- " ++ kind

def refusalMessage (r : Refusal) : String :=
  match codeNames.lookup r.code with
  | some kind => phrase "An error was signalled by the server" kind r.detail
  | none => r.code ++ ": " ++ r.detail.getD "Unknown extension error encountered"

def message : Fault → String
  | unreachable => "Network is unreachable (os error 101)"
  | noSocket => "No such file or directory (os error 2)"
  | badUrl => phrase "Redis URL did not parse" "InvalidClientConfig" none
  | noHost => phrase "Missing hostname" "InvalidClientConfig" none
  | noPath => phrase "Missing path" "InvalidClientConfig" none
  | noEncryption =>
    phrase "can't connect with TLS, the feature is not enabled" "InvalidClientConfig" none
  | badDatabase => phrase "Invalid database number" "InvalidClientConfig" none
  | badUser => phrase "Username is not valid UTF-8 string" "InvalidClientConfig" none
  | badPassword => phrase "Password is not valid UTF-8 string" "InvalidClientConfig" none
  | badVersion version => phrase "Invalid protocol version" "InvalidClientConfig" (some version)
  | refused r => refusalMessage r
  | wrongPassword => phrase "Password authentication failed" "AuthenticationFailed" none
  | oddGreeting =>
    phrase "Redis server refused to authenticate, returns Ok() != Value::Okay" "ResponseError" none
  | databaseRefused detail =>
    phrase "Redis server refused to switch database" "ResponseError" detail
  | noTransaction => phrase "Invalid response when parsing multi response" "ResponseError" none
  | notText reply =>
    phrase "Response was of incompatible type" "TypeError"
      (some ("\"Response type not string compatible.\" (response was " ++ reply.display ++ ")"))

end Fault

end Registrar.Redis
