import Registrar.Bot.Launch
import Registrar.CommandLine
/-!
The program: its arguments and its environment are read, and the bot is put together.

No transport to the messenger or to other servers is part of this program, so a bot that is put together
finds nobody to talk to.
-/

namespace Registrar

def helpText : String :=
  "\n".intercalate
    ["Quiz bot with email verification",
      "",
      "Usage: quizbot <COMMAND>",
      "",
      "Commands:",
      "  run   Run the Telegram bot (config from env; token can override BOT_TOKEN)",
      "  help  Print this message or the help of the given subcommand(s)",
      "",
      "Options:",
      "  -h, --help     Print help",
      "  -V, --version  Print version",
      ""]

def versionText : String := "quizbot 0.1.0\n"

namespace CommandLine.Refusal

/-- Whether an answer is what was asked for, and not a complaint. -/
def isWish : Refusal → Bool
  | helpWanted | versionWanted => true
  | _ => false

/-- What is said when there is nothing to run. -/
def message : Refusal → String
  | helpWanted => helpText
  | versionWanted => versionText
  | commandMissing => helpText
  | unknownCommand => "error: unrecognized subcommand\n"
  | unknownArgument => "error: unexpected argument found\n"
  | valueMissing => "error: a value is required for '--token <TOKEN>' but none was supplied\n"
  | valueUnneeded => "error: unexpected value found; no more were expected\n"
  | repeated => "error: the argument '--token <TOKEN>' cannot be used multiple times\n"

end CommandLine.Refusal

/-- What the program says in the end, and whether all went well. -/
inductive Verdict where
  | satisfied (text : String)
  | misused (text : String)
  | failed (reason : String)
  | brokenDown (reason : String)
deriving DecidableEq

namespace Verdict

def status : Verdict → UInt32
  | satisfied _ => 0
  | failed _ => 1
  | misused _ => 2
  | brokenDown _ => 101

def text : Verdict → String
  | satisfied text => text
  | misused text => text
  | failed reason => "Error: " ++ reason ++ "\n"
  | brokenDown reason => reason ++ "\n"

end Verdict

def settingNames : List String :=
  ["BOT_TOKEN", "TELEGRAM_API_URL", "TELOXIDE_API_URL", "LOG_FILE", "DATABASE_URL", "FSM_STORAGE",
    "FSM_KEY_PREFIX", "FSM_TTL_SECS", "FSM_SWEEP_INTERVAL_SECS", "REDIS_ADDR", "REDIS_PASSWORD",
    "REDIS_DB", "REDIS_CONNECT_RETRIES", "REDIS_CONNECT_TIMEOUT_SECS", "REDIS_RESPONSE_TIMEOUT_SECS",
    "EMAIL_API_URL", "EMAIL_API_KEY", "EMAIL_FROM", "EMAIL_LOGIN_DOMAIN", "OTP_LENGTH",
    "OTP_VALIDITY_MINUTES", "OTP_BLOCK_ON_EMAIL_FAILURE", "OTP_ENFORCE_EXPIRY", "QUIZ_WEB_APP_URL",
    "DISPATCH_IDLE_TIMEOUT_SECS"]

/-- What becomes of a bot with these settings where nothing can be reached and files are new. -/
def verdict (env : Environment) (token : Option String) : Verdict :=
  match BotConfig.load env token with
  | .error (.refused e) => .failed e.message
  | .error .overflow => .brokenDown LoadError.overflow.message
  | .ok c =>
    match launch c (.ofLists [["work"]] [] ["work"])
        (.offline .epoch (.ofLists [["work"]] [] ["work"]) c.policy.codeLength) with
    | .error e => .failed e.message
    | .ok _ => .failed "the messenger cannot be reached"

def runWith (env : Environment) (args : List String) : Verdict :=
  match CommandLine.readArguments args with
  | .ok (.run token) => verdict env token
  | .error refusal => if refusal.isWish then .satisfied refusal.message else .misused refusal.message

end Registrar

open Registrar in
def main (args : List String) : IO UInt32 := do
  let settings ← settingNames.filterMapM fun name => do
    let value ← IO.getEnv name
    return value.map fun v => (name, v)
  let verdict := runWith (.ofList settings) args
  let out ← if verdict.status = 0 then IO.getStdout else IO.getStderr
  out.putStr verdict.text
  return verdict.status
