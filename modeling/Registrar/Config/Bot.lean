import Registrar.Config.Storage
import Registrar.Registration.Policy
import Registrar.Url.Parser
/-!
The settings of the bot.
-/

namespace Registrar

/-- How e-mails are sent. Without a URL they are only told to the log. -/
structure EmailSettings where
  apiUrl : Option String
  apiKey : Option String
  sender : Option String
  loginDomain : Option String
deriving DecidableEq

structure BotConfig where
  token : String
  /-- The server of the messenger, if it is not the usual one. -/
  apiUrl : Option String
  logFile : String
  databaseUrl : String
  store : StoreSettings
  email : EmailSettings
  policy : Registration.Policy
  quizUrl : Option String
  /-- After how many idle seconds a worker retires. -/
  idleTimeout : Nat
deriving DecidableEq

def isUrl (s : String) : Bool :=
  match Url.parse s with
  | .ok _ => true
  | .error _ => false

namespace EmailSettings

def load (env : Environment) : EmailSettings where
  apiUrl := env.trimmed? "EMAIL_API_URL"
  apiKey := env.trimmed? "EMAIL_API_KEY"
  sender := env.trimmed? "EMAIL_FROM"
  loginDomain :=
    (env.trimmed? "EMAIL_LOGIN_DOMAIN").map fun d => String.ofList (d.toList.dropWhile (· = '@'))

/-- Refuses settings with which no e-mail can be sent. -/
def validate (s : EmailSettings) : Except ConfigError Unit :=
  match s.apiUrl with
  | none => .ok ()
  | some url =>
    if !isUrl url then .error (.badEmailUrl url)
    else if s.sender.isNone then .error .senderNotSet
    else .ok ()

end EmailSettings

namespace Registration.Policy

/-- The seconds of a number of minutes, if they fit into a word of 64 bits. -/
def secondsOfMinutes? (minutes : Nat) : Option Nat :=
  if 60 * minutes < Text.wordBound then some (60 * minutes) else none

/-- The settings in an environment, but for the domain. -/
def load (env : Environment) (loginDomain : Option String) : Except LoadError Policy :=
  match secondsOfMinutes? (env.natural "OTP_VALIDITY_MINUTES" (default.validity / 60)) with
  | none => .error .overflow
  | some seconds => .ok {
      codeLength := env.natural "OTP_LENGTH" default.codeLength
      validity := seconds
      blockOnEmailFailure := env.truth "OTP_BLOCK_ON_EMAIL_FAILURE" default.blockOnEmailFailure
      enforceExpiry := env.truth "OTP_ENFORCE_EXPIRY" default.enforceExpiry
      loginDomain := loginDomain }

end Registration.Policy

namespace BotConfig

def defaultLogFile : String := "logs/quizbot.log"

/-- The location of the table of users if none is set. -/
def defaultDatabaseUrl : String := "sqlite:./quizbot.db"

/-- The seconds after which an idle worker retires if none are set. -/
def defaultIdleTimeout : Nat := 300

def chooseToken (env : Environment) (given : Option String) : Except ConfigError String :=
  match given with
  | some token => .ok token
  | none =>
    match env "BOT_TOKEN" with
    | some token => .ok token
    | none => .error .tokenNotSet

/-- The server of the messenger, under either name of the setting. -/
def chooseApiUrl (env : Environment) : Option String :=
  (env.trimmed? "TELEGRAM_API_URL").or (env.trimmed? "TELOXIDE_API_URL")

/-- The settings in an environment, with a token that goes before the one that is set there. -/
def load (env : Environment) (token : Option String) : Except LoadError BotConfig := do
  let token ← (chooseToken env token).mapError .refused
  let store ← (StoreSettings.load env).mapError .refused
  let email := EmailSettings.load env
  let policy ← Registration.Policy.load env email.loginDomain
  .ok {
    token := token
    apiUrl := chooseApiUrl env
    logFile := (env "LOG_FILE").getD defaultLogFile
    databaseUrl := (env "DATABASE_URL").getD defaultDatabaseUrl
    store := store
    email := email
    policy := policy
    quizUrl := env.trimmed? "QUIZ_WEB_APP_URL"
    idleTimeout := env.natural "DISPATCH_IDLE_TIMEOUT_SECS" defaultIdleTimeout }

/-- Refuses a blank token and a server without a proper URL. -/
def validateMessenger (c : BotConfig) : Except ConfigError Unit :=
  if Text.isBlank c.token then .error .blankToken
  else
    match c.apiUrl with
    | some url => if isUrl url then .ok () else .error (.badApiUrl url)
    | none => .ok ()

/-- Refuses codes without digits and codes that are never valid. -/
def validatePolicy (p : Registration.Policy) : Except ConfigError Unit :=
  if p.codeLength = 0 then .error .zeroCodeLength
  else if p.validity = 0 then .error .zeroValidity
  else .ok ()

/-- Refuses a quiz that is not reached through `https`. -/
def validateQuiz (quizUrl : Option String) : Except ConfigError Unit :=
  match quizUrl with
  | none => .ok ()
  | some url =>
    match Url.parse url with
    | .ok u => if u.scheme = "https" then .ok () else .error (.quizNotSecure url)
    | .error _ => .error (.quizNotSecure url)

def validate (c : BotConfig) : Except ConfigError Unit := do
  c.validateMessenger
  c.store.validate
  c.email.validate
  validatePolicy c.policy
  validateQuiz c.quizUrl
  if c.idleTimeout = 0 then .error .zeroIdleTimeout else .ok ()

end BotConfig

end Registrar
