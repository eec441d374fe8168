/-!
What can be wrong with the settings.
-/

namespace Registrar

inductive ConfigError where
  | tokenNotSet
  | unknownStore (name : String)
  | blankToken
  | badApiUrl (url : String)
  | zeroLifetime
  | zeroSweepInterval
  | blankRedisAddress
  | zeroRedisTimeout
  | badEmailUrl (url : String)
  | senderNotSet
  | zeroCodeLength
  | zeroValidity
  | quizNotSecure (url : String)
  | zeroIdleTimeout
deriving DecidableEq

namespace ConfigError

def message : ConfigError → String
  | tokenNotSet => "BOT_TOKEN not set"
  | unknownStore name => "Unknown FSM_STORAGE backend: " ++ name
  | blankToken => "BOT_TOKEN must not be empty"
  | badApiUrl url =>
    "TELEGRAM_API_URL (or TELOXIDE_API_URL) is set but not a valid URL: " ++ url
  | zeroLifetime => "FSM_TTL_SECS must be greater than zero"
  | zeroSweepInterval => "FSM_SWEEP_INTERVAL_SECS must be greater than zero"
  | blankRedisAddress => "REDIS_ADDR must not be empty"
  | zeroRedisTimeout =>
    "REDIS_CONNECT_TIMEOUT_SECS and REDIS_RESPONSE_TIMEOUT_SECS must be greater than zero"
  | badEmailUrl url => "EMAIL_API_URL is not a valid URL: " ++ url
  | senderNotSet => "EMAIL_FROM is required when EMAIL_API_URL is set"
  | zeroCodeLength => "OTP_LENGTH must be greater than zero"
  | zeroValidity => "OTP_VALIDITY_MINUTES must be greater than zero"
  | quizNotSecure url => "QUIZ_WEB_APP_URL must be an https URL: " ++ url
  | zeroIdleTimeout => "DISPATCH_IDLE_TIMEOUT_SECS must be greater than zero"

def causes : ConfigError → List String
  | tokenNotSet => ["environment variable not found"]
  | _ => []

end ConfigError

inductive LoadError where
  /-- They are refused. -/
  | refused (cause : ConfigError)
  /-- Loading breaks down over a product that does not fit into a word. -/
  | overflow
deriving DecidableEq

def LoadError.message : LoadError → String
  | refused cause => cause.message
  | overflow => "attempt to multiply with overflow"

end Registrar
