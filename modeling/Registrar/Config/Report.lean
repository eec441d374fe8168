import Registrar.Config.Bot
/-!
Settings as JSON, for a report of what the bot has been told. Times are in seconds.
-/

namespace Registrar

def reportNat (n : Nat) : Json := .optional (fun i => .number (.integer i)) (JsonInteger.ofInt? n)

def reportText (s : Option String) : Json := .optional .string s

def EmailSettings.toJson (s : EmailSettings) : Json :=
  .ofMembers [("api_url", reportText s.apiUrl), ("api_key", reportText s.apiKey),
    ("from", reportText s.sender), ("login_domain", reportText s.loginDomain)]

def StoreKind.name : StoreKind → String
  | memory => "Memory"
  | redis => "Redis"

def RedisSettings.members (s : RedisSettings) : List (String × Json) :=
  [("redis_addr", .string s.address), ("redis_password", reportText s.password),
    ("redis_db", .int s.database), ("redis_retries", reportNat s.retries),
    ("redis_connect_timeout", reportNat s.connectTimeout),
    ("redis_response_timeout", reportNat s.responseTimeout), ("redis_url", .string s.url)]

def StoreSettings.members (s : StoreSettings) : List (String × Json) :=
  s.redis.members ++ [("backend", .string s.kind.name), ("key_prefix", .string s.keyPrefix),
    ("ttl", reportNat s.lifetime), ("sweep_interval", reportNat s.sweepInterval)]

def Registration.Policy.members (p : Registration.Policy) : List (String × Json) :=
  [("code_length", reportNat p.codeLength), ("code_validity", reportNat p.validity),
    ("block_on_email_failure", .bool p.blockOnEmailFailure),
    ("enforce_code_expiry", .bool p.enforceExpiry), ("login_domain", reportText p.loginDomain)]

def BotConfig.members (c : BotConfig) : List (String × Json) :=
  c.store.members ++ c.policy.members ++
    [("bot_token", .string c.token), ("telegram_api_url", reportText c.apiUrl),
      ("log_file", .string c.logFile), ("database_url", .string c.databaseUrl),
      ("email", c.email.toJson), ("quiz_url", reportText c.quizUrl),
      ("idle", reportNat c.idleTimeout)]

end Registrar
