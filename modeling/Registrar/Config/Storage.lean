import Registrar.Config.Environment
import Registrar.Config.Error
import Registrar.Text.LowerCase
/-!
Settings of the store of states and scratch data.
-/

namespace Registrar

inductive StoreKind where
  | memory
  | redis
deriving DecidableEq

/-- How a Redis server is reached. Times are in seconds. -/
structure RedisSettings where
  address : String
  password : Option String
  database : Int64
  retries : Nat
  connectTimeout : Nat
  responseTimeout : Nat
deriving DecidableEq

/-- Settings of the store. Times are in seconds. -/
structure StoreSettings where
  kind : StoreKind
  redis : RedisSettings
  /-- What every key on the server begins with. -/
  keyPrefix : String
  /-- How long records are kept on the server after they were written. -/
  lifetime : Nat
  /-- How often records in memory are looked through. -/
  sweepInterval : Nat
deriving DecidableEq

namespace StoreKind

def read (name : String) : Except ConfigError StoreKind :=
  match Text.lower (Text.trim name) with
  | "memory" => .ok memory
  | "inmemory" => .ok memory
  | "" => .ok memory
  | "redis" => .ok redis
  | other => .error (.unknownStore other)

end StoreKind

namespace RedisSettings

/-- A server on this machine. -/
def default : RedisSettings := ⟨"127.0.0.1:6379", none, 0, 2, 5, 5⟩

/-- The URL of the server. The password is not encoded in any way. -/
def url (s : RedisSettings) : String :=
  let user :=
    match s.password with
    | some password => ":" ++ password ++ "@"
    | none => ""
  "redis://" ++ user ++ s.address ++ "/" ++ toString s.database.toInt

def load (env : Environment) : RedisSettings where
  address := (env "REDIS_ADDR").getD default.address
  password := (env "REDIS_PASSWORD").filter (· ≠ "")
  database := env.exactInteger "REDIS_DB" default.database
  retries := env.exactNatural "REDIS_CONNECT_RETRIES" default.retries
  connectTimeout := env.exactNatural "REDIS_CONNECT_TIMEOUT_SECS" default.connectTimeout
  responseTimeout := env.exactNatural "REDIS_RESPONSE_TIMEOUT_SECS" default.responseTimeout

end RedisSettings

namespace StoreSettings

/-- Memory, looked through every minute; on a server, records would be kept for a day. -/
def default : StoreSettings := ⟨.memory, .default, "fsm:", 86400, 60⟩

def load (env : Environment) : Except ConfigError StoreSettings := do
  let kind ←
    match env "FSM_STORAGE" with
    | some name => StoreKind.read name
    | none => .ok .memory
  .ok {
    kind := kind
    redis := .load env
    keyPrefix := (env "FSM_KEY_PREFIX").getD default.keyPrefix
    lifetime := env.exactNatural "FSM_TTL_SECS" default.lifetime
    sweepInterval := env.exactNatural "FSM_SWEEP_INTERVAL_SECS" default.sweepInterval }

def validate (s : StoreSettings) : Except ConfigError Unit :=
  if s.lifetime = 0 then .error .zeroLifetime
  else
    match s.kind with
    | .memory => if s.sweepInterval = 0 then .error .zeroSweepInterval else .ok ()
    | .redis =>
      if Text.isBlank s.redis.address then .error .blankRedisAddress
      else if s.redis.connectTimeout = 0 ∨ s.redis.responseTimeout = 0 then .error .zeroRedisTimeout
      else .ok ()

end StoreSettings

end Registrar
