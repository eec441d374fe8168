/-!
What is asked of a Redis server, and the words in which it is asked.
-/

namespace Registrar.Redis

/-- One request. Lifetimes are in seconds. -/
inductive Request where
  | ping
  /-- Proves who is calling. -/
  | auth (user : Option String) (password : String)
  /-- Turns to another database. -/
  | select (database : Int64)
  /-- Reads a text. -/
  | get (key : String)
  /-- Replaces whatever the key holds by a text that goes away after its lifetime. -/
  | setex (key : String) (lifetime : Nat) (value : String)
  /-- Removes what the key holds. -/
  | del (key : String)
  /-- Reads one field of a hash. -/
  | hget (key field : String)
  /-- Replaces one field of a hash. -/
  | hset (key field value : String)
  /-- Gives what the key holds a new lifetime. One that is not positive is over at once. -/
  | expire (key : String) (lifetime : Int)
  /-- Begins a transaction: what follows is kept until it is executed. -/
  | multi
  /-- Executes a transaction. -/
  | exec
deriving DecidableEq

namespace Request

def name : Request → String
  | ping => "PING"
  | auth _ _ => "AUTH"
  | select _ => "SELECT"
  | get _ => "GET"
  | setex _ _ _ => "SETEX"
  | del _ => "DEL"
  | hget _ _ => "HGET"
  | hset _ _ _ => "HSET"
  | expire _ _ => "EXPIRE"
  | multi => "MULTI"
  | exec => "EXEC"

def arguments : Request → List String
  | ping => []
  | auth user password => user.toList ++ [password]
  | select database => [toString database.toInt]
  | get key => [key]
  | setex key lifetime value => [key, toString lifetime, value]
  | del key => [key]
  | hget key field => [key, field]
  | hset key field value => [key, field, value]
  | expire key lifetime => [key, toString lifetime]
  | multi => []
  | exec => []

def words (r : Request) : List String := r.name :: r.arguments

end Request

end Registrar.Redis
