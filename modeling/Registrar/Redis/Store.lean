import Registrar.Redis.Endpoint
import Registrar.Redis.Server
import Registrar.Store.Memory
/-!
A store on a Redis server.

A state is a text under one key, the scratch fields of a conversation are a hash under another, each
value as JSON text. Every write gives its key a new lifetime; reads give none.
-/

namespace Registrar.Redis

/-- A store on a server: what its keys begin with, and how many milliseconds its records live after
they were written. -/
structure Store where
  keyPrefix : String
  lifetime : Nat
deriving DecidableEq

namespace Store

def stateKey (s : Store) (c : Conversation) : String := s.keyPrefix ++ "state:" ++ c.display

def scratchKey (s : Store) (c : Conversation) : String := s.keyPrefix ++ "data:" ++ c.display

/-- The lifetime in whole seconds, at least one. -/
def seconds (s : Store) : Nat := max 1 (s.lifetime / 1000)

def signedSeconds (s : Store) : Int := (UInt64.ofNat s.seconds).toInt64.toInt

def requests (s : Store) : StoreCall → List Request
  | .get c => [.get (s.stateKey c)]
  | .set c state => [.setex (s.stateKey c) s.seconds state.tag]
  | .delete c => [.del (s.stateKey c)]
  | .getData c field => [.hget (s.scratchKey c) field]
  | .setData c field value =>
    [.multi, .hset (s.scratchKey c) field value.print, .expire (s.scratchKey c) s.signedSeconds, .exec]
  | .clearData c => [.del (s.scratchKey c)]

/-! ### Answers -/

def textOf : Reply → Except Fault (Option String)
  | .nothing => .ok none
  | .text value => .ok (some value)
  | .status value => .ok (some value)
  | .integer value => .ok (some (toString value))
  | .refused r => .error (.refused r)
  | .list replies =>
    match Reply.refusalAmong? replies with
    | some r => .error (.refused r)
    | none => .error (.notText (.list replies))

/-- Whether an answer is a refusal. -/
def accepted (r : Reply) : Except Fault Unit :=
  match r.refusal? with
  | some e => .error (.refused e)
  | none => .ok ()

def single (replies : List Reply) : Reply := replies.headD .nothing

/-- Whether a transaction went well: nothing was refused, neither when it was kept nor when it was
carried out. -/
def committed : List Reply → Except Fault Unit
  | [] => .error .noTransaction
  | [.nothing] => .ok ()
  | [.list replies] => accepted (.list replies)
  | [_] => .error .noTransaction
  | r :: rs => do
    accepted r
    committed rs

/-- What an attempt is called when it fails. -/
def attempt : StoreCall → String
  | .get _ => "get state"
  | .set _ _ => "set state"
  | .delete _ => "delete state"
  | .getData _ _ => "get data"
  | .setData _ _ _ => "set data"
  | .clearData _ => "clear data"

def failure (attempt : String) (f : Fault) : StorageError :=
  .backend ("failed to " ++ attempt ++ " in Redis: " ++ f.message)

def interpret (call : StoreCall) (replies : List Reply) : call.Answer :=
  match call with
  | .get c =>
    match textOf (single replies) with
    | .ok tag => .ok (tag.elim State.default State.mk)
    | .error f => .error (failure (attempt (.get c)) f)
  | .set c state => (accepted (single replies)).mapError (failure (attempt (.set c state)))
  | .delete c => (accepted (single replies)).mapError (failure (attempt (.delete c)))
  | .getData c field =>
    match textOf (single replies) with
    | .ok (some text) =>
      match Memory.decodeText text with
      | .ok v => .ok (some v)
      | .error e => .error e
    | .ok none => .ok none
    | .error f => .error (failure (attempt (.getData c field)) f)
  | .setData c field value => (committed replies).mapError (failure (attempt (.setData c field value)))
  | .clearData c => (accepted (single replies)).mapError (failure (attempt (.clearData c)))

/-- The answer to a call, and the server after it. -/
def perform (s : Store) (srv : Server) (call : StoreCall) : call.Answer × Server :=
  let (replies, srv) := srv.serveAll (s.requests call)
  (interpret call replies, srv)

/-! ### Connecting -/

def greeting (user : Option String) (e : Endpoint) : List Request :=
  let auth :=
    match e.password with
    | some password => [Request.auth user password]
    | none => []
  auth ++ (if e.database = 0 then [] else [.select e.database])

/-- How a server takes the first words. -/
inductive Welcome where
  | welcome
  /-- It knows no users, only a password. -/
  | noUsers
  | turnedAway (fault : Fault)

def judgePassword : Reply → Welcome
  | .refused r =>
    match r.detail with
    | some detail =>
      if 1 < (detail.splitOn "wrong number of arguments for 'auth' command").length then .noUsers
      else .turnedAway .wrongPassword
    | none => .turnedAway .wrongPassword
  | .status "OK" => .welcome
  | _ => .turnedAway .oddGreeting

def judgeDatabase : Reply → Welcome
  | .refused r => .turnedAway (.databaseRefused r.detail)
  | _ => .welcome

def judge (e : Endpoint) (replies : List Reply) : Welcome :=
  match e.password, replies with
  | some _, r :: rs =>
    match judgePassword r with
    | .welcome => (rs.head?.map judgeDatabase).getD .welcome
    | other => other
  | none, r :: _ => judgeDatabase r
  | _, [] => .welcome

/-- Introduces oneself to a server. The answer is what was said, and whether one was let in. A server
that knows no users is told the password alone. -/
def greet (e : Endpoint) (srv : Server) : List Request × Except Fault Unit × Server :=
  let said := greeting e.user e
  let (replies, srv) := srv.serveAll said
  match judge e replies with
  | .welcome => (said, .ok (), srv)
  | .turnedAway fault => (said, .error fault, srv)
  | .noUsers =>
    let again := greeting none e
    let (replies, srv) := srv.serveAll again
    match judge e replies with
    | .turnedAway fault => (said ++ again, .error fault, srv)
    | _ => (said ++ again, .ok (), srv)

/-- Whether the server answers at all. -/
def ping (srv : Server) : Except Fault Unit × Server :=
  let (reply, srv) := srv.serve .ping
  match textOf reply with
  | .ok (some _) => (.ok (), srv)
  | .ok none => (.error (.notText .nothing), srv)
  | .error f => (.error f, srv)

abbrev Network := Place → Except Fault Server

def nowhere : Network
  | .network _ _ => .error .unreachable
  | .socket _ => .error .noSocket

/-- Connects to the server at a URL. The answer is what was said and the server afterwards. -/
def connect (reach : Network) (url : String) : List Request × Except StorageError Server :=
  match Endpoint.read url with
  | .error f => ([], .error (failure "open client" f))
  | .ok e =>
    match reach e.place with
    | .error f => ([], .error (failure "connect" f))
    | .ok srv =>
      match greet e srv with
      | (said, .error f, _) => (said, .error (failure "connect" f))
      | (said, .ok (), srv) => (said, .ok srv)

/-- Whether a server answers, as a failure of the store if it does not. -/
def check (srv : Server) : Except StorageError Unit × Server :=
  let (r, srv) := ping srv
  (r.mapError (failure "ping"), srv)

/-- Connects to the server at a URL and makes sure that it answers. -/
def connectAndCheck (reach : Network) (url : String) : List Request × Except StorageError Server :=
  match connect reach url with
  | (said, .error e) => (said, .error e)
  | (said, .ok srv) =>
    match check srv with
    | (.ok (), srv) => (said ++ [.ping], .ok srv)
    | (.error e, _) => (said ++ [.ping], .error e)

end Store

end Registrar.Redis
