import Registrar.Data.Table
import Registrar.Redis.Reply
import Registrar.Redis.Request
/-!
A Redis server, as far as the bot makes use of one.

A key holds a text or a hash of texts, each with the seconds that are left to it, if they are limited.
After `multi` requests are kept, and `exec` carries them out one after another with nothing in between.
Some answers can be laid down beforehand: such a request is then not carried out, but for `exec`, whose
answer alone is replaced.
-/

namespace Registrar.Redis

inductive Value where
  | text (value : String)
  | hash (fields : Table String String)

/-- A value, and the seconds that are left to it. -/
structure Entry where
  value : Value
  lifetime : Option Nat

/-- What a server holds, the requests of a transaction that has begun, and the answers that are laid
down by the names of requests. -/
structure Server where
  entries : Table String Entry
  pending : Option (List Request)
  scripted : String → Option Reply

namespace Server

def empty : Server := ⟨.empty, none, fun _ => none⟩

/-- The refusal of a request that does not fit what the key holds. -/
def wrongKind : Reply :=
  .refused ⟨"WRONGTYPE", some "Operation against a key holding the wrong kind of value"⟩

def flag (b : Bool) : Reply := .integer (if b then 1 else 0)

def put (srv : Server) (key : String) (e : Entry) : Server :=
  { srv with entries := srv.entries.insert key e }

def drop (srv : Server) (key : String) : Server :=
  { srv with entries := srv.entries.erase key }

def execute (srv : Server) : Request → Reply × Server
  | .ping => (.status "PONG", srv)
  | .auth _ _ => (.okay, srv)
  | .select _ => (.okay, srv)
  | .get key =>
    match srv.entries.get? key with
    | none => (.nothing, srv)
    | some ⟨.text value, _⟩ => (.text value, srv)
    | some ⟨.hash _, _⟩ => (wrongKind, srv)
  | .setex key lifetime value => (.okay, srv.put key ⟨.text value, some lifetime⟩)
  | .del key => (flag (srv.entries.contains key), srv.drop key)
  | .hget key field =>
    match srv.entries.get? key with
    | none => (.nothing, srv)
    | some ⟨.hash fields, _⟩ =>
      match fields.get? field with
      | some value => (.text value, srv)
      | none => (.nothing, srv)
    | some ⟨.text _, _⟩ => (wrongKind, srv)
  | .hset key field value =>
    match srv.entries.get? key with
    | none => (flag true, srv.put key ⟨.hash (Table.empty.insert field value), none⟩)
    | some ⟨.hash fields, lifetime⟩ =>
      (flag (!fields.contains field), srv.put key ⟨.hash (fields.insert field value), lifetime⟩)
    | some ⟨.text _, _⟩ => (wrongKind, srv)
  | .expire key lifetime =>
    match srv.entries.get? key with
    | none => (flag false, srv)
    | some e =>
      if lifetime ≤ 0 then (flag true, srv.drop key)
      else (flag true, srv.put key { e with lifetime := some lifetime.toNat })
  | .multi => (.refused ⟨"ERR", some "MULTI calls can not be nested"⟩, srv)
  | .exec => (.refused ⟨"ERR", some "EXEC without MULTI"⟩, srv)

/-- Gives the answer that is laid down, or else carries out the request. -/
def perform (srv : Server) (r : Request) : Reply × Server :=
  match srv.scripted r.name with
  | some reply => (reply, srv)
  | none => srv.execute r

def performAll (srv : Server) : List Request → List Reply × Server
  | [] => ([], srv)
  | r :: rs =>
    let (reply, srv) := srv.perform r
    let (replies, srv) := performAll srv rs
    (reply :: replies, srv)

/-- Answers a request, or keeps it for later within a transaction. -/
def serve (srv : Server) (r : Request) : Reply × Server :=
  match srv.pending, r with
  | some kept, .exec =>
    let (replies, after) := { srv with pending := none }.performAll kept
    ((srv.scripted Request.exec.name).getD (.list replies), after)
  | some kept, r => (.status "QUEUED", { srv with pending := some (kept ++ [r]) })
  | none, .multi =>
    match srv.scripted Request.multi.name with
    | some reply => (reply, srv)
    | none => (.okay, { srv with pending := some [] })
  | none, r => srv.perform r

/-- Answers requests that arrive together. -/
def serveAll (srv : Server) : List Request → List Reply × Server
  | [] => ([], srv)
  | r :: rs =>
    let (reply, srv) := srv.serve r
    let (replies, srv) := serveAll srv rs
    (reply :: replies, srv)

end Server

end Registrar.Redis
