import Registrar.Url.Host
/-!
URLs in parts, and how they are written.
-/

namespace Registrar

/-- What comes after the host. -/
inductive UrlPath where
  /-- Segments with slashes in front of them. -/
  | segments (names : List String)
  /-- A text without structure. -/
  | opaqueText (text : String)
deriving DecidableEq

/-- A URL. All parts are as they are written, without the signs that part them. -/
structure Url where
  scheme : String
  username : String
  password : String
  host : Option Host
  port : Option Nat
  path : UrlPath
  query : Option String
  fragment : Option String
deriving DecidableEq

namespace Url

/-- The schemes that reach for machines, each with its usual port. -/
def usualPorts : List (String × Nat) :=
  [("http", 80), ("https", 443), ("ws", 80), ("wss", 443), ("ftp", 21)]

def usualPort? (scheme : String) : Option Nat := usualPorts.lookup scheme

def writePath : UrlPath → String
  | .segments names => String.join (names.map fun n => "/" ++ n)
  | .opaqueText text => text

/-- Who is asked for at the host, with the sign that follows. -/
def writeUser (u : Url) : String :=
  if u.username = "" ∧ u.password = "" then ""
  else u.username ++ (if u.password = "" then "" else ":" ++ u.password) ++ "@"

def write (u : Url) : String :=
  let authority :=
    match u.host with
    | some host =>
      let port :=
        match u.port with
        | some p => ":" ++ toString p
        | none => ""
      "//" ++ u.writeUser ++ host.write ++ port
    | none =>
      match u.path with
      | .segments ("" :: _ :: _) => "/."
      | _ => ""
  let query :=
    match u.query with
    | some q => "?" ++ q
    | none => ""
  let fragment :=
    match u.fragment with
    | some f => "#" ++ f
    | none => ""
  u.scheme ++ ":" ++ authority ++ writePath u.path ++ query ++ fragment

end Url

end Registrar
