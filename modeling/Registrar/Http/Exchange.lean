import Registrar.Json.Basic
import Registrar.Url.Basic
/-!
Requests to a web server that carry JSON, and what comes back.
-/

namespace Registrar.Http

/-- A request with a JSON body, which is always posted. -/
structure Request where
  path : String
  authorization : Option String
  body : Json
deriving DecidableEq

structure Response where
  status : Nat
  body : String
deriving DecidableEq

/-- The servers that can be reached: what is behind a URL, if anything. -/
abbrev Web := Url → Option (Request → Response)

def nowhere : Web := fun _ => none

namespace Request

def method : String := "POST"

def contentType : String := "application/json"

def toJson (r : Request) : Json :=
  .ofMembers [("method", .string method), ("path", .string r.path),
    ("authorization", .optional .string r.authorization), ("content_type", .string contentType),
    ("body", r.body)]

end Request

namespace Response

def isSuccess (r : Response) : Bool := 200 ≤ r.status && r.status < 300

/-- The text that comes with an answer. The answer that nothing has changed comes without one. -/
def text (r : Response) : String := if r.status = 304 then "" else r.body

end Response

def inHeader (c : Char) : Bool := c == '\t' || (0x20 ≤ c.toNat && c.toNat ≠ 0x7F)

/-- Whether a character around the value of a header is passed over. -/
def isPadding (c : Char) : Bool := c == ' ' || c == '\t'

/-- The value of a header as it is read: without the blanks around it, and none if it cannot be
written. -/
def headerValue? (s : String) : Option String :=
  if s.toList.all inHeader then
    let cs := s.toList.dropWhile isPadding
    some (String.ofList (cs.reverse.dropWhile isPadding).reverse)
  else none

/-- A URL that does not say who asks. -/
def anonymous (u : Url) : Url := { u with username := "", password := "" }

/-- The path and the query by which a server is asked. -/
def target (u : Url) : String :=
  let path := Url.writePath u.path
  match u.query with
  | some q => path ++ "?" ++ q
  | none => path

end Registrar.Http
