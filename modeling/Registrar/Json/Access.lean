import Registrar.Json.Basic
/-!
Looking into JSON values without a word about what is not there: an absent member is null, and a value
of another kind than the one that is looked for counts as an empty one.
-/

namespace Registrar.Json.Access

def field (v : Json) (name : String) : Json :=
  match v with
  | .object ms => (Json.find name ms).getD .null
  | _ => .null

def present (v : Json) (name : String) : Bool :=
  match v with
  | .object ms => (Json.find name ms).isSome
  | _ => false

def asText? : Json → Option String
  | .string s => some s
  | _ => none

def asText (v : Json) : String := (asText? v).getD ""

def asInt? : Json → Option Int
  | .number (.integer n) => some n.val
  | _ => none

def asInt (v : Json) : Int := (asInt? v).getD 0

def asNat (v : Json) : Nat := (asInt v).toNat

/-- A word of 64 bits, if the value is an integer. -/
def asInt64? (v : Json) : Option Int64 := (asInt? v).map Int64.ofInt

def asInt64 (v : Json) : Int64 := (asInt64? v).getD 0

def asBool : Json → Bool
  | .bool b => b
  | _ => false

def asList : Json → List Json
  | .array vs => vs
  | _ => []

def asMembers : Json → List (String × Json)
  | .object ms => ms
  | _ => []

def text (v : Json) (name : String) : String := asText (field v name)

def text? (v : Json) (name : String) : Option String := asText? (field v name)

def int64 (v : Json) (name : String) : Int64 := asInt64 (field v name)

def int64? (v : Json) (name : String) : Option Int64 := asInt64? (field v name)

def nat (v : Json) (name : String) : Nat := asNat (field v name)

/-- The natural number of a member, if it is an integer. -/
def nat? (v : Json) (name : String) : Option Nat := (asInt? (field v name)).map Int.toNat

/-- The natural number of a member, or another one if it is no integer. -/
def natOr (v : Json) (name : String) (other : Nat) : Nat := (nat? v name).getD other

def bool (v : Json) (name : String) : Bool := asBool (field v name)

def list (v : Json) (name : String) : List Json := asList (field v name)

def texts (v : Json) (name : String) : List String := (list v name).map asText

end Registrar.Json.Access
