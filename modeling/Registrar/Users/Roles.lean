import Registrar.Json.Decode
/-!
Sets of roles, one bit each. Bits without a name are kept.
-/

namespace Registrar

/-- A set of roles. -/
structure Roles where
  bits : UInt32
deriving DecidableEq

namespace Roles

def none : Roles := ⟨0⟩

def user : Roles := ⟨1⟩

def admin : Roles := ⟨2⟩

def teacher : Roles := ⟨4⟩

def blocked : Roles := ⟨8⟩

def union (a b : Roles) : Roles := ⟨a.bits ||| b.bits⟩

/-- Whether the first set has every role of the second. -/
def contains (a b : Roles) : Bool := a.bits &&& b.bits == b.bits

/-- The roles that have a name, in the order in which they are told. -/
def named : List (Roles × String) :=
  [(user, "user"), (admin, "admin"), (teacher, "teacher"), (blocked, "blocked")]

def display (r : Roles) : String :=
  match (named.filter fun n => r.contains n.1).map Prod.snd with
  | [] => "none"
  | names => "|".intercalate names

/-- A set of roles as JSON: its bits. -/
def toJson (r : Roles) : Json := .number (.integer (.ofUInt64 r.bits.toUInt64))

def ofJson (v : Json) : Except DecodeError Roles := (Decode.uint32 v).map Roles.mk

end Roles

end Registrar
