import Registrar.Json.Parser
import Registrar.Text.Printable
import Registrar.Time.Rfc3339
/-!
Decoding JSON values into typed ones.

A record is decoded from an object, whose members are looked at by ascending key, or from an array
that lists its fields in order. The first member that does not decode decides the error; then the
first field that is missing, in the record's own order. Members that the record does not know are
passed over.
-/

namespace Registrar

inductive Met where
  | null
  | bool (b : Bool)
  | integer (n : JsonInteger)
  | double (d : Double)
  | string (s : String)
  | sequence
  | map
  | unitVariant

inductive DecodeError where
  | invalidType (met : Met) (wanted : String)
  | invalidValue (met : Met) (wanted : String)
  | invalidLength (length : Nat) (wanted : String)
  | missingField (name : String)
  | unknownVariant (name : String) (variants : List String)
  | timestamp (fault : Rfc3339.Fault)

def Met.message : Met → String
  | null => "null"
  | bool b => "boolean `" ++ toString b ++ "`"
  | integer n => "integer `" ++ toString n.val ++ "`"
  | double d => "floating point `" ++ d.text Json.doubleLayout ++ "`"
  | string s => "string " ++ Text.quoted s
  | sequence => "sequence"
  | map => "map"
  | unitVariant => "unit variant"

def DecodeError.choice (names : List String) : String :=
  let ticked := names.map fun n => "`" ++ n ++ "`"
  match ticked with
  | [] => "there are no variants"
  | [a] => "expected " ++ a
  | [a, b] => "expected " ++ a ++ " or " ++ b
  | _ => "expected one of " ++ ", ".intercalate ticked

def DecodeError.message : DecodeError → String
  | invalidType met wanted => "invalid type: " ++ met.message ++ ", expected " ++ wanted
  | invalidValue met wanted => "invalid value: " ++ met.message ++ ", expected " ++ wanted
  | invalidLength n wanted => "invalid length " ++ toString n ++ ", expected " ++ wanted
  | missingField name => "missing field `" ++ name ++ "`"
  | unknownVariant name variants =>
    "unknown variant `" ++ name ++ "`, " ++ choice variants
  | timestamp fault => fault.message

namespace Decode

/-- How a value is called when it is not the one that was wanted. -/
def met : Json → Met
  | .null => .null
  | .bool b => .bool b
  | .number (.integer n) => .integer n
  | .number (.double d) => .double d
  | .string s => .string s
  | .array _ => .sequence
  | .object _ => .map

def string : Json → Except DecodeError String
  | .string s => .ok s
  | v => .error (.invalidType (met v) "a string")

def bool : Json → Except DecodeError Bool
  | .bool b => .ok b
  | v => .error (.invalidType (met v) "a boolean")

def integer (lo hi : Int) (wanted : String) : Json → Except DecodeError Int
  | .number (.integer n) =>
    if lo ≤ n.val ∧ n.val ≤ hi then .ok n.val else .error (.invalidValue (.integer n) wanted)
  | v => .error (.invalidType (met v) wanted)

def int64 (v : Json) : Except DecodeError Int64 :=
  (integer (-9223372036854775808) 9223372036854775807 "i64" v).map Int64.ofInt

def uint64 (v : Json) : Except DecodeError UInt64 :=
  (integer 0 18446744073709551615 "u64" v).map fun n => UInt64.ofNat n.toNat

def uint32 (v : Json) : Except DecodeError UInt32 :=
  (integer 0 4294967295 "u32" v).map fun n => UInt32.ofNat n.toNat

def uint8 (v : Json) : Except DecodeError UInt8 :=
  (integer 0 255 "u8" v).map fun n => UInt8.ofNat n.toNat

def option {α : Type} (read : Json → Except DecodeError α) : Json → Except DecodeError (Option α)
  | .null => .ok none
  | v => (read v).map some

def list {α : Type} (read : Json → Except DecodeError α) : Json → Except DecodeError (List α)
  | .array vs => vs.mapM read
  | v => .error (.invalidType (met v) "a sequence")

def map {α : Type} (read : Json → Except DecodeError α) :
    Json → Except DecodeError (List (String × α))
  | .object ms => ms.mapM fun m => (read m.2).map fun a => (m.1, a)
  | v => .error (.invalidType (met v) "a map")

def instant : Json → Except DecodeError Instant
  | .string s => (Rfc3339.readRelaxed s).mapError .timestamp
  | v => .error (.invalidType (met v) "an RFC 3339 formatted date and time string")

/-! ### Records -/

/-- A record's name and its fields in order. -/
structure Shape where
  name : String
  fields : List String

/-- The members that a value offers to a record, and what is wrong with their number. -/
def Shape.members (shape : Shape) :
    Json → Except DecodeError (List (String × Json) × Option DecodeError)
  | .object ms => .ok (ms, none)
  | .array vs =>
    let n := shape.fields.length
    let wrongLength :=
      if vs.length < n then
        let elements := if n = 1 then " element" else " elements"
        some (.invalidLength vs.length (shape.name ++ " with " ++ toString n ++ elements))
      else if n < vs.length then some (.invalidLength vs.length "fewer elements in array")
      else none
    .ok (shape.fields.zip vs, wrongLength)
  | v => .error (.invalidType (met v) shape.name)

/-- Looks at the members one after another and stops at the first that is refused. -/
def checkMembers (check : String → Json → Except DecodeError Unit) :
    List (String × Json) → Except DecodeError Unit
  | [] => .ok ()
  | (k, v) :: ms =>
    match check k v with
    | .ok () => checkMembers check ms
    | .error e => .error e

/-- The members of a record, each of them checked, in the right number. -/
def record (shape : Shape) (check : String → Json → Except DecodeError Unit) (v : Json) :
    Except DecodeError (List (String × Json)) := do
  let (ms, wrongLength) ← shape.members v
  checkMembers check ms
  match wrongLength with
  | some e => .error e
  | none => .ok ms

def required {α : Type} (ms : List (String × Json)) (name : String)
    (read : Json → Except DecodeError α) : Except DecodeError α :=
  match Json.find name ms with
  | some v => read v
  | none => .error (.missingField name)

def optional {α : Type} (ms : List (String × Json)) (name : String)
    (read : Json → Except DecodeError α) : Except DecodeError (Option α) :=
  match Json.find name ms with
  | some v => option read v
  | none => .ok none

/-- Whether a value decodes, the result being dropped. -/
def accepts {α : Type} (result : Except DecodeError α) : Except DecodeError Unit :=
  result.map fun _ => ()

/-! ### Alternatives -/

/-- The name of an alternative, and what stands beside it: a text names an alternative without
contents, an object with one member an alternative with contents. -/
def alternative : Json → Except DecodeError (String × Option Json)
  | .string s => .ok (s, none)
  | .object [(k, v)] => .ok (k, some v)
  | .object _ => .error (.invalidValue .map "map with a single key")
  | v => .error (.invalidType (met v) "string or map")

def noContents : Option Json → Except DecodeError Unit
  | none => .ok ()
  | some .null => .ok ()
  | some v => .error (.invalidType (met v) "unit")

def recordContents : Option Json → Except DecodeError (List (String × Json))
  | some (.object ms) => .ok ms
  | some v => .error (.invalidType (met v) "struct variant")
  | none => .error (.invalidType .unitVariant "struct variant")

end Decode

end Registrar
