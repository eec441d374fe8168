import Registrar.Number.Double
/-!
JSON values.

A number is either an integer that fits 64 bits (signed or unsigned) or a double. The members of an
object are listed by ascending key without repetition; `Json.ofMembers` builds such lists, and
`Json.Ordered` says that a value holds no other ones.
-/

namespace Registrar

/-- The integers that JSON numbers keep exactly: those of a signed or an unsigned 64-bit word. -/
structure JsonInteger where
  val : Int
  lower : -9223372036854775808 ≤ val
  upper : val < 18446744073709551616
deriving DecidableEq

inductive JsonNumber where
  | integer (n : JsonInteger)
  | double (d : Double)
deriving DecidableEq

inductive Json where
  | null
  | bool (b : Bool)
  | number (n : JsonNumber)
  | string (s : String)
  | array (elements : List Json)
  | object (members : List (String × Json))

namespace JsonInteger

def ofInt? (n : Int) : Option JsonInteger :=
  if h : -9223372036854775808 ≤ n ∧ n < 18446744073709551616 then some ⟨n, h.1, h.2⟩ else none

def ofInt64 (n : Int64) : JsonInteger :=
  ⟨n.toInt, by have := n.le_toInt; omega, by have := n.toInt_lt; omega⟩

def ofUInt64 (n : UInt64) : JsonInteger :=
  ⟨n.toNat, by omega, by have := n.toNat_lt; omega⟩

end JsonInteger

namespace Json

instance : Inhabited Json := ⟨null⟩

def find (key : String) : List (String × Json) → Option Json
  | [] => none
  | (k, v) :: rest => if key = k then some v else find key rest

/-- Enters a member where its key belongs, in place of one with the same key. -/
def enter (key : String) (value : Json) : List (String × Json) → List (String × Json)
  | [] => [(key, value)]
  | (k, v) :: rest =>
    if key < k then (key, value) :: (k, v) :: rest
    else if key = k then (key, value) :: rest
    else (k, v) :: enter key value rest

/-- An object with these members; of two with one key the later one stays. -/
def ofMembers (members : List (String × Json)) : Json :=
  object (members.foldl (fun acc m => enter m.1 m.2 acc) [])

def int (n : Int64) : Json := number (.integer (.ofInt64 n))

def nat (n : UInt64) : Json := number (.integer (.ofUInt64 n))

/-- A text, or null for its absence. -/
def optional {α : Type} (encode : α → Json) : Option α → Json
  | some a => encode a
  | none => null

def keysAscend : List (String × Json) → Bool
  | [] => true
  | [_] => true
  | (k, _) :: (k', v') :: rest => k < k' && keysAscend ((k', v') :: rest)

mutual

/-- Every object inside the value lists its members by ascending key. -/
def isOrdered : Json → Bool
  | array elements => elementsOrdered elements
  | object members => keysAscend members && membersOrdered members
  | _ => true

def elementsOrdered : List Json → Bool
  | [] => true
  | v :: vs => isOrdered v && elementsOrdered vs

def membersOrdered : List (String × Json) → Bool
  | [] => true
  | (_, v) :: ms => isOrdered v && membersOrdered ms

end

/-- Every object inside the value lists its members by ascending key. -/
def Ordered (v : Json) : Prop := v.isOrdered = true

mutual

def decEq : (a b : Json) → Decidable (a = b)
  | .null, .null => isTrue rfl
  | .bool a, .bool b => decidable_of_iff (a = b) (by simp)
  | .number a, .number b => decidable_of_iff (a = b) (by simp)
  | .string a, .string b => decidable_of_iff (a = b) (by simp)
  | .array a, .array b =>
    have := decEqElements a b
    decidable_of_iff (a = b) (by simp)
  | .object a, .object b =>
    have := decEqMembers a b
    decidable_of_iff (a = b) (by simp)
  | .null, .bool _ | .null, .number _ | .null, .string _ | .null, .array _ | .null, .object _
  | .bool _, .null | .bool _, .number _ | .bool _, .string _ | .bool _, .array _
  | .bool _, .object _ | .number _, .null | .number _, .bool _ | .number _, .string _
  | .number _, .array _ | .number _, .object _ | .string _, .null | .string _, .bool _
  | .string _, .number _ | .string _, .array _ | .string _, .object _ | .array _, .null
  | .array _, .bool _ | .array _, .number _ | .array _, .string _ | .array _, .object _
  | .object _, .null | .object _, .bool _ | .object _, .number _ | .object _, .string _
  | .object _, .array _ => isFalse (by intro h; cases h)

def decEqElements : (a b : List Json) → Decidable (a = b)
  | [], [] => isTrue rfl
  | [], _ :: _ => isFalse (by intro h; cases h)
  | _ :: _, [] => isFalse (by intro h; cases h)
  | a :: as, b :: bs =>
    have := decEq a b
    have := decEqElements as bs
    decidable_of_iff (a = b ∧ as = bs) (by simp)

def decEqMembers : (a b : List (String × Json)) → Decidable (a = b)
  | [], [] => isTrue rfl
  | [], _ :: _ => isFalse (by intro h; cases h)
  | _ :: _, [] => isFalse (by intro h; cases h)
  | (k, v) :: as, (k', v') :: bs =>
    have := decEq v v'
    have := decEqMembers as bs
    decidable_of_iff ((k = k' ∧ v = v') ∧ as = bs) (by simp)

end

instance : DecidableEq Json := decEq

end Json

end Registrar
