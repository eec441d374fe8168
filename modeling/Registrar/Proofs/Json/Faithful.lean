import Registrar.Proofs.Data.Traversal
import Registrar.Proofs.Json.Members
import Registrar.Proofs.Time.Rfc3339
import Registrar.Json.Decode

/-!
Types whose values survive JSON.

A type is told in JSON by two functions that are written apart, an encoder and a decoder. They are
`Faithful` if every value is decoded from what it is encoded as, and if that is a value whose text is read
back (`Json.Fits`). This goes from the fields of a record to the record, and from the elements of a list
to the list, so that every type needs one such proof. What follows from it, for values as for texts, is
`Survives`.

* `record_ofMembers`: a record finds the members that it was made of.
* `Faithful.option`, `Faithful.list`: what may be absent, and lists.
* `Faithful.survives`: from values to texts, and from what is encoded to whatever is accepted.
-/

namespace Registrar

open Json (Fits arranged)

variable {α : Type}

/-! ### Texts -/

/-- Why a text tells no value of a type. -/
inductive TextError where
  /-- It is no JSON. -/
  | malformed (e : JsonError)
  /-- It is JSON, but tells something else. -/
  | mismatched (e : DecodeError)

def writeText (encode : α → Json) (a : α) : String := (encode a).print

def readText (decode : Json → Except DecodeError α) (text : String) : Except TextError α :=
  match Json.parse text with
  | .error e => .error (.malformed e)
  | .ok v => (decode v).mapError .mismatched

/-- Values survive being told in JSON, and nothing that is accepted changes any more once it has been
decoded and encoded. -/
structure Survives (encode : α → Json) (decode : Json → Except DecodeError α) : Prop where
  decode_encode (a : α) : decode (encode a) = .ok a
  read_write (a : α) : readText decode (writeText encode a) = .ok a
  /-- Encoding what was decoded settles a value, whatever it was before. -/
  settles (v v' : Json) : (decode v).map encode = .ok v' → (decode v').map encode = .ok v'
  /-- And it settles a text. -/
  settles_text (s s' : String) :
    (readText decode s).map (writeText encode) = .ok s' →
      (readText decode s').map (writeText encode) = .ok s'

/-- Every value is decoded from what it is encoded as, in which at most `limit` containers stand around a
value. -/
structure Faithful (limit : Nat) (encode : α → Json) (decode : Json → Except DecodeError α) :
    Prop where
  decode_encode (a : α) : decode (encode a) = .ok a
  fits (a : α) : Fits limit (encode a)

section Survival

variable {limit : Nat} {encode : α → Json} {decode : Json → Except DecodeError α}

/-- What is read from the text of a value is the value. -/
theorem Faithful.read_write (faithful : Faithful limit encode decode) (open_ : limit ≤ Json.depthLimit)
    (a : α) : readText decode (writeText encode a) = .ok a := by
  rw [readText, writeText, (faithful.fits a).parse_print open_]
  simp only [faithful.decode_encode]
  rfl

/-- Reading and writing settles whatever is accepted if everything that is written is read back. -/
theorem settles_of_read_write {σ ε : Type} {read : σ → Except ε α} {write : α → σ}
    (reads : ∀ a, read (write a) = .ok a) {s s' : σ} (accepted : (read s).map write = .ok s') :
    (read s').map write = .ok s' := by
  cases outcome : read s with
  | error e =>
      rw [outcome] at accepted
      cases accepted
  | ok a =>
      rw [outcome] at accepted
      cases accepted
      rw [reads]
      rfl

theorem Faithful.survives (faithful : Faithful limit encode decode)
    (open_ : limit ≤ Json.depthLimit) : Survives encode decode where
  decode_encode := faithful.decode_encode
  read_write := faithful.read_write open_
  settles _ _ := settles_of_read_write faithful.decode_encode
  settles_text _ _ := settles_of_read_write (faithful.read_write open_)

end Survival

/-! ### Records -/

namespace Decode

theorem checkMembers_of_forall {check : String → Json → Except DecodeError Unit}
    {members : List (String × Json)} (accepted : ∀ m ∈ members, check m.1 m.2 = .ok ()) :
    checkMembers check members = .ok () := by
  induction members with
  | nil => rfl
  | cons m members ih =>
      obtain ⟨first, rest⟩ := List.forall_mem_cons.mp accepted
      rw [checkMembers, first]
      exact ih rest

/-- The members from which an object was made are checked whatever their order is in it. -/
theorem checkMembers_arranged {check : String → Json → Except DecodeError Unit}
    {members : List (String × Json)} (accepted : ∀ m ∈ members, check m.1 m.2 = .ok ()) :
    checkMembers check (arranged members) = .ok () :=
  checkMembers_of_forall fun m mem => accepted m (Json.mem_of_mem_arranged mem)

/-- A record is offered the members from which an object was made if it accepts each of them. -/
theorem record_ofMembers {shape : Shape} {check : String → Json → Except DecodeError Unit}
    {members : List (String × Json)} (accepted : ∀ m ∈ members, check m.1 m.2 = .ok ()) :
    record shape check (.ofMembers members) = .ok (arranged members) := by
  rw [record, Json.ofMembers_eq]
  simp only [Shape.members, bind, Except.bind, checkMembers_arranged accepted]

@[simp] theorem accepts_ok (a : α) : accepts (.ok a : Except DecodeError α) = .ok () := rfl

/-- An object with one member is an alternative with contents. -/
@[simp] theorem alternative_ofMembers (k : String) (v : Json) :
    alternative (.ofMembers [(k, v)]) = .ok (k, some v) := rfl

@[simp] theorem recordContents_ofMembers (members : List (String × Json)) :
    recordContents (some (.ofMembers members)) = .ok (arranged members) := rfl

/-! ### Fields -/

@[simp] theorem string_string (s : String) : string (.string s) = .ok s := rfl

@[simp] theorem int64_int (n : Int64) : int64 (.int n) = .ok n := by
  have lower := n.le_toInt
  have upper := n.toInt_lt
  have within : -9223372036854775808 ≤ n.toInt ∧ n.toInt ≤ 9223372036854775807 := by omega
  rw [int64, Json.int, integer, JsonInteger.ofInt64, if_pos within, Except.map, Int64.ofInt_toInt]

@[simp] theorem uint32_toUInt64 (n : UInt32) :
    uint32 (.number (.integer (.ofUInt64 n.toUInt64))) = .ok n := by
  have upper := n.toNat_lt
  have within : 0 ≤ (n.toUInt64.toNat : Int) ∧ (n.toUInt64.toNat : Int) ≤ 4294967295 := by
    rw [UInt32.toNat_toUInt64]
    omega
  rw [uint32, integer, JsonInteger.ofUInt64, if_pos within, Except.map, Int.toNat_natCast,
    UInt32.toNat_toUInt64, UInt32.ofNat_toNat]

@[simp] theorem instant_write (t : Instant) : instant (.string (Rfc3339.write t)) = .ok t := by
  rw [instant, Rfc3339.readRelaxed_write]
  rfl

end Decode

namespace Faithful

variable {limit : Nat} {encode : α → Json} {decode : Json → Except DecodeError α}

theorem string : Faithful limit Json.string Decode.string :=
  ⟨Decode.string_string, Fits.string⟩

theorem int64 : Faithful limit Json.int Decode.int64 :=
  ⟨Decode.int64_int, Fits.int⟩

/-- What may be absent is told as null if it is, and nothing else is told so. -/
theorem option (faithful : Faithful limit encode decode) (present : ∀ a, encode a ≠ .null) :
    Faithful limit (Json.optional encode) (Decode.option decode) where
  decode_encode a? := by
    cases a? with
    | none => rfl
    | some a =>
        rw [Json.optional, Decode.option]
        · rw [faithful.decode_encode]
          rfl
        · exact present a
  fits a? := by
    cases a? with
    | none => exact Fits.null
    | some a => exact faithful.fits a

/-- A list is told as an array. -/
theorem list (faithful : Faithful limit encode decode) :
    Faithful (limit + 1) (fun as => .array (as.map encode)) (Decode.list decode) where
  decode_encode as := by
    rw [Decode.list, mapM_eq_ok_iff, List.forall₂_map_left_iff, List.forall₂_same]
    exact fun a _ => faithful.decode_encode a
  fits as := by
    refine Fits.array fun v mem => ?_
    obtain ⟨a, _, rfl⟩ := List.mem_map.mp mem
    exact faithful.fits a

end Faithful

end Registrar
