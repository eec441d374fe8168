import Registrar.Text.Decimal
import Registrar.Text.Printable
/-!
What a Redis server answers, and how an answer is read from its bytes: a sign for the kind, a line, and
for texts and lists what the line counts.
-/

namespace Registrar.Redis

/-- A refusal: a code, perhaps with an explanation. -/
structure Refusal where
  code : String
  detail : Option String
deriving DecidableEq

inductive Reply where
  | nothing
  | status (text : String)
  | integer (value : Int)
  | text (value : String)
  | refused (refusal : Refusal)
  | list (replies : List Reply)

namespace Reply

def okay : Reply := status "OK"

mutual

/-- The first refusal in an answer, however deep it stands. -/
def refusal? : Reply → Option Refusal
  | refused r => some r
  | list replies => refusalAmong? replies
  | nothing => none
  | status _ => none
  | integer _ => none
  | text _ => none

def refusalAmong? : List Reply → Option Refusal
  | [] => none
  | r :: rs =>
    match refusal? r with
    | some e => some e
    | none => refusalAmong? rs

end

mutual

/-- An answer as it is shown to someone who expected another kind. -/
def display : Reply → String
  | nothing => "nil"
  | status "OK" => "ok"
  | status line => "simple-string(" ++ Text.quoted line ++ ")"
  | integer value => "int(" ++ toString value ++ ")"
  | text value => "bulk-string('" ++ Text.quoted value ++ "')"
  | refused ⟨code, some detail⟩ => "Server error: " ++ "`" ++ code ++ ": " ++ detail ++ "`"
  | refused ⟨code, none⟩ => "Server error: " ++ "`" ++ code ++ "`"
  | list replies => "array([" ++ ", ".intercalate (displayAll replies) ++ "])"

def displayAll : List Reply → List String
  | [] => []
  | r :: rs => display r :: displayAll rs

end

/-! ### Reading -/

/-- The bytes up to the end of the line, and those after it. -/
def cutLine : List UInt8 → Option (List UInt8 × List UInt8)
  | 13 :: 10 :: rest => some ([], rest)
  | b :: rest => (cutLine rest).map fun c => (b :: c.1, c.2)
  | [] => none

/-- A refusal from its line: the code is the first word. -/
def refusalOfLine (line : String) : Refusal :=
  let (code, rest) := line.toList.span (· ≠ ' ')
  match rest with
  | [] => ⟨String.ofList code, none⟩
  | _ :: detail => ⟨String.ofList code, some (String.ofList detail)⟩

/-- Reads one answer, lists nested in one another at most so deep. -/
def read? : Nat → List UInt8 → Option (Reply × List UInt8)
  | 0, _ => none
  | depth + 1, bytes => do
    let (sign, rest) ← bytes.head?.map fun b => (Char.ofNat b.toNat, bytes.tail)
    let (line, rest) ← cutLine rest
    let line ← String.fromUTF8? ⟨line.toArray⟩
    match sign with
    | '+' => some (status line, rest)
    | '-' => some (refused (refusalOfLine line), rest)
    | ':' => (Text.readInteger Text.signedBound line).map fun n => (integer n, rest)
    | '$' =>
      let size ← Text.readInteger Text.signedBound line
      if size < 0 then some (nothing, rest)
      else
        let value ← String.fromUTF8? ⟨(rest.take size.toNat).toArray⟩
        let (gap, rest) ← cutLine (rest.drop size.toNat)
        if gap.isEmpty then some (text value, rest) else none
    | '*' =>
      let size ← Text.readInteger Text.signedBound line
      if size < 0 then some (nothing, rest) else readList depth size.toNat rest []
    | _ => none
where
  /-- Reads so many answers after those that were read already, last first. -/
  readList (depth : Nat) : Nat → List UInt8 → List Reply → Option (Reply × List UInt8)
    | 0, bytes, done => some (list done.reverse, bytes)
    | n + 1, bytes, done =>
      match read? depth bytes with
      | some (r, rest) => readList depth n rest (r :: done)
      | none => none

def ofText? (s : String) : Option Reply :=
  let bytes := s.toUTF8.toList
  (read? (bytes.length + 1) bytes).map Prod.fst

end Reply

end Registrar.Redis
