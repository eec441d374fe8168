import Registrar.Time.Instant
import Registrar.Text.Decimal
import Registrar.Text.WhiteSpace
/-!
Instants as RFC 3339 texts.

`write` prints them; `readStrict` reads exactly the standard's form, `readRelaxed` also admits blanks
between the parts, short numbers and signed years. What is written is always read back by the relaxed
reader; the strict one is held to four-digit years.
-/

namespace Registrar.Rfc3339

open Text (digit?)

inductive Fault where
  | tooShort
  | invalid
  | outOfRange
  | impossible
  | trailing
deriving DecidableEq, Repr

def Fault.message : Fault → String
  | tooShort => "premature end of input"
  | invalid => "input contains invalid characters"
  | outOfRange => "input is out of range"
  | impossible => "no possible date and time matching input"
  | trailing => "trailing input"

/-! ### Writing -/

/-- A number in at least `width` digits. -/
def padded (width n : Nat) : List Char :=
  let digits := Nat.toDigits 10 n
  List.replicate (width - digits.length) '0' ++ digits

/-- A year: four digits, with a sign in front if it has more or is before the year 0. -/
def writeYear (y : Int) : List Char :=
  if 0 ≤ y ∧ y ≤ 9999 then padded 4 y.toNat
  else (if y < 0 then '-' else '+') :: padded 4 y.natAbs

/-- The fraction of a second in 0, 3, 6 or 9 digits, the fewest that lose nothing. -/
def writeFraction (nanos : Nat) : List Char :=
  if nanos = 0 then []
  else if nanos % 1000000 = 0 then '.' :: padded 3 (nanos / 1000000)
  else if nanos % 1000 = 0 then '.' :: padded 6 (nanos / 1000)
  else '.' :: padded 9 nanos

/-- An instant in universal time, followed by the text of the zone. -/
def writeWith (zone : String) (t : Instant) : String :=
  let date := Calendar.Date.ofDays (t.seconds / 86400)
  let secondOfDay := (t.seconds % 86400).toNat
  let leap := 1000000000 ≤ t.nanos
  let second := secondOfDay % 60 + if leap then 1 else 0
  let nanos := if leap then t.nanos - 1000000000 else t.nanos
  String.ofList (writeYear date.year ++ '-' :: padded 2 date.month ++ '-' :: padded 2 date.day ++
    'T' :: padded 2 (secondOfDay / 3600) ++ ':' :: padded 2 (secondOfDay / 60 % 60) ++
    ':' :: padded 2 second ++ writeFraction nanos ++ zone.toList)

def write (t : Instant) : String := writeWith "Z" t

def writeOffset (t : Instant) : String := writeWith "+00:00" t

/-! ### Parts -/

/-- The value of at most `most` leading digits, appended to those of `acc`. -/
def takeNumber : Nat → Nat → List Char → Nat × List Char
  | 0, acc, cs => (acc, cs)
  | _ + 1, acc, [] => (acc, [])
  | most + 1, acc, c :: cs =>
    match digit? c with
    | some d => takeNumber most (10 * acc + d) cs
    | none => (acc, c :: cs)

/-- A number of at least one and at most `most` digits. -/
def number (most : Nat) : List Char → Except Fault (Nat × List Char)
  | [] => .error .tooShort
  | c :: cs => if (digit? c).isSome then .ok (takeNumber most 0 (c :: cs)) else .error .invalid

def expect (c : Char) : List Char → Except Fault (List Char)
  | [] => .error .tooShort
  | d :: cs => if d = c then .ok cs else .error .invalid

/-- A fraction behind its point, as nanoseconds; digits past the ninth are passed over. -/
def fraction (cs : List Char) : Except Fault (Nat × List Char) := do
  let (n, rest) ← number 9 cs
  let scaled := n * Nat.pow 10 (9 - (cs.length - rest.length))
  .ok (scaled, rest.dropWhile fun c => (digit? c).isSome)

/-- Two characters of which both have to be digits; the first result is their value. -/
def twoDigits (cs : List Char) : Except Fault (Nat × Nat × List Char) :=
  match cs with
  | a :: b :: rest =>
    match digit? a, digit? b with
    | some a, some b => .ok (a, b, rest)
    | _, _ => .error .invalid
  | [a] => if a.utf8Size < 2 then .error .tooShort else .error .invalid
  | [] => .error .tooShort

/-- A zone: the letter for universal time, or a signed offset of hours and minutes, in seconds. The
function passes over what may stand between hours and minutes. -/
def zone (between : List Char → Except Fault (List Char)) (cs : List Char) :
    Except Fault (Int × List Char) :=
  match cs with
  | [] => .error .tooShort
  | 'Z' :: cs | 'z' :: cs => .ok (0, cs)
  | c :: cs =>
    if c = '+' ∨ c = '-' ∨ c = '−' then do
      let (h₁, h₂, cs) ← twoDigits cs
      let cs ← between cs
      let (m₁, m₂, cs) ← twoDigits cs
      if 6 ≤ m₁ then .error .outOfRange
      else
        let offset : Int := (10 * h₁ + h₂) * 3600 + (10 * m₁ + m₂) * 60
        .ok (if c = '+' then offset else -offset, cs)
    else .error .invalid

/-- The first second of a day and its last may not be left by the offset of a zone. -/
def zoneInRange (offset : Int) : Bool := -86400 < offset && offset < 86400

/-- The instant that a clock in a zone shows by date, time of day and offset. -/
def assemble (date : Calendar.Date) (hour minute second nanos : Nat) (offset : Int) :
    Except Fault Instant :=
  let leap := second = 60
  let local_ : Int :=
    date.toDays * 86400 + hour * 3600 + minute * 60 + (if leap then 59 else second : Nat)
  match Instant.ofParts? (local_ - offset) (if leap then nanos + 1000000000 else nanos) with
  | some t => .ok t
  | none => .error .impossible

/-- Whether the years covered by instants hold the day. -/
def dateInRange (d : Calendar.Date) : Bool :=
  d.isValid && -262143 ≤ d.year && d.year ≤ 262142

/-! ### Reading -/

def fixedNumber : Nat → Nat → List Char → Except Fault (Nat × List Char)
  | 0, acc, cs => .ok (acc, cs)
  | _ + 1, _, [] => .error .invalid
  | count + 1, acc, c :: cs =>
    match digit? c with
    | some d => fixedNumber count (10 * acc + d) cs
    | none => .error .invalid

/-- A character that has to come next, in a text long enough. -/
def expectFixed (p : Char → Bool) : List Char → Except Fault (List Char)
  | [] => .error .invalid
  | c :: cs => if p c then .ok cs else .error .invalid

/-- Reads the standard's form: `2024-01-02T03:04:05.6+07:00`. -/
def readStrict (s : String) : Except Fault Instant := do
  if s.utf8ByteSize < 19 then .error .tooShort
  else
    let (year, cs) ← fixedNumber 4 0 s.toList
    let cs ← expectFixed (· == '-') cs
    let (month, cs) ← fixedNumber 2 0 cs
    let cs ← expectFixed (· == '-') cs
    let (day, cs) ← fixedNumber 2 0 cs
    let date : Calendar.Date := ⟨year, month, day⟩
    if !dateInRange date then .error .outOfRange
    else
      let cs ← expectFixed (fun c => c == 'T' || c == 't' || c == ' ') cs
      let (hour, cs) ← fixedNumber 2 0 cs
      let cs ← expectFixed (· == ':') cs
      let (minute, cs) ← fixedNumber 2 0 cs
      let cs ← expectFixed (· == ':') cs
      let (second, cs) ← fixedNumber 2 0 cs
      let (nanos, cs) ←
        match cs with
        | '.' :: cs => fraction cs
        | cs => .ok (0, cs)
      if 24 ≤ hour ∨ 60 ≤ minute ∨ 61 ≤ second then .error .outOfRange
      else
        let (offset, cs) ← zone (expect ':') cs
        if !cs.isEmpty then .error .trailing
        else if !zoneInRange offset then .error .outOfRange
        else assemble date hour minute second nanos offset

/-- A number between two bounds, of at most `most` digits, blanks before it passed over. -/
def boundedNumber (most lo hi : Nat) (cs : List Char) : Except Fault (Nat × List Char) := do
  let (n, cs) ← number most (Text.trimStart cs)
  if lo ≤ n ∧ n ≤ hi then .ok (n, cs) else .error .outOfRange

/-- A year: up to four digits, or a sign and any number of digits. -/
def signedYear (cs : List Char) : Except Fault (Int × List Char) := do
  let check (y : Int) (cs : List Char) : Except Fault (Int × List Char) :=
    if -2147483648 ≤ y ∧ y < 2147483648 then .ok (y, cs) else .error .outOfRange
  match Text.trimStart cs with
  | '-' :: cs =>
    let (n, cs) ← number cs.length cs
    check (-n) cs
  | '+' :: cs =>
    let (n, cs) ← number cs.length cs
    check n cs
  | cs =>
    let (n, cs) ← number 4 cs
    check n cs

/-- Colons and blanks between the hours and the minutes of a zone. -/
def skipColons (cs : List Char) : Except Fault (List Char) :=
  .ok (cs.dropWhile fun c => c == ':' || Text.isWhiteSpace c)

/-- A zone, for which the three letters of universal time may stand too, in either case. -/
def relaxedZone (cs : List Char) : Except Fault (Int × List Char) :=
  match cs with
  | a :: b :: c :: rest =>
    if (a = 'U' ∨ a = 'u') ∧ (b = 'T' ∨ b = 't') ∧ (c = 'C' ∨ c = 'c') then .ok (0, rest)
    else zone skipColons cs
  | cs => zone skipColons cs

/-- Reads the standard's form with blanks around its parts, numbers without leading zeros, and years
with a sign. -/
def readRelaxed (s : String) : Except Fault Instant := do
  let (year, cs) ← signedYear s.toList
  let cs ← expect '-' (Text.trimStart cs)
  let (month, cs) ← boundedNumber 2 1 12 cs
  let cs ← expect '-' (Text.trimStart cs)
  let (day, cs) ← boundedNumber 2 1 31 cs
  let cs ←
    match cs with
    | 't' :: cs | 'T' :: cs | ' ' :: cs => .ok cs
    | [] => .error .tooShort
    | _ => .error .invalid
  let (hour, cs) ← boundedNumber 2 0 23 cs
  let cs ← expect ':' (Text.trimStart cs)
  let (minute, cs) ← boundedNumber 2 0 59 cs
  let cs ← expect ':' (Text.trimStart cs)
  let (second, cs) ← boundedNumber 2 0 60 cs
  let (nanos, cs) ←
    match cs with
    | '.' :: cs => fraction cs
    | cs => .ok (0, cs)
  let (offset, cs) ← relaxedZone (Text.trimStart cs)
  if !(Text.trimStart cs).isEmpty then .error .trailing
  else
    let date : Calendar.Date := ⟨year, month, day⟩
    if !dateInRange date then .error .outOfRange
    else if !zoneInRange offset then .error .outOfRange
    else assemble date hour minute second nanos offset

end Registrar.Rfc3339
