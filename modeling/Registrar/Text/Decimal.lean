/-!
Digits, and whole numbers in decimal text, read strictly: ASCII digits only, one optional sign, nothing around
them, and a result inside stated bounds or none at all.
-/

namespace Registrar.Text

/-- The value of an ASCII digit. -/
def digit? (c : Char) : Option Nat :=
  if '0' ≤ c ∧ c ≤ '9' then some (c.toNat - '0'.toNat) else none

def hexDigit? (c : Char) : Option Nat :=
  if '0' ≤ c ∧ c ≤ '9' then some (c.toNat - '0'.toNat)
  else if 'a' ≤ c ∧ c ≤ 'f' then some (c.toNat - 'a'.toNat + 10)
  else if 'A' ≤ c ∧ c ≤ 'F' then some (c.toNat - 'A'.toNat + 10)
  else none

/-- The number that a run of digits continues, `none` at the first character that is no digit. -/
def continueDigits (acc : Nat) : List Char → Option Nat
  | [] => some acc
  | c :: cs =>
    match digit? c with
    | some d => continueDigits (10 * acc + d) cs
    | none => none

def readDigits : List Char → Option Nat
  | [] => none
  | cs => continueDigits 0 cs

def signedBound : Nat := 9223372036854775808

def wordBound : Nat := 18446744073709551616

/-- A natural number below `limit`; a leading plus sign is allowed, a minus sign is not. -/
def readNatural (limit : Nat) (s : String) : Option Nat :=
  let digits :=
    match s.toList with
    | '+' :: cs => cs
    | cs => cs
  (readDigits digits).filter (· < limit)

/-- An integer `n` with `-limit ≤ n < limit`, with an optional sign. -/
def readInteger (limit : Nat) (s : String) : Option Int :=
  let value :=
    match s.toList with
    | '+' :: cs => (readDigits cs).map Int.ofNat
    | '-' :: cs => (readDigits cs).map fun n => -Int.ofNat n
    | cs => (readDigits cs).map Int.ofNat
  value.filter fun n => -(limit : Int) ≤ n && n < limit

end Registrar.Text
