/-!
Double-precision numbers as their 64 bits, with exact decimal reading and writing.

A double is never computed with here, only read from a decimal (`ofDecimal`, to the nearest double,
a tie to the even one) and written in the fewest digits that read back (`shortest`). Both work on
natural numbers alone, so what they do can be stated about `m` and `e` in `m * 2 ^ e`.
-/

namespace Registrar

/-- A double-precision number: sign, exponent and fraction packed into 64 bits. -/
structure Double where
  bits : UInt64
deriving DecidableEq, Repr

namespace Double

def signBit : Nat := 0x8000000000000000

/-- The weight of the least bit of the exponent, and the least significand of a full 53 bits. -/
def exponentBit : Nat := 0x10000000000000

/-- The bits without the sign: they order the magnitudes. -/
def magnitude (d : Double) : Nat := d.bits.toNat % signBit

def isNegative (d : Double) : Bool := signBit ≤ d.bits.toNat

/-- The magnitude bits of infinity, the least that stand for no finite number. -/
def infinity : Nat := 0x7FF * exponentBit

def ofMagnitude (negative : Bool) (m : Nat) : Double :=
  ⟨UInt64.ofNat (if negative then m + signBit else m)⟩

/-- The magnitude `m * 2 ^ (e - 1074)` as the pair of `m` and `e`. -/
def parts (magnitude : Nat) : Nat × Nat :=
  if magnitude < exponentBit then (magnitude, 0)
  else (exponentBit + magnitude % exponentBit, magnitude / exponentBit - 1)

/-- A quotient of natural numbers, a half going to the even neighbour. -/
def roundDiv (num den : Nat) : Nat :=
  let q := num / den
  let r := num % den
  if 2 * r < den then q
  else if 2 * r = den then q + q % 2
  else q + 1

/-- The magnitude bits of the double nearest to `num / den`, or those of infinity. -/
def roundRatio (num den : Nat) : Nat :=
  if num = 0 then 0
  else
    -- `e` is the least exponent, counted from -1074, at which the quotient has at most 53 bits.
    let guess : Int := (num.log2 : Int) - den.log2 - 53 + 1074
    let fits (e : Nat) : Bool :=
      decide (num * Nat.pow 2 1074 < 2 * exponentBit * den * Nat.pow 2 e)
    let e₀ : Nat := guess.toNat
    let e : Nat := if fits e₀ then e₀ else e₀ + 1
    let q := roundDiv (num * Nat.pow 2 1074) (den * Nat.pow 2 e)
    min infinity (e * exponentBit + q)

/-- The magnitude bits of the double nearest to `c * 10 ^ p`. -/
def roundDecimal (c : Nat) (p : Int) : Nat :=
  if 0 ≤ p then roundRatio (c * Nat.pow 10 p.toNat) 1 else roundRatio c (Nat.pow 10 (-p).toNat)

/-- The product of two magnitudes, rounded. -/
def mulMagnitude (a b : Nat) : Nat :=
  let (m, e) := parts a
  let (n, f) := parts b
  roundRatio (m * n * Nat.pow 2 (e + f)) (Nat.pow 2 2148)

/-- The quotient of two magnitudes, the second of them not zero, rounded. -/
def divMagnitude (a b : Nat) : Nat :=
  let (m, e) := parts a
  let (n, f) := parts b
  roundRatio (m * Nat.pow 2 e) (n * Nat.pow 2 f)

/-! ### Shortest decimals -/

/-- The number of decimal digits of a natural number, one for zero. -/
def digitCount (n : Nat) : Nat := (Nat.toDigits 10 n).length

/-- The exponent `k` with `10 ^ k ≤ num / den < 10 ^ (k + 1)`, at least `-fuel`. -/
def leadingExponent (num den : Nat) : Nat → Int
  | 0 => if den ≤ num then (digitCount (num / den) : Int) - 1 else 0
  | fuel + 1 =>
    if den ≤ num then (digitCount (num / den) : Int) - 1
    else leadingExponent (num * 10) den fuel - 1

/-- The two decimals with `n` digits next to `num / den`, the nearer one first, the even one first
if both are equally near. -/
def neighbours (num den : Nat) (k : Int) (n : Nat) : List (Nat × Int) :=
  let p := k - ((n : Int) - 1)
  let (num', den') :=
    if 0 ≤ p then (num, den * Nat.pow 10 p.toNat) else (num * Nat.pow 10 (-p).toNat, den)
  let below := num' / den'
  let nearest := roundDiv num' den'
  [(nearest, p), (if nearest = below then below + 1 else below, p)]

/-- The first decimal, by number of digits, that reads back as the magnitude. -/
def searchShortest (magnitude num den : Nat) (k : Int) (n : Nat) : Nat → Nat × Int
  | 0 => (roundDiv num den, 0)
  | fuel + 1 =>
    match (neighbours num den k n).find? fun d => roundDecimal d.1 d.2 = magnitude with
    | some d => d
    | none => searchShortest magnitude num den k (n + 1) fuel

/-- A decimal `c * 10 ^ p` with as few digits as any that reads back as this finite number. -/
def shortest (d : Double) : Nat × Int :=
  let (m, e) := parts d.magnitude
  if m = 0 then (0, 0)
  else
    let num := m * Nat.pow 2 e
    let den := Nat.pow 2 1074
    let k := leadingExponent num den 330
    let (c, p) := searchShortest d.magnitude num den k 1 18
    -- A carry such as 9.99 to 10.0 leaves zeros at the end.
    if c % 10 = 0 then (c / Nat.pow 10 (digitCount c - 1), p + (digitCount c - 1 : Nat)) else (c, p)

/-- Where positional notation gives way to an exponent: the point stands after `pointAbove` digits
at most, and fewer than `zerosBelow` zeros follow a leading `0.`. -/
structure Layout where
  pointAbove : Option Nat
  zerosBelow : Option Nat

/-- The text of a finite number in its fewest digits, always with a fraction or an exponent. -/
def text (layout : Layout) (d : Double) : String :=
  let (c, p) := d.shortest
  let digits := Nat.toDigits 10 c
  let n := digits.length
  let point : Int := n + p
  let sign := if d.isNegative then ['-'] else []
  let zeros (k : Int) : List Char := List.replicate k.toNat '0'
  let positional : Bool :=
    (match layout.pointAbove with | some m => point ≤ m | none => true) &&
    (match layout.zerosBelow with | some m => -(m : Int) < point | none => true)
  let body :=
    if c = 0 then ['0', '.', '0']
    else if positional then
      if 0 ≤ p then digits ++ zeros p ++ ['.', '0']
      else if 0 < point then digits.take point.toNat ++ '.' :: digits.drop point.toNat
      else '0' :: '.' :: zeros (-point) ++ digits
    else
      let fraction := if n = 1 then [] else '.' :: digits.drop 1
      digits.take 1 ++ fraction ++ 'e' :: (toString (point - 1)).toList
  String.ofList (sign ++ body)

end Double

end Registrar
