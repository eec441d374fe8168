/-!
Punycode: a label with characters beyond ASCII written in letters, digits and hyphens.

The ASCII characters come first; then the others, in ascending order, each as the distance from the
one before in an integer of variable length whose thresholds adapt to the distances seen.
-/

namespace Registrar.Punycode

def digit (n : Nat) : Char :=
  if n < 26 then Char.ofNat ('a'.toNat + n) else Char.ofNat ('0'.toNat + (n - 26))

def threshold (position bias : Nat) : Nat :=
  if position ≤ bias then 1 else if bias + 26 ≤ position then 26 else position - bias

theorem threshold_bounds (position bias : Nat) :
    1 ≤ threshold position bias ∧ threshold position bias ≤ 26 := by
  unfold threshold
  split
  · omega
  · split <;> omega

/-- Divides a distance by 35 until it is small, and counts the steps by 36. -/
def shrink (distance steps : Nat) : Nat × Nat :=
  if 455 < distance then shrink (distance / 35) (steps + 36) else (distance, steps)
termination_by distance
decreasing_by exact Nat.div_lt_self (by omega) (by omega)

def adapt (distance count : Nat) (first : Bool) : Nat :=
  let scaled := if first then distance / 700 else distance / 2
  let (rest, steps) := shrink (scaled + scaled / count) 0
  steps + 36 * rest / (rest + 38)

def writeInteger (bias position n : Nat) : List Char :=
  let t := threshold position bias
  if n < t then [digit n]
  else digit (t + (n - t) % (36 - t)) :: writeInteger bias (position + 36) ((n - t) / (36 - t))
termination_by n
decreasing_by
  have h := threshold_bounds position bias
  exact Nat.lt_of_le_of_lt (Nat.div_le_self _ _) (by omega)

/-- How far the writing of a label has got. -/
structure Progress where
  written : List Char
  distance : Nat
  bias : Nat
  count : Nat

/-- Passes one character of the label while the characters with a code are written. -/
def pass (basic code : Nat) (p : Progress) (c : Char) : Progress :=
  if c.toNat < code then { p with distance := p.distance + 1 }
  else if c.toNat = code then
    ⟨p.written ++ writeInteger p.bias 36 p.distance, 0,
      adapt p.distance (p.count + 1) (p.count == basic), p.count + 1⟩
  else p

/-- Writes the characters with these codes, which ascend from a code on. -/
def writeCodes (label : List Char) (basic : Nat) : List Nat → Nat → Progress → Progress
  | [], _, p => p
  | code :: codes, start, p =>
    let p := { p with distance := p.distance + (code - start) * (p.count + 1) }
    let p := label.foldl (pass basic code) p
    writeCodes label basic codes (code + 1) { p with distance := p.distance + 1 }

def encode (label : List Char) : List Char :=
  let basic := label.filter fun c => c.toNat < 0x80
  let codes := ((label.filter fun c => 0x80 ≤ c.toNat).map Char.toNat).eraseDups.mergeSort
    fun a b => a ≤ b
  let start : Progress := ⟨[], 0, 72, basic.length⟩
  basic ++ (if basic.isEmpty then [] else ['-']) ++
    (writeCodes label basic.length codes 0x80 start).written

end Registrar.Punycode
