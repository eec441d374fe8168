import Registrar.Error
/-!
Verification codes: digits drawn from a source of random bytes.

A byte below 250 gives the digit that is its remainder by ten, and all ten digits then have 25 bytes
each; larger bytes are skipped. Bytes come in blocks of sixteen, and any block may fail to come.
-/

namespace Registrar.Registration

/-- The number of bytes that are drawn at a time. -/
def blockSize : Nat := 16

/-- Sixteen random bytes. -/
abbrev Block := Vector UInt8 blockSize

/-- The digit that a byte gives, if it gives one. -/
def digitOf (b : UInt8) : Option Char :=
  if b < 250 then some (Char.ofNat ('0'.toNat + b.toNat % 10)) else none

def digitsOf (b : Block) : List Char := b.toList.filterMap digitOf

inductive Drawing where
  /-- A code, and the blocks that were left alone. -/
  | drawn (code : List Char) (rest : List (Except String Block))
  /-- A block failed to come. -/
  | failed (reason : String)
  /-- The blocks came to an end. -/
  | starved

def draw : Nat → List (Except String Block) → Drawing
  | 0, source => .drawn [] source
  | _ + 1, [] => .starved
  | _ + 1, .error reason :: _ => .failed reason
  | n + 1, .ok block :: source =>
    let digits := (digitsOf block).take (n + 1)
    match draw (n + 1 - digits.length) source with
    | .drawn code rest => .drawn (digits ++ code) rest
    | ending => ending
termination_by _ source => source.length

def emptyCode : BotError := .otp "code length must be positive"

/-- A code of a length, or the reason why there is none. It is `none` if the source comes to an end
before the code is complete. -/
def newCode? (length : Nat) (source : List (Except String Block)) : Option (Except BotError String) :=
  if length = 0 then some (.error emptyCode)
  else
    match draw length source with
    | .drawn code _ => some (.ok (String.ofList code))
    | .failed reason => some (.error (.otp reason))
    | .starved => none

end Registrar.Registration
