import Registrar.Text.Decimal
/-!
Percent encoding: a byte written as a percent sign and two hexadecimal digits.
-/

namespace Registrar.Percent

open Text (hexDigit?)

def capitalDigit (n : Nat) : Char :=
  if n < 10 then Char.ofNat ('0'.toNat + n) else Char.ofNat ('A'.toNat + (n - 10))

/-- A byte as a percent sign and two digits. -/
def encodeByte (b : UInt8) : List Char :=
  ['%', capitalDigit (b.toNat / 16), capitalDigit (b.toNat % 16)]

def encodeChar (c : Char) : List Char := (String.utf8EncodeChar c).flatMap encodeByte

/-- Encodes the characters of a set, and all that are not ASCII. -/
def encode (inSet : Char → Bool) (cs : List Char) : List Char :=
  cs.flatMap fun c => if inSet c || 0x80 ≤ c.toNat then encodeChar c else [c]

/-- The bytes that a text stands for. A percent sign without two digits stands for itself. -/
def decodeBytes : List Char → List UInt8
  | '%' :: a :: b :: cs =>
    match hexDigit? a, hexDigit? b with
    | some x, some y => UInt8.ofNat (16 * x + y) :: decodeBytes cs
    | _, _ => UInt8.ofNat '%'.toNat :: decodeBytes (a :: b :: cs)
  | c :: cs => String.utf8EncodeChar c ++ decodeBytes cs
  | [] => []

def textOfBytes? (bytes : List UInt8) : Option String := String.fromUTF8? ⟨bytes.toArray⟩

/-- The text that a text stands for, if its bytes are well-formed. -/
def decode? (cs : List Char) : Option String := textOfBytes? (decodeBytes cs)

end Registrar.Percent
