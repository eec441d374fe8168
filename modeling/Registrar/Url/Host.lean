import Registrar.Text.LowerCase
import Registrar.Url.Percent
import Registrar.Url.Punycode
/-!
Hosts: a name, or an address of version 4 or 6 of the internet protocol.
-/

namespace Registrar

inductive UrlError where
  | emptyHost
  | badName
  | badPort
  | badAddress4
  | badAddress6
  | badHostCharacter
  | noBase
deriving DecidableEq

def UrlError.message : UrlError → String
  | emptyHost => "empty host"
  | badName => "invalid international domain name"
  | badPort => "invalid port number"
  | badAddress4 => "invalid IPv4 address"
  | badAddress6 => "invalid IPv6 address"
  | badHostCharacter => "invalid domain character"
  | noBase => "relative URL without a base"

inductive Host where
  | name (text : String)
  /-- Four bytes as one number. -/
  | address4 (value : Nat)
  /-- Eight pieces of sixteen bits. -/
  | address6 (pieces : List Nat)
deriving DecidableEq

namespace Host

/-! ### Addresses of version 4 -/

/-- The value of digits in a base, if they are digits of it. -/
def readDigits (base : Nat) (cs : List Char) : Option Nat :=
  cs.foldlM (fun acc c =>
    match Text.hexDigit? c with
    | some d => if d < base then some (base * acc + d) else none
    | none => none) 0

/-- A part of an address: decimal, or octal after `0`, or hexadecimal after `0x`. -/
def readPart : List Char → Option Nat
  | [] => none
  | '0' :: 'x' :: cs | '0' :: 'X' :: cs => readDigits 16 cs
  | '0' :: c :: cs => readDigits 8 (c :: cs)
  | cs => readDigits 10 cs

def labels (name : String) : List String := name.splitOn "."

/-- The labels of a name without an empty one at the end. -/
def properLabels (name : String) : List String :=
  let ls := labels name
  if ls.getLast? = some "" then ls.dropLast else ls

/-- Whether the last label of a name is a number, so that the name has to be an address. -/
def endsInNumber (name : String) : Bool :=
  match (properLabels name).getLast? with
  | none => false
  | some last =>
    let cs := last.toList
    (!cs.isEmpty && cs.all Char.isDigit) || (readPart cs).isSome

/-- The number that address parts make: the last fills what the others leave. -/
def joinParts : List Nat → Nat → Option Nat
  | [], _ => none
  | [last], bytes => if last < Nat.pow 256 bytes then some last else none
  | part :: parts, bytes =>
    if part < 256 then
      (joinParts parts (bytes - 1)).map fun rest => part * Nat.pow 256 (bytes - 1) + rest
    else none

def readAddress4 (name : String) : Except UrlError Host :=
  let parts := properLabels name
  if 4 < parts.length then .error .badAddress4
  else
    match parts.mapM fun p => readPart p.toList with
    | none => .error .badAddress4
    | some ns =>
      match joinParts ns 4 with
      | some n => .ok (.address4 n)
      | none => .error .badAddress4

/-! ### Addresses of version 6 -/

def readPiece (cs : List Char) : Option Nat :=
  if cs.isEmpty || 4 < cs.length then none else readDigits 16 cs

/-- A decimal byte without a leading zero. -/
def readByte (cs : List Char) : Option Nat :=
  match cs with
  | '0' :: _ :: _ => none
  | [] => none
  | cs => (readDigits 10 cs).filter (· < 256)

/-- The two pieces of four decimal bytes. -/
def readTail4 (cs : List Char) : Option (List Nat) :=
  match ((String.ofList cs).splitOn ".").mapM fun p => readByte p.toList with
  | some [a, b, c, d] => some [256 * a + b, 256 * c + d]
  | _ => none

/-- The pieces of a text in which colons stand between them; the last may be four decimal bytes. -/
def readPieces (cs : List Char) : Option (List Nat) :=
  if cs.isEmpty then some []
  else
    let parts := (String.ofList cs).splitOn ":"
    match parts.getLast? with
    | none => some []
    | some last =>
      if '.' ∈ last.toList then do
        let front ← parts.dropLast.mapM fun p => readPiece p.toList
        let tail ← readTail4 last.toList
        some (front ++ tail)
      else parts.mapM fun p => readPiece p.toList

/-- The parts of a text before and after its first two colons in a row. -/
def splitAtGap : List Char → Option (List Char × List Char)
  | ':' :: ':' :: cs => some ([], cs)
  | c :: cs => (splitAtGap cs).map fun p => (c :: p.1, p.2)
  | [] => none

def readAddress6 (cs : List Char) : Except UrlError Host :=
  let pieces : Option (List Nat) :=
    match splitAtGap cs with
    | none => (readPieces cs).filter fun ps => ps.length = 8
    | some (front, back) => do
      let a ← (readPieces front).filter fun _ => !('.' ∈ front)
      let b ← readPieces back
      if a.length + b.length ≤ 7 then
        some (a ++ List.replicate (8 - a.length - b.length) 0 ++ b)
      else none
  match pieces with
  | some ps => .ok (.address6 ps)
  | none => .error .badAddress6

/-! ### Names -/

/-- The characters that a name may not have. -/
def isForbidden (c : Char) : Bool :=
  c.toNat ≤ 0x20 || c.toNat == 0x7F || c ∈ "#%/:<>?@[\\]^|".toList

/-- The characters that a name in a scheme without rules of its own may not have. -/
def isForbiddenOpaque (c : Char) : Bool := c ∈ "\x00\t\n\r #/:<>?@[\\]^|".toList

/-- Full stops and letters of full width as ordinary ones. -/
def narrow (c : Char) : Char :=
  let n := c.toNat
  if n = 0x3002 ∨ n = 0xFF61 then '.'
  else if 0xFF01 ≤ n ∧ n ≤ 0xFF5E then Char.ofNat (n - 0xFF01 + 0x21)
  else c

def asciiLabel (label : String) : String :=
  if label.toList.all fun c => c.toNat < 0x80 then label
  else "xn--" ++ String.ofList (Punycode.encode label.toList)

/-- A name in small letters and in ASCII. -/
def asciiName (name : String) : Except UrlError String :=
  let small := Text.lower (String.ofList (name.toList.map narrow))
  let ascii := ".".intercalate ((labels small).map asciiLabel)
  if ascii.toList.any isForbidden then .error .badName else .ok ascii

def bracketed (cs : List Char) : Except UrlError (List Char) :=
  if cs.getLast? = some ']' ∧ 2 ≤ cs.length then .ok (cs.drop 1).dropLast else .error .badAddress6

/-- Reads a host in a scheme that reaches for machines. -/
def read (cs : List Char) : Except UrlError Host :=
  if cs.head? = some '[' then do readAddress6 (← bracketed cs)
  else
    match Percent.decode? cs with
    | none => .error .badName
    | some decoded => do
      let ascii ← asciiName decoded
      if ascii = "" then .error .emptyHost
      else if endsInNumber ascii then readAddress4 ascii
      else .ok (.name ascii)

/-- The characters that are always written as their bytes. -/
def isControl (c : Char) : Bool := c.toNat < 0x20 || c.toNat == 0x7F

/-- Reads a host in a scheme without rules of its own. -/
def readOpaque (cs : List Char) : Except UrlError Host :=
  if cs.head? = some '[' then do readAddress6 (← bracketed cs)
  else if cs.any isForbiddenOpaque then .error .badHostCharacter
  else .ok (.name (String.ofList (Percent.encode isControl cs)))

/-! ### Writing -/

/-- Where the longest run of zeros begins, the first of several, and how long it is. -/
def longestGap (pieces : List Nat) : Nat × Nat :=
  let step (s : Nat × Nat × Nat × Nat) (p : Nat) : Nat × Nat × Nat × Nat :=
    let (i, run, start, best) := s
    let run := if p = 0 then run + 1 else 0
    if best < run then (i + 1, run, i + 1 - run, run) else (i + 1, run, start, best)
  let (_, _, start, best) := pieces.foldl step (0, 0, 0, 0)
  (start, best)

def writePieces (pieces : List Nat) : String :=
  ":".intercalate (pieces.map fun p => String.ofList (Nat.toDigits 16 p))

def write : Host → String
  | .name text => text
  | .address4 n =>
    ".".intercalate ([n / 16777216, n / 65536 % 256, n / 256 % 256, n % 256].map toString)
  | .address6 pieces =>
    let (start, length) := longestGap pieces
    let inside :=
      if length < 2 then writePieces pieces
      else writePieces (pieces.take start) ++ "::" ++ writePieces (pieces.drop (start + length))
    "[" ++ inside ++ "]"

end Host

end Registrar
