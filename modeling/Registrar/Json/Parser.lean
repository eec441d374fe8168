import Registrar.Json.Printer
import Registrar.Text.Decimal
/-!
Reading JSON.

A text is read in one pass from the left; the first thing that does not fit the grammar ends the
reading with a cause and the place in the text, given by line and by byte within the line. Arrays
and objects may be nested 127 deep. A number without fraction and exponent that fits 64 bits stays
an integer; every other one becomes a double: as many leading digits as 64 bits can hold are rounded
to a double, which is then multiplied or divided by a power of ten.
-/

namespace Registrar

inductive JsonFault where
  | endInArray
  | endInObject
  | endInString
  | endInValue
  | colonExpected
  | commaOrBracketExpected
  | commaOrBraceExpected
  | wordExpected
  | valueExpected
  | badEscape
  | badNumber
  | numberTooLarge
  | controlCharacter
  | keyNotString
  | loneSurrogate
  | secondSurrogateMissing
  | trailingComma
  | trailingCharacters
  | nestedTooDeep
deriving DecidableEq, Repr

def JsonFault.message : JsonFault → String
  | endInArray => "EOF while parsing a list"
  | endInObject => "EOF while parsing an object"
  | endInString => "EOF while parsing a string"
  | endInValue => "EOF while parsing a value"
  | colonExpected => "expected `:`"
  | commaOrBracketExpected => "expected `,` or `]`"
  | commaOrBraceExpected => "expected `,` or `\x7d`"
  | wordExpected => "expected ident"
  | valueExpected => "expected value"
  | badEscape => "invalid escape"
  | badNumber => "invalid number"
  | numberTooLarge => "number out of range"
  | controlCharacter => "control character (\\u0000-\\u001F) found while parsing a string"
  | keyNotString => "key must be a string"
  | loneSurrogate => "lone leading surrogate in hex escape"
  | secondSurrogateMissing => "unexpected end of hex escape"
  | trailingComma => "trailing comma"
  | trailingCharacters => "trailing characters"
  | nestedTooDeep => "recursion limit exceeded"

/-- A cause and a place: the line, counted from 1, and the bytes passed on it. -/
structure JsonError where
  fault : JsonFault
  line : Nat
  column : Nat
deriving DecidableEq, Repr

def JsonError.message (e : JsonError) : String :=
  e.fault.message ++ " at line " ++ toString e.line ++ " column " ++ toString e.column

namespace Json

/-- A fault inside a text, and how many bytes of the text were not yet passed. -/
structure Stop where
  fault : JsonFault
  remaining : Nat

def byteCount (cs : List Char) : Nat := cs.foldl (fun n c => n + c.utf8Size) 0

def stopBefore {α : Type} (fault : JsonFault) (rest : List Char) : Except Stop α :=
  .error ⟨fault, byteCount rest⟩

/-- Stops behind the first byte of the rest, or at the end of the text. -/
def stopWithin {α : Type} (fault : JsonFault) (rest : List Char) : Except Stop α :=
  .error ⟨fault, byteCount rest - 1⟩

def isBlankChar (c : Char) : Bool := c = ' ' || c = '\n' || c = '\t' || c = '\r'

def skipBlanks (cs : List Char) : List Char := cs.dropWhile isBlankChar

/-- The rest of a word of the grammar whose first letter is passed. -/
def readWord (value : Json) : List Char → List Char → Except Stop (Json × List Char)
  | [], cs => .ok (value, cs)
  | _ :: _, [] => stopBefore .endInValue []
  | w :: ws, c :: cs =>
    if c = w then readWord value ws cs else stopWithin .wordExpected (c :: cs)

/-! ### Numbers -/

/-- The values of the leading digits, and the rest. -/
def spanDigits : List Char → List Nat × List Char
  | [] => ([], [])
  | c :: cs =>
    match Text.digit? c with
    | some d => let (ds, rest) := spanDigits cs; (d :: ds, rest)
    | none => ([], c :: cs)

/-- Appends digits to a number as long as it stays below `2 ^ 64`; the number of digits that no
longer fit comes second. -/
def absorb (acc : Nat) : List Nat → Nat × Nat
  | [] => (acc, 0)
  | d :: ds => if 10 * acc + d < 18446744073709551616 then absorb (10 * acc + d) ds else (acc, ds.length + 1)

/-- The magnitude of `significand * 10 ^ exponent`: the significand is rounded first, then
multiplied or divided by the double next to the power of ten, in two steps for the smallest. -/
def scale (significand : Nat) (exponent : Int) : Option Nat :=
  let f := Double.roundRatio significand 1
  let power (n : Nat) : Nat := Double.roundRatio (Nat.pow 10 n) 1
  if 0 ≤ exponent then
    if f = 0 then some 0
    else if 308 < exponent then none
    else
      let m := Double.mulMagnitude f (power exponent.toNat)
      if m < Double.infinity then some m else none
  else if -308 ≤ exponent then some (Double.divMagnitude f (power (-exponent).toNat))
  else if -616 ≤ exponent then
    some (Double.divMagnitude (Double.divMagnitude f (power 308)) (power (-exponent - 308).toNat))
  else some 0

/-- A double from sign, digits and exponent; `rest` is the text behind it. -/
def makeDouble (negative : Bool) (significand : Nat) (exponent : Int) (rest : List Char) :
    Except Stop (JsonNumber × List Char) :=
  match scale significand exponent with
  | some m => .ok (.double (.ofMagnitude negative m), rest)
  | none => stopBefore .numberTooLarge rest

/-- The exponent's digits, as long as the number stays below `2 ^ 31`. -/
def readExponentDigits (acc : Nat) : List Char → Option Nat × List Char
  | [] => (some acc, [])
  | c :: cs =>
    match Text.digit? c with
    | some d => if 10 * acc + d < 2147483648 then readExponentDigits (10 * acc + d) cs else (none, cs)
    | none => (some acc, c :: cs)

def readExponent (negative : Bool) (significand : Nat) (start : Int) (cs : List Char) :
    Except Stop (JsonNumber × List Char) :=
  let (down, cs) :=
    match cs with
    | '+' :: cs => (false, cs)
    | '-' :: cs => (true, cs)
    | cs => (false, cs)
  match cs with
  | [] => stopBefore .endInValue []
  | c :: rest =>
    match Text.digit? c with
    | none => stopWithin .badNumber (c :: rest)
    | some d =>
      match readExponentDigits d rest with
      | (some e, rest) => makeDouble negative significand (if down then start - e else start + e) rest
      | (none, rest) =>
        if significand ≠ 0 ∧ ¬ down then stopBefore .numberTooLarge rest
        else .ok (.double (.ofMagnitude negative 0), (spanDigits rest).2)

def readFraction (negative : Bool) (significand : Nat) (start : Int) (cs : List Char) :
    Except Stop (JsonNumber × List Char) :=
  let (digits, rest) := spanDigits cs
  if digits.isEmpty then
    match rest with
    | [] => stopBefore .endInValue []
    | _ :: _ => stopWithin .badNumber rest
  else
    let (significand, dropped) := absorb significand digits
    let exponent := start - ((digits.length - dropped : Nat) : Int)
    match rest with
    | 'e' :: rest | 'E' :: rest => readExponent negative significand exponent rest
    | rest => makeDouble negative significand exponent rest

/-- An integer, or a double where an integer does not fit: zero with a minus sign, and whatever lies
below `-2 ^ 63`. -/
def makeInteger (negative : Bool) (n : Nat) : JsonNumber :=
  let value : Int := if negative then -n else n
  match JsonInteger.ofInt? value with
  | some i => if negative && n = 0 then .double (.ofMagnitude true 0) else .integer i
  | none => .double (.ofMagnitude negative (Double.roundRatio n 1))

def readNumber (negative : Bool) (cs : List Char) : Except Stop (JsonNumber × List Char) :=
  match spanDigits cs with
  | ([], []) => stopBefore .endInValue []
  | ([], rest) => stopWithin .badNumber rest
  | (0 :: _ :: _, _) => stopWithin .badNumber (cs.drop 1)
  | (digits, rest) =>
    let (significand, dropped) := absorb 0 digits
    match rest with
    | '.' :: rest => readFraction negative significand dropped rest
    | 'e' :: rest | 'E' :: rest => readExponent negative significand dropped rest
    | rest =>
      if dropped = 0 then .ok (makeInteger negative significand, rest)
      else makeDouble negative significand dropped rest

/-! ### Strings -/

def readHex (cs : List Char) : Except Stop (Nat × List Char) :=
  let refuse : Except Stop (Nat × List Char) :=
    if byteCount cs < 4 then stopBefore .endInString [] else .error ⟨.badEscape, byteCount cs - 4⟩
  match cs with
  | a :: b :: c :: d :: rest =>
    match Text.hexDigit? a, Text.hexDigit? b, Text.hexDigit? c, Text.hexDigit? d with
    | some a, some b, some c, some d => .ok (((a * 16 + b) * 16 + c) * 16 + d, rest)
    | _, _, _, _ => refuse
  | _ => refuse

/-- The character of a `\u` escape; one above U+FFFF takes two of them. -/
def readCodePoint (cs : List Char) : Except Stop (Char × List Char) := do
  let (high, rest) ← readHex cs
  if 0xDC00 ≤ high ∧ high ≤ 0xDFFF then stopBefore .loneSurrogate rest
  else if high < 0xD800 ∨ 0xDFFF < high then .ok (Char.ofNat high, rest)
  else
    match rest with
    | '\\' :: 'u' :: rest =>
      let (low, rest) ← readHex rest
      if low < 0xDC00 ∨ 0xDFFF < low then stopBefore .loneSurrogate rest
      else .ok (Char.ofNat (0x10000 + (high - 0xD800) * 0x400 + (low - 0xDC00)), rest)
    | [] => stopBefore .endInString []
    | ['\\'] => stopBefore .endInString []
    | '\\' :: rest => stopWithin .secondSurrogateMissing rest
    | rest => stopWithin .secondSurrogateMissing rest

/-- The character that an escape stands for; the backslash is passed. -/
def readEscape : List Char → Except Stop (Char × List Char)
  | [] => stopBefore .endInString []
  | '"' :: cs => .ok ('"', cs)
  | '\\' :: cs => .ok ('\\', cs)
  | '/' :: cs => .ok ('/', cs)
  | 'b' :: cs => .ok ('\x08', cs)
  | 'f' :: cs => .ok ('\x0c', cs)
  | 'n' :: cs => .ok ('\n', cs)
  | 'r' :: cs => .ok ('\r', cs)
  | 't' :: cs => .ok ('\t', cs)
  | 'u' :: cs => readCodePoint cs
  | c :: cs => stopWithin .badEscape (c :: cs)

/-- The characters of a string up to its closing quote; `fuel` is at least the length of the text. -/
def readChars : Nat → List Char → Except Stop ((List Char) × List Char)
  | _, [] => stopBefore .endInString []
  | 0, cs => stopBefore .endInString cs
  | fuel + 1, c :: cs =>
    if c = '"' then .ok ([], cs)
    else if c = '\\' then do
      let (d, cs) ← readEscape cs
      let (ds, cs) ← readChars fuel cs
      .ok (d :: ds, cs)
    else if c.toNat < 0x20 then stopWithin .controlCharacter (c :: cs)
    else do
      let (ds, cs) ← readChars fuel cs
      .ok (c :: ds, cs)

def readString (cs : List Char) : Except Stop (String × List Char) := do
  let (chars, rest) ← readChars cs.length cs
  .ok (String.ofList chars, rest)

/-! ### Values -/

def depthLimit : Nat := 127

mutual

/-- A value; `limit` more containers may be opened around what is inside it. -/
def readValue : Nat → Nat → List Char → Except Stop (Json × List Char)
  | 0, _, cs => stopBefore .valueExpected cs
  | fuel + 1, limit, cs =>
    match skipBlanks cs with
    | [] => stopBefore .endInValue []
    | 'n' :: rest => readWord null ['u', 'l', 'l'] rest
    | 't' :: rest => readWord (bool true) ['r', 'u', 'e'] rest
    | 'f' :: rest => readWord (bool false) ['a', 'l', 's', 'e'] rest
    | '"' :: rest => do
      let (s, rest) ← readString rest
      .ok (string s, rest)
    | '-' :: rest => do
      let (n, rest) ← readNumber true rest
      .ok (number n, rest)
    | '[' :: rest =>
      match limit with
      | 0 => stopWithin .nestedTooDeep ('[' :: rest)
      | limit + 1 => do
        let (vs, rest) ← readElements fuel limit true rest
        .ok (array vs, rest)
    | '{' :: rest =>
      match limit with
      | 0 => stopWithin .nestedTooDeep ('{' :: rest)
      | limit + 1 => do
        let (ms, rest) ← readMembers fuel limit true [] rest
        .ok (object ms, rest)
    | c :: rest =>
      if (Text.digit? c).isSome then do
        let (n, rest) ← readNumber false (c :: rest)
        .ok (number n, rest)
      else stopWithin .valueExpected (c :: rest)

/-- The elements up to the closing bracket; `first` before any of them is read. -/
def readElements : Nat → Nat → Bool → List Char → Except Stop ((List Json) × List Char)
  | 0, _, _, cs => stopBefore .valueExpected cs
  | fuel + 1, limit, first, cs =>
    match skipBlanks cs with
    | [] => stopBefore .endInArray []
    | ']' :: rest => .ok ([], rest)
    | c :: rest =>
      if first then do
        let (v, rest) ← readValue fuel limit (c :: rest)
        let (vs, rest) ← readElements fuel limit false rest
        .ok (v :: vs, rest)
      else if c = ',' then
        match skipBlanks rest with
        | ']' :: rest => stopWithin .trailingComma (']' :: rest)
        | rest => do
          let (v, rest) ← readValue fuel limit rest
          let (vs, rest) ← readElements fuel limit false rest
          .ok (v :: vs, rest)
      else stopWithin .commaOrBracketExpected (c :: rest)

/-- The members up to the closing brace, entered into those read before. -/
def readMembers : Nat → Nat → Bool → List (String × Json) → List Char →
    Except Stop ((List (String × Json)) × List Char)
  | 0, _, _, _, cs => stopBefore .valueExpected cs
  | fuel + 1, limit, first, read, cs =>
    match skipBlanks cs with
    | [] => stopBefore .endInObject []
    | '}' :: rest => .ok (read, rest)
    | c :: rest =>
      if first then
        if c = '"' then readMember fuel limit read rest
        else stopWithin .keyNotString (c :: rest)
      else if c = ',' then
        match skipBlanks rest with
        | '"' :: rest => readMember fuel limit read rest
        | '}' :: rest => stopWithin .trailingComma ('}' :: rest)
        | [] => stopBefore .endInValue []
        | rest => stopWithin .keyNotString rest
      else stopWithin .commaOrBraceExpected (c :: rest)

/-- One member behind the opening quote of its key, and the members after it. -/
def readMember : Nat → Nat → List (String × Json) → List Char →
    Except Stop ((List (String × Json)) × List Char)
  | 0, _, _, cs => stopBefore .valueExpected cs
  | fuel + 1, limit, read, cs => do
    let (k, rest) ← readString cs
    match skipBlanks rest with
    | [] => stopBefore .endInObject []
    | ':' :: rest => do
      let (v, rest) ← readValue fuel limit rest
      readMembers fuel limit false (enter k v read) rest
    | rest => stopWithin .colonExpected rest

end

/-- Line and column behind the first `offset` bytes of a text, from a given line and column. -/
def locate (offset line column : Nat) : List Char → Nat × Nat
  | [] => (line, column)
  | c :: cs =>
    if offset < c.utf8Size then (line, column + offset)
    else if c = '\n' then locate (offset - 1) (line + 1) 0 cs
    else locate (offset - c.utf8Size) line (column + c.utf8Size) cs

/-- The value that a whole text writes. -/
def parseChars (cs : List Char) : Except JsonError Json :=
  let result : Except Stop Json := do
    let (v, rest) ← readValue (3 * cs.length + 3) depthLimit cs
    match skipBlanks rest with
    | [] => .ok v
    | rest => stopWithin .trailingCharacters rest
  result.mapError fun stop =>
    let (line, column) := locate (byteCount cs - stop.remaining) 1 0 cs
    ⟨stop.fault, line, column⟩

def parse (text : String) : Except JsonError Json := parseChars text.toList

end Json

end Registrar
