import Registrar.Json.Basic
/-!
JSON text, without a blank between tokens. Strings are written in full: only the quote, the
backslash and the control characters below U+0020 are escaped, by their short names where they have
one.
-/

namespace Registrar.Json

/-- A hexadecimal digit, in lower case. -/
def hexDigit (n : Nat) : Char :=
  if n < 10 then Char.ofNat ('0'.toNat + n) else Char.ofNat ('a'.toNat + (n - 10))

def escapeChar (c : Char) : List Char :=
  if c = '"' then ['\\', '"']
  else if c = '\\' then ['\\', '\\']
  else if 0x20 ≤ c.toNat then [c]
  else if c = '\n' then ['\\', 'n']
  else if c = '\r' then ['\\', 'r']
  else if c = '\t' then ['\\', 't']
  else if c.toNat = 8 then ['\\', 'b']
  else if c.toNat = 12 then ['\\', 'f']
  else ['\\', 'u', '0', '0', hexDigit (c.toNat / 16), hexDigit (c.toNat % 16)]

def quote (s : String) : List Char :=
  '"' :: s.toList.flatMap escapeChar ++ ['"']

/-- Doubles are written positionally from 0.00001 up to sixteen digits before the point. -/
def doubleLayout : Double.Layout := ⟨some 16, some 5⟩

def printNumber : JsonNumber → List Char
  | .integer n => (toString n.val).toList
  | .double d => (d.text doubleLayout).toList

mutual

def printChars : Json → List Char
  | null => ['n', 'u', 'l', 'l']
  | bool true => ['t', 'r', 'u', 'e']
  | bool false => ['f', 'a', 'l', 's', 'e']
  | number n => printNumber n
  | string s => quote s
  | array [] => ['[', ']']
  | array (v :: vs) => '[' :: printChars v ++ printElements vs
  | object [] => ['{', '}']
  | object ((k, v) :: ms) => '{' :: quote k ++ ':' :: printChars v ++ printMembers ms

/-- The elements after the first, and the closing bracket. -/
def printElements : List Json → List Char
  | [] => [']']
  | v :: vs => ',' :: printChars v ++ printElements vs

/-- The members after the first, and the closing brace. -/
def printMembers : List (String × Json) → List Char
  | [] => ['}']
  | (k, v) :: ms => ',' :: quote k ++ ':' :: printChars v ++ printMembers ms

end

def print (v : Json) : String := String.ofList (printChars v)

end Registrar.Json
