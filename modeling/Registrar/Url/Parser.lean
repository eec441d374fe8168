import Registrar.Url.Basic
/-!
Reading URLs that stand by themselves.

Blanks and control characters around the text, and tabs and line breaks inside it, are passed over. A
scheme that reaches for machines needs a host and has a path in any case; another scheme has a host
only after two slashes, and without a slash its path has no structure.
-/

namespace Registrar.Url

/-! ### The characters that are encoded -/

def inFragmentSet (c : Char) : Bool := Host.isControl c || c ∈ " \"<>`".toList

def inQuerySet (c : Char) : Bool := Host.isControl c || c ∈ " \"#<>".toList

/-- The characters that are encoded in a query of a scheme that reaches for machines. -/
def inSpecialQuerySet (c : Char) : Bool := inQuerySet c || c == '\''

def inPathSet (c : Char) : Bool := inFragmentSet c || c ∈ ['#', '?', '\x7b', '\x7d', '^']

def inUserSet (c : Char) : Bool := inPathSet c || c ∈ "/:;=@[\\]|".toList

/-! ### Parts -/

/-- The text before the first character that passes a test, and what comes from there on. -/
def cutAt (p : Char → Bool) (cs : List Char) : List Char × List Char :=
  (cs.takeWhile fun c => !p c, cs.dropWhile fun c => !p c)

/-- The text before the first such character, and what comes after it, if there is one. -/
def cutAfter (sep : Char) (cs : List Char) : List Char × Option (List Char) :=
  match cutAt (· == sep) cs with
  | (front, _ :: back) => (front, some back)
  | (front, []) => (front, none)

/-- The text before the last such character, if there is one, and what comes after it. -/
def cutAtLast (sep : Char) (cs : List Char) : Option (List Char) × List Char :=
  match cutAfter sep cs.reverse with
  | (back, some front) => (some front.reverse, back.reverse)
  | (back, none) => (none, back.reverse)

def inScheme (c : Char) : Bool := c.isAlphanum || c ∈ "+-.".toList

/-- The scheme, in small letters, and what comes after its colon. -/
def readScheme (cs : List Char) : Option (String × List Char) :=
  match cutAfter ':' cs with
  | (front, some back) =>
    if (front.head?.map Char.isAlpha).getD false && front.all inScheme then
      some (String.ofList (front.map Char.toLower), back)
    else none
  | _ => none

def readUser (cs : List Char) : String × String :=
  let (name, password) := cutAfter ':' cs
  let encoded (cs : List Char) := String.ofList (Percent.encode inUserSet cs)
  (encoded name, encoded (password.getD []))

/-- A port; the usual one of the scheme counts as none. -/
def readPort (scheme : String) (cs : List Char) : Except UrlError (Option Nat) :=
  if cs.isEmpty then .ok none
  else
    match Host.readDigits 10 cs with
    | some n =>
      if 65535 < n then .error .badPort
      else if usualPort? scheme = some n then .ok none
      else .ok (some n)
    | none => .error .badPort

/-- The text of a host, which ends at a colon outside brackets, and what comes from there on. -/
def cutHost : Bool → List Char → List Char × List Char
  | _, [] => ([], [])
  | inside, c :: cs =>
    if c = ':' ∧ !inside then ([], c :: cs)
    else
      let inside := if c = '[' then true else if c = ']' then false else inside
      let (host, rest) := cutHost inside cs
      (c :: host, rest)

/-- User, password, host and port. -/
structure Authority where
  username : String
  password : String
  host : Host
  port : Option Nat

def readAuthority (scheme : String) (special : Bool) (cs : List Char) :
    Except UrlError Authority := do
  let (user, rest) := cutAtLast '@' cs
  let (username, password) := readUser (user.getD [])
  let (hostText, portText) := cutHost false rest
  if hostText.isEmpty && special then .error .emptyHost
  else
    let host ← if special then Host.read hostText else Host.readOpaque hostText
    let named := username ≠ "" || password ≠ ""
    if hostText.isEmpty && (named || !portText.isEmpty) then .error .emptyHost
    else
      let port ← readPort scheme (portText.drop 1)
      .ok ⟨username, password, host, port⟩

/-! ### Paths -/

/-- Whether a segment stays where it is. -/
def isSingleDot (segment : String) : Bool := segment.toLower ∈ [".", "%2e"]

/-- Whether a segment goes back. -/
def isDoubleDot (segment : String) : Bool :=
  segment.toLower ∈ ["..", ".%2e", "%2e.", "%2e%2e"]

/-- The segments after going through the text of segments. -/
def resolve (done : List String) : List String → List String
  | [] => done
  | [last] =>
    if isDoubleDot last then done.dropLast ++ [""]
    else if isSingleDot last then done ++ [""]
    else done ++ [last]
  | segment :: rest =>
    if isDoubleDot segment then resolve done.dropLast rest
    else if isSingleDot segment then resolve done rest
    else resolve (done ++ [segment]) rest

def splitSegments (isSlash : Char → Bool) : List Char → List (List Char)
  | [] => [[]]
  | c :: cs =>
    if isSlash c then [] :: splitSegments isSlash cs
    else
      match splitSegments isSlash cs with
      | [] => [[c]]
      | segment :: segments => (c :: segment) :: segments

/-- Reads a path with structure, which begins with a slash unless it is empty. -/
def readPath (special : Bool) (cs : List Char) : UrlPath :=
  let isSlash (c : Char) : Bool := c == '/' || (special && c == '\\')
  let body :=
    match cs with
    | c :: rest => if isSlash c then some rest else some cs
    | [] => if special then some [] else none
  match body with
  | none => .segments []
  | some cs =>
    .segments (resolve [] ((splitSegments isSlash cs).map fun segment =>
      String.ofList (Percent.encode inPathSet segment)))

/-! ### Whole URLs -/

def readAfterScheme (scheme : String) (cs : List Char) :
    Except UrlError (Option Authority × UrlPath) :=
  if (usualPort? scheme).isSome then do
    let isSlash (c : Char) : Bool := c == '/' || c == '\\'
    let (authority, path) := cutAt isSlash (cs.dropWhile isSlash)
    let a ← readAuthority scheme true authority
    .ok (some a, readPath true path)
  else if scheme = "file" then
    let isSlash (c : Char) : Bool := c == '/' || c == '\\'
    match cs with
    | a :: b :: rest =>
      if isSlash a && isSlash b then do
        let (hostText, path) := cutAt isSlash rest
        let host ← if hostText.isEmpty then .ok (.name "") else Host.read hostText
        let host := if host = .name "localhost" then .name "" else host
        .ok (some ⟨"", "", host, none⟩, readPath true path)
      else .ok (some ⟨"", "", .name "", none⟩, readPath true cs)
    | _ => .ok (some ⟨"", "", .name "", none⟩, readPath true cs)
  else
    match cs with
    | '/' :: '/' :: rest => do
      let (authority, path) := cutAt (· == '/') rest
      let a ← readAuthority scheme false authority
      .ok (some a, readPath false path)
    | '/' :: _ => .ok (none, readPath false cs)
    | _ => .ok (none, .opaqueText (String.ofList (Percent.encode Host.isControl cs)))

/-- The text without what is passed over. -/
def relevant (s : String) : List Char :=
  let isEdge (c : Char) : Bool := c.toNat ≤ 0x20
  let cs := s.toList.dropWhile isEdge
  let cs := (cs.reverse.dropWhile isEdge).reverse
  cs.filter fun c => c ≠ '\t' && c ≠ '\n' && c ≠ '\r'

def parse (s : String) : Except UrlError Url := do
  match readScheme (relevant s) with
  | none => .error .noBase
  | some (scheme, rest) =>
    let (rest, fragment) := cutAfter '#' rest
    let (rest, query) := cutAfter '?' rest
    let (authority, path) ← readAfterScheme scheme rest
    let special := (usualPort? scheme).isSome || scheme == "file"
    let querySet := if special then inSpecialQuerySet else inQuerySet
    .ok {
      scheme := scheme
      username := (authority.map Authority.username).getD ""
      password := (authority.map Authority.password).getD ""
      host := authority.map Authority.host
      port := authority.bind Authority.port
      path := path
      query := query.map fun q => String.ofList (Percent.encode querySet q)
      fragment := fragment.map fun f => String.ofList (Percent.encode inFragmentSet f) }

/-! ### Queries as lists of names and values -/

/-- A name or a value as it was meant: a plus sign stands for a blank, bytes are decoded. -/
def decodeFormText (cs : List Char) : String :=
  let cs := cs.map fun c => if c = '+' then ' ' else c
  (Percent.decode? cs).getD (String.ofList cs)

/-- The names and values of a query: `a=1&b=2`. -/
def readForm (query : List Char) : List (String × String) :=
  ((splitSegments (· == '&') query).filter (· ≠ [])).map fun part =>
    let (name, value) := cutAfter '=' part
    (decodeFormText name, decodeFormText (value.getD []))

end Registrar.Url
