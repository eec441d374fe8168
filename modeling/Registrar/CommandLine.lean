/-!
The command line: `run`, perhaps with a token, or a wish for help or for the version.

    quizbot run [-t TOKEN | --token TOKEN]
    quizbot help [run]

An argument that begins with a dash is an option, but for a lone dash; after two dashes alone nothing is
an option any more.
-/

namespace Registrar.CommandLine

/-- What is asked of the program. -/
inductive Command where
  /-- Runs the bot, perhaps with a token that goes before the one in the settings. -/
  | run (token : Option String)
deriving DecidableEq

/-- Why the program has nothing to run. -/
inductive Refusal where
  | helpWanted
  | versionWanted
  | commandMissing
  | unknownCommand
  | unknownArgument
  | valueMissing
  | valueUnneeded
  | repeated
deriving DecidableEq

inductive Argument where
  /-- Two dashes. -/
  | escape
  /-- Two dashes and a name, perhaps with a value after an equals sign. -/
  | long (name : String) (value : Option String)
  /-- A dash and a letter, with the characters after it. -/
  | short (letter : Char) (rest : List Char)
  | plain (text : String)
deriving DecidableEq

namespace Argument

/-- The name of an option, and its value after an equals sign. -/
def ofLong (cs : List Char) : Argument :=
  match cs.span (· ≠ '=') with
  | (name, _ :: value) => long (String.ofList name) (some (String.ofList value))
  | (name, []) => long (String.ofList name) none

def ofString (s : String) : Argument :=
  match s.toList with
  | ['-', '-'] => escape
  | '-' :: '-' :: cs => ofLong cs
  | '-' :: c :: cs => short c cs
  | _ => plain s

end Argument

/-! ### Arguments of `run` -/

/-- What has been read of the token: the value, and an option after it whose value may still come. -/
structure Token where
  value : Option String
  pending : Option (Option String)
deriving DecidableEq

namespace Token

def empty : Token := ⟨none, none⟩

/-- The token once nothing more can come for the option that was read last. -/
def settle (t : Token) : Except Refusal (Option String) :=
  match t.pending with
  | none => .ok t.value
  | some none => .error .valueMissing
  | some (some value) =>
    match t.value with
    | none => .ok (some value)
    | some _ => .error .repeated

/-- Begins the option, perhaps with a value attached to it. -/
def start (t : Token) (attached : Option String) : Except Refusal Token := do
  let value ← t.settle
  match attached, value with
  | none, value => .ok ⟨value, some none⟩
  | some v, none => .ok ⟨some v, none⟩
  | some _, some _ => .error .repeated

/-- Ends the reading with a wish, unless a value is missing before it. -/
def interrupt (t : Token) (wish : Refusal) : Refusal :=
  match t.settle with
  | .ok _ => wish
  | .error refusal => refusal

end Token

/-- The value that is attached to a letter; an equals sign before it does not count. -/
def attachedValue : List Char → Option String
  | [] => none
  | '=' :: cs => some (String.ofList cs)
  | cs => some (String.ofList cs)

def readRun (t : Token) : List String → Except Refusal (Option String)
  | [] => t.settle
  | arg :: args =>
    match Argument.ofString arg with
    | .escape => if args.isEmpty then t.settle else .error .unknownArgument
    | .long "token" value => do readRun (← t.start value) args
    | .long "help" none => .error (t.interrupt .helpWanted)
    | .long "help" (some _) => .error .valueUnneeded
    | .short 't' rest => do readRun (← t.start (attachedValue rest)) args
    | .short 'h' _ => .error (t.interrupt .helpWanted)
    | .plain text =>
      match t.pending with
      | some none => readRun { t with pending := some (some text) } args
      | _ => .error .unknownArgument
    | _ => .error .unknownArgument

/-! ### Whole command lines -/

def commandNames : List String := ["run", "help"]

/-- Reads the names after `help`. -/
def readHelp : List String → Refusal
  | [] => .helpWanted
  | [name] => if name ∈ commandNames then .helpWanted else .unknownCommand
  | _ => .unknownCommand

/-- Reads what comes after two dashes where a command is expected. -/
def readEscaped : List String → Refusal
  | [] => .commandMissing
  | arg :: _ => if arg ∈ commandNames then .unknownArgument else .unknownCommand

def readArguments : List String → Except Refusal Command
  | [] => .error .commandMissing
  | "run" :: args => (readRun .empty args).map .run
  | "help" :: args => .error (readHelp args)
  | arg :: args =>
    match Argument.ofString arg with
    | .escape => .error (readEscaped args)
    | .long "help" none => .error .helpWanted
    | .long "version" none => .error .versionWanted
    | .long "help" (some _) => .error .valueUnneeded
    | .long "version" (some _) => .error .valueUnneeded
    | .short 'h' _ => .error .helpWanted
    | .short 'V' _ => .error .versionWanted
    | .plain _ => .error .unknownCommand
    | _ => .error .unknownArgument

/-- Reads a command line, which begins with the name of the program. -/
def read (line : List String) : Except Refusal Command := readArguments (line.drop 1)

end Registrar.CommandLine
