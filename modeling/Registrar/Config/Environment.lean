import Registrar.Text.Decimal
import Registrar.Text.WhiteSpace
/-!
Settings as texts by name, and how they are read.

A number that cannot be read counts as one that is not set.
-/

namespace Registrar

/-- The texts that are set, by name. -/
abbrev Environment := String → Option String

namespace Environment

def ofList (settings : List (String × String)) : Environment :=
  fun name => settings.lookup name

/-- A text without blanks around it, if anything is left. -/
def trimmed? (env : Environment) (name : String) : Option String :=
  ((env name).map Text.trim).filter (· ≠ "")

/-- A natural number, with nothing around it. -/
def exactNatural (env : Environment) (name : String) (other : Nat) : Nat :=
  ((env name).bind (Text.readNatural Text.wordBound)).getD other

/-- A signed number, with nothing around it. -/
def exactInteger (env : Environment) (name : String) (other : Int64) : Int64 :=
  (((env name).bind (Text.readInteger Text.signedBound)).map Int64.ofInt).getD other

/-- A natural number, perhaps with blanks around it. -/
def natural (env : Environment) (name : String) (other : Nat) : Nat :=
  (((env name).map Text.trim).bind (Text.readNatural Text.wordBound)).getD other

def readTruth : String → Option Bool
  | "true" => some true
  | "false" => some false
  | _ => none

/-- A truth value, perhaps with blanks around it. -/
def truth (env : Environment) (name : String) (other : Bool) : Bool :=
  (((env name).map Text.trim).bind readTruth).getD other

end Environment

end Registrar
