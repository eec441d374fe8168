import Registrar.Json.Decode
/-!
The state of a conversation: an opaque tag. The empty tag is the default state, in which every
conversation begins; a tag may name a group in front of a colon.
-/

namespace Registrar

structure State where
  tag : String
deriving DecidableEq

namespace State

/-- The state of a conversation about which nothing is stored. -/
def default : State := ⟨""⟩

instance : Inhabited State := ⟨default⟩

def isDefault (s : State) : Bool := s.tag == ""

/-- The part of the tag before its first colon, if it has one. -/
def group? (s : State) : Option String :=
  let cs := s.tag.toList
  if ':' ∈ cs then some (String.ofList (cs.takeWhile (· ≠ ':'))) else none

def inGroup (s : State) (group : String) : Bool := s.group? == some group

def display (s : State) : String := if s.isDefault then "<default>" else s.tag

def toJson (s : State) : Json := .string s.tag

def ofJson (v : Json) : Except DecodeError State := (Decode.string v).map State.mk

end State

end Registrar
