import Registrar.Chat.Conversation
import Registrar.Error
/-!
The interface of a store. Per conversation it keeps a state and a map of scratch fields, each field
holding a JSON value; the two can be present or absent independently.
-/

namespace Registrar

inductive StoreCall where
  /-- Reads the state; an absent one reads as the default state. -/
  | get (c : Conversation)
  /-- Replaces the state. -/
  | set (c : Conversation) (state : State)
  /-- Removes the state and leaves the scratch fields. -/
  | delete (c : Conversation)
  /-- Reads one scratch field. -/
  | getData (c : Conversation) (field : String)
  /-- Replaces one scratch field and leaves the others. -/
  | setData (c : Conversation) (field : String) (value : Json)
  /-- Removes every scratch field and leaves the state. -/
  | clearData (c : Conversation)

inductive StoreCall.Kind where
  | get | set | delete | getData | setData | clearData
deriving DecidableEq

namespace StoreCall

def Result : StoreCall → Type
  | get _ => State
  | set _ _ => Unit
  | delete _ => Unit
  | getData _ _ => Option Json
  | setData _ _ _ => Unit
  | clearData _ => Unit

def kind : StoreCall → Kind
  | get _ => .get
  | set _ _ => .set
  | delete _ => .delete
  | getData _ _ => .getData
  | setData _ _ _ => .setData
  | clearData _ => .clearData

def conversation : StoreCall → Conversation
  | get c => c
  | set c _ => c
  | delete c => c
  | getData c _ => c
  | setData c _ _ => c
  | clearData c => c

/-- The scratch field or the tag that a call names. -/
def subject? : StoreCall → Option String
  | set _ state => some state.tag
  | getData _ field => some field
  | setData _ field _ => some field
  | _ => none

abbrev Answer (call : StoreCall) : Type := Except StorageError call.Result

end StoreCall

end Registrar
