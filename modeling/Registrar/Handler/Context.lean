import Registrar.Chat.Markup
import Registrar.Handler.Program
/-!
What a handler sees of its conversation: the state and the scratch fields of that conversation and of
no other. Answers to a message go to the chat from which it came.
-/

namespace Registrar.Conversation

/-- The state; the default one if none is stored. -/
def current (c : Conversation) : Handling State := Handling.store (.get c)

def isInState (c : Conversation) (states : List State) : Handling Bool := do
  let s ← c.current
  return decide (s ∈ states)

def setState (c : Conversation) (s : State) : Handling Unit := Handling.store (.set c s)

/-- Removes the state and keeps the scratch fields. -/
def finish (c : Conversation) : Handling Unit := Handling.store (.delete c)

/-- Stores the default state and keeps the scratch fields. -/
def resetState (c : Conversation) : Handling Unit := c.setState .default

def getData (c : Conversation) (field : String) : Handling (Option Json) :=
  Handling.store (.getData c field)

def setData (c : Conversation) (field : String) (value : Json) : Handling Unit :=
  Handling.store (.setData c field value)

/-- Removes all scratch fields and keeps the state. -/
def clearData (c : Conversation) : Handling Unit := Handling.store (.clearData c)

/-- The value of a scratch field as a typed one; it is an error if the field holds something else. -/
def getAs {α : Type} (c : Conversation) (field : String) (read : Json → Except DecodeError α) :
    Handling (Option α) := do
  match ← c.getData field with
  | none => return none
  | some v =>
    match read v with
    | .ok a => return some a
    | .error e => throw (.storage (.typeMismatch field e.message))

/-- Replaces the value of a scratch field by a typed one, unless that cannot be written as JSON. -/
def setAs {α : Type} (c : Conversation) (field : String) (write : α → Except JsonFault Json)
    (a : α) : Handling Unit :=
  match write a with
  | .ok v => c.setData field v
  | .error fault => throw (.storage (.serialization fault.message))

/-- Reads a scratch field and writes it back changed. Nothing keeps others from writing between the
two calls; it is the dispatcher that lets a conversation's messages be handled one at a time. -/
def updateData (c : Conversation) (field : String) (change : Option Json → Json) :
    Handling Unit := do
  let v ← c.getData field
  c.setData field (change v)

/-- The state, and those of some scratch fields that are there. -/
def snapshot (c : Conversation) (fields : List String) : Handling (State × List (String × Json)) := do
  let s ← c.current
  let found ← fields.mapM fun f => do
    let v ← c.getData f
    return (f, v)
  return (s, found.filterMap fun m => m.2.map fun v => (m.1, v))

end Registrar.Conversation

namespace Registrar

def reply (message : Message) (text : String) : Handling Unit :=
  Handling.send (.plain message.chat.id text)

def replyHtml (message : Message) (html : String) : Handling Unit :=
  Handling.send { Outgoing.plain message.chat.id html with parseMode := some .html }

end Registrar
