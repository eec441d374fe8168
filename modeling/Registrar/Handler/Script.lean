import Registrar.Error.Kind
import Registrar.Handler.Context
import Registrar.Json.Access
/-!
Handlers written down as lists of actions, to try the dispatcher with.
-/

namespace Registrar

inductive Action where
  /-- Leaves a note of a word and the text of the message. -/
  | log (word : String)
  | setState (state : State)
  | finish
  | resetState
  | clearData
  | setData (field : String) (value : Json)
  /-- Reads a list of texts, waits, and writes it back with the text of the message at its end. -/
  | append (field : String)
  /-- Leaves a note of a field and its value. -/
  | showField (field : String)
  | pause (milliseconds : Nat)
  | permit
  | fail (reason : BotError)
  | panic
  | crash
  /-- Stops here unless the message has this text. -/
  | only (text : String)

/-- How long `append` waits between reading and writing, in milliseconds. -/
def appendPause : Nat := 5

namespace Action

/-- An action as JSON tells it: an array of a name and what it needs. What has no name is a breakdown. -/
def ofJson (v : Json) : Action :=
  match v with
  | .array (.string name :: args) =>
    let first := Json.Access.asText (args.headD .null)
    match name, args with
    | "log", _ => .log first
    | "set", _ => .setState ⟨first⟩
    | "finish", _ => .finish
    | "reset", _ => .resetState
    | "clear_data", _ => .clearData
    | "set_data", [_, v] => .setData first v
    | "append", _ => .append first
    | "show", _ => .showField first
    | "sleep", [ms] => .pause (Json.Access.asNat ms)
    | "gate", _ => .permit
    | "fail", [_, t] => .fail (.ofKind first (Json.Access.asText t))
    | "crash", _ => .crash
    | "only", _ => .only first
    | _, _ => .panic
  | _ => .panic

/-- Does one action; the answer tells whether to go on. -/
def perform (message : Message) : Action → Handling Bool
  | log word => do
    Handling.ask (.note (word ++ ":" ++ message.content))
    return true
  | setState state => do
    message.conversation.setState state
    return true
  | finish => do
    message.conversation.finish
    return true
  | resetState => do
    message.conversation.resetState
    return true
  | clearData => do
    message.conversation.clearData
    return true
  | setData field value => do
    message.conversation.setData field value
    return true
  | append field => do
    let texts ← message.conversation.getAs field (Decode.list Decode.string)
    Handling.ask (.pause appendPause)
    message.conversation.setData field
      (.array ((texts.getD [] ++ [message.content]).map Json.string))
    return true
  | showField field => do
    let value ← message.conversation.getData field
    Handling.ask (.note (field ++ "=" ++ (value.getD .null).print))
    return true
  | pause milliseconds => do
    Handling.ask (.pause milliseconds)
    return true
  | permit => do
    Handling.ask .permit
    return true
  | fail reason => throw reason
  | panic => Handling.panic
  | crash => Handling.crash
  | only text => return message.content == text

end Action

def script : List Action → Handler
  | [], _ => return ()
  | action :: rest, message => do
    if ← action.perform message then script rest message

end Registrar
