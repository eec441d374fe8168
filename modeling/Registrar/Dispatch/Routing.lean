import Registrar.Data.Table
import Registrar.Handler.Context
/-!
Which handler a message goes to: a command to the handler registered for its name, any other text to
the handler registered for exactly the state of its conversation.
-/

namespace Registrar

structure CommandRoutes where
  handlers : Table String Handler

structure StateRoutes where
  handlers : Table State Handler

structure Routes where
  commands : CommandRoutes
  states : StateRoutes

namespace CommandRoutes

def empty : CommandRoutes := ⟨.empty⟩

/-- A command name without the slash in front of it, if it has one. -/
def bareName (name : String) : String :=
  match name.toList with
  | '/' :: cs => String.ofList cs
  | _ => name

/-- Registers a handler under a name, in place of one that was registered before. -/
def register (routes : CommandRoutes) (name : String) (handler : Handler) : CommandRoutes :=
  ⟨routes.handlers.insert (bareName name) handler⟩

def contains (routes : CommandRoutes) (name : String) : Bool := routes.handlers.contains name

def names (routes : CommandRoutes) : List String :=
  routes.handlers.keys.mergeSort fun a b => a ≤ b

def handle (routes : CommandRoutes) : Handler := fun message =>
  match message.command with
  | none => throw (.commandNotFound message.content)
  | some name =>
    match routes.handlers.get? name with
    | none => throw (.commandNotFound name)
    | some handler => handler message

end CommandRoutes

namespace StateRoutes

def empty : StateRoutes := ⟨.empty⟩

/-- Registers a handler for a state, in place of one that was registered before. -/
def register (routes : StateRoutes) (state : State) (handler : Handler) : StateRoutes :=
  ⟨routes.handlers.insert state handler⟩

def contains (routes : StateRoutes) (state : State) : Bool := routes.handlers.contains state

/-- Runs the handler of the state in which the message finds its conversation. -/
def handle (routes : StateRoutes) : Handler := fun message => do
  let state ← message.conversation.current
  match routes.handlers.get? state with
  | none => throw (.noHandlerForState state)
  | some handler => handler message

end StateRoutes

def Routes.handle (routes : Routes) : Handler := fun message =>
  if message.isCommand then routes.commands.handle message else routes.states.handle message

end Registrar
