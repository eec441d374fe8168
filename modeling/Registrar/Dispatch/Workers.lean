import Registrar.Data.Table
import Registrar.Chat.Message
import Registrar.Error
/-!
One worker per conversation.

Messages of a conversation wait in the mailbox of its worker and are handled one at a time. The
registry says which worker a conversation has; a message for a conversation without one starts a
worker. A worker that has been idle for the idle timeout retires, and leaves the registry in the same
step; one that is killed leaves its messages unhandled and stays in the registry until the next
message comes upon its closed mailbox.

Every operation is one indivisible step. `Dispatcher.enqueue` composes the steps by which a message
finds its worker.
-/

namespace Registrar

/-- A message on its way, with a number that no other message has. -/
structure Job where
  ticket : Nat
  message : Message
deriving DecidableEq

inductive Phase (Work : Type) where
  /-- Waiting for a message since a time. -/
  | idle (since : Nat)
  /-- At work on a message. -/
  | busy (job : Job) (work : Work)
  /-- Gone after a long idle time. -/
  | retired
  /-- Gone in the middle of a message. -/
  | killed

/-- A worker, the conversation it was started for, and the messages that wait for it. -/
structure Worker (Work : Type) where
  conversation : Conversation
  mailbox : List Job
  phase : Phase Work

/-- How the handling of a message ends. -/
abbrev Outcome := Except BotError Unit

/-- What became of a message. -/
inductive Entry where
  /-- It was put into a worker's mailbox. -/
  | accepted (worker : Nat) (job : Job)
  /-- It was handled, with this outcome. -/
  | handled (worker : Nat) (job : Job) (outcome : Outcome)
  /-- Its worker was killed before it was handled. -/
  | lost (worker : Nat) (job : Job)

/-- Workers by number, the registry, and a journal with the latest entry first. -/
structure Dispatcher (Work : Type) where
  registry : Table Conversation Nat
  workers : List (Worker Work)
  journal : List Entry

def Phase.isOpen {Work : Type} : Phase Work → Bool
  | idle _ => true
  | busy _ _ => true
  | retired => false
  | killed => false

namespace Dispatcher

variable {Work : Type}

def empty : Dispatcher Work := ⟨.empty, [], []⟩

def active (d : Dispatcher Work) : Nat := d.registry.size

def worker? (d : Dispatcher Work) (id : Nat) : Option (Worker Work) := d.workers[id]?

def setWorker (d : Dispatcher Work) (id : Nat) (w : Worker Work) : Dispatcher Work :=
  { d with workers := d.workers.set id w }

def spawn (now : Nat) (c : Conversation) (d : Dispatcher Work) : Nat × Dispatcher Work :=
  let id := d.workers.length
  (id, { d with
    registry := d.registry.insert c id
    workers := d.workers ++ [⟨c, [], .idle now⟩] })

/-- The worker registered for a conversation; one is started if there is none. -/
def lookup (now : Nat) (c : Conversation) (d : Dispatcher Work) : Nat × Dispatcher Work :=
  match d.registry.get? c with
  | some id => (id, d)
  | none => d.spawn now c

/-- Puts a message into the mailbox of its conversation's worker. It is an error, told with the
worker's number, if that mailbox is closed. -/
def place (now : Nat) (job : Job) (d : Dispatcher Work) : Except Nat (Dispatcher Work) :=
  let (id, d) := d.lookup now job.message.conversation
  match d.worker? id with
  | some w =>
    if w.phase.isOpen then
      let d := d.setWorker id { w with mailbox := w.mailbox ++ [job] }
      .ok { d with journal := .accepted id job :: d.journal }
    else .error id
  | none => .error id

/-- Takes a conversation out of the registry if it still has the worker with this number. -/
def discard (c : Conversation) (id : Nat) (d : Dispatcher Work) : Dispatcher Work :=
  if d.registry.get? c = some id then { d with registry := d.registry.erase c } else d

/-- Puts a message into the mailbox of its conversation's worker, or of a fresh one if the mailbox is
closed. -/
def enqueue (now : Nat) (job : Job) (d : Dispatcher Work) : Dispatcher Work :=
  match d.place now job with
  | .ok d => d
  | .error id =>
    match (d.discard job.message.conversation id).place now job with
    | .ok d => d
    | .error _ => d

/-- An idle worker takes the first message from its mailbox. -/
def start (id : Nat) (begin : Message → Work) (d : Dispatcher Work) :
    Option (Job × Dispatcher Work) :=
  match d.worker? id with
  | some ⟨c, job :: rest, .idle _⟩ =>
    some (job, d.setWorker id ⟨c, rest, .busy job (begin job.message)⟩)
  | _ => none

/-- A worker at work gets on with it. -/
def progress (id : Nat) (work : Work) (d : Dispatcher Work) : Dispatcher Work :=
  match d.worker? id with
  | some ⟨c, mailbox, .busy job _⟩ => d.setWorker id ⟨c, mailbox, .busy job work⟩
  | _ => d

/-- A worker is done with a message and waits for the next. -/
def finish (now id : Nat) (outcome : Outcome) (d : Dispatcher Work) : Dispatcher Work :=
  match d.worker? id with
  | some ⟨c, mailbox, .busy job _⟩ =>
    let d := d.setWorker id ⟨c, mailbox, .idle now⟩
    { d with journal := .handled id job outcome :: d.journal }
  | _ => d

/-- A worker is killed while at work. The message in its hands and those in its mailbox are lost. -/
def kill (id : Nat) (d : Dispatcher Work) : Dispatcher Work :=
  match d.worker? id with
  | some ⟨c, mailbox, .busy job _⟩ =>
    let d := d.setWorker id ⟨c, [], .killed⟩
    { d with journal := ((job :: mailbox).map (Entry.lost id)).reverse ++ d.journal }
  | _ => d

/-- An idle worker retires, provided that it is registered and nothing waits for it. -/
def retire (id : Nat) (d : Dispatcher Work) : Dispatcher Work :=
  match d.worker? id with
  | some ⟨c, [], .idle _⟩ =>
    if d.registry.get? c = some id then
      let d := d.setWorker id ⟨c, [], .retired⟩
      { d with registry := d.registry.erase c }
    else d
  | _ => d

/-- Why a message was not handled although it was accepted. -/
def stopped (message : Message) : BotError :=
  .dispatch ("conversation worker stopped before handling message " ++ message.id)

/-- Why a message counts as failed although its handler gave no reason. -/
def panicked (message : Message) : BotError :=
  .dispatch ("handler panicked on message " ++ message.id)

/-- What the caller who brought a message is told, according to one entry. -/
def Entry.answer? (ticket : Nat) : Entry → Option Outcome
  | .accepted _ _ => none
  | .handled _ job outcome => if job.ticket = ticket then some outcome else none
  | .lost _ job => if job.ticket = ticket then some (.error (stopped job.message)) else none

/-- What the caller who brought a message is told, once that is known. -/
def answer? (d : Dispatcher Work) (ticket : Nat) : Option Outcome :=
  d.journal.findSome? (Entry.answer? ticket)

end Dispatcher

end Registrar
