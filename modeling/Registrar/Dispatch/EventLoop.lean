import Registrar.Dispatch.Routing
import Registrar.Dispatch.Workers
import Registrar.Handler.Advance
/-!
A dispatcher at work on a clock.

One worker runs at a time, and runs until it has to wait; those that can go on do so in the order in
which they became able to. Time stands still while anyone can go on, and then moves to the next moment
at which a pause ends or an idle worker retires.
-/

namespace Registrar

/-- What a worker has still to do about a message. -/
abbrev Work := Program Outcome

/-- Something that an observer sees. -/
inductive Sighting where
  /-- A handler left a note. -/
  | noted (c : Conversation) (text : String)
  /-- A caller in the background was told how its message ended. -/
  | returned (message : Message) (outcome : Outcome)

/-- What does not change in the course of a run: how requests are answered at a time, the handlers,
and the time after which an idle worker retires. -/
structure Setting (σ : Type) where
  answer : Nat → σ → (r : Request) → r.Answer × σ
  route : Handler
  idleTimeout : Nat

/-- A dispatcher on a clock that counts milliseconds. -/
structure EventLoop (σ : Type) where
  now : Nat
  dispatcher : Dispatcher Work
  surroundings : σ
  /-- Permits at the gate that nobody has taken. -/
  permits : Nat
  /-- The workers that can go on, in the order in which they became able to. -/
  ready : List Nat
  /-- The ends of pauses, in the order in which the pauses began. -/
  sleeping : List (Nat × Nat)
  /-- The workers that wait at the gate, in the order in which they came. -/
  atGate : List Nat
  nextTicket : Nat
  /-- The callers in the background that have not been told yet. -/
  callers : List Nat
  /-- What an observer has seen, the latest first. -/
  sightings : List Sighting

namespace EventLoop

variable {σ : Type}

def start (surroundings : σ) : EventLoop σ :=
  ⟨0, .empty, surroundings, 0, [], [], [], 0, [], []⟩

def active (m : EventLoop σ) : Nat := m.dispatcher.active

/-! ### Running workers -/

/-- Runs a program until it has to wait, and enters its notes. -/
def runProgram {α : Type} (setting : Setting σ) (c : Conversation) (p : Program α)
    (m : EventLoop σ) : Stop α × EventLoop σ :=
  let (stop, scene) := p.advance (setting.answer m.now) ⟨m.surroundings, m.permits, []⟩
  (stop, { m with
    surroundings := scene.surroundings
    permits := scene.permits
    sightings := scene.notes.map (Sighting.noted c) ++ m.sightings })

/-- The outcome of a message whose handling ended with a value or in a breakdown that the worker
survives. -/
def outcomeOf (message : Message) : Ending Outcome → Option Outcome
  | .done outcome => some outcome
  | .panic => some (.error (Dispatcher.panicked message))
  | .crash => none

/-- Runs a worker on the message in its hands. The answer tells whether it can take the next. -/
def runJob (setting : Setting σ) (id : Nat) (job : Job) (work : Work) (m : EventLoop σ) :
    Bool × EventLoop σ :=
  let (stop, m) := m.runProgram setting job.message.conversation work
  match stop with
  | .ended ending =>
    match outcomeOf job.message ending with
    | some outcome => (true, { m with dispatcher := m.dispatcher.finish m.now id outcome })
    | none => (false, { m with dispatcher := m.dispatcher.kill id })
  | .asleep ms rest =>
    (false, { m with
      dispatcher := m.dispatcher.progress id rest
      sleeping := m.sleeping ++ [(m.now + ms, id)] })
  | .atGate rest =>
    (false, { m with
      dispatcher := m.dispatcher.progress id rest
      atGate := m.atGate ++ [id] })

/-- Lets a worker that is idle take up to a number of messages from its mailbox. -/
def takeMessages (setting : Setting σ) (id : Nat) : Nat → EventLoop σ → EventLoop σ
  | 0, m => m
  | n + 1, m =>
    match m.dispatcher.start id (fun message => (setting.route message).run) with
    | none => m
    | some (job, d) =>
      match ({ m with dispatcher := d } : EventLoop σ).runJob setting id job
          (setting.route job.message).run with
      | (true, m) => takeMessages setting id n m
      | (false, m) => m

def runWorker (setting : Setting σ) (m : EventLoop σ) (id : Nat) : EventLoop σ :=
  match m.dispatcher.worker? id with
  | some ⟨_, mailbox, .busy job work⟩ =>
    match m.runJob setting id job work with
    | (true, m) => takeMessages setting id mailbox.length m
    | (false, m) => m
  | some ⟨_, mailbox, .idle _⟩ => takeMessages setting id mailbox.length m
  | _ => m

/-- Tells the callers in the background whose messages have ended since the journal had a length. -/
def tellCallers (since : Nat) (m : EventLoop σ) : EventLoop σ :=
  let ended := (m.dispatcher.journal.take (m.dispatcher.journal.length - since)).reverse.filterMap
    fun entry =>
      match entry with
      | .accepted _ _ => none
      | .handled _ job outcome => some (job, outcome)
      | .lost _ job => some (job, .error (Dispatcher.stopped job.message))
  let told := ended.filter fun e => e.1.ticket ∈ m.callers
  { m with
    callers := m.callers.filter fun t => told.all fun e => e.1.ticket ≠ t
    sightings := (told.map fun e => Sighting.returned e.1.message e.2).reverse ++ m.sightings }

/-- The moment at which an idle worker retires if no message comes. -/
def retirement? (setting : Setting σ) (w : Worker Work) : Option Nat :=
  match w.phase, w.mailbox with
  | .idle since, [] => some (since + setting.idleTimeout)
  | _, _ => none

def retireIdle (setting : Setting σ) (m : EventLoop σ) : EventLoop σ :=
  let due := (m.dispatcher.workers.zipIdx.filter fun e =>
    match retirement? setting e.1 with
    | some t => t ≤ m.now
    | none => false).map Prod.snd
  { m with dispatcher := due.foldl (fun d id => d.retire id) m.dispatcher }

/-- Lets everyone who can go on do so. Time does not pass. -/
def settle (setting : Setting σ) (m : EventLoop σ) : EventLoop σ :=
  let since := m.dispatcher.journal.length
  let m' := m.ready.foldl (runWorker setting) { m with ready := [] }
  (m'.tellCallers since).retireIdle setting

/-! ### Time -/

def earlier : Option Nat → Option Nat → Option Nat
  | some a, some b => some (min a b)
  | some a, none => some a
  | none, b => b

def nextMoment? (setting : Setting σ) (m : EventLoop σ) : Option Nat :=
  let pauses := m.sleeping.map fun e => some e.1
  let retirements := m.dispatcher.workers.map (retirement? setting)
  (pauses ++ retirements).foldl earlier none

/-- Sets the clock, ends the pauses that are over, and lets everyone who can go on do so. -/
def moveTo (setting : Setting σ) (t : Nat) (m : EventLoop σ) : EventLoop σ :=
  let awake := (m.sleeping.filter fun e => e.1 ≤ t).mergeSort fun a b => a.1 ≤ b.1
  let m := { m with
    now := t
    ready := m.ready ++ awake.map Prod.snd
    sleeping := m.sleeping.filter fun e => ¬ e.1 ≤ t }
  m.settle setting

/-- Lets time pass until a condition holds, at most up to a limit. -/
def waitFor (setting : Setting σ) (holds : EventLoop σ → Bool) (limit now : Nat)
    (m : EventLoop σ) : EventLoop σ :=
  if holds m then m
  else
    match m.nextMoment? setting with
    | some t =>
      if _h : now < t ∧ t ≤ limit then waitFor setting holds limit t (m.moveTo setting t)
      else m.moveTo setting limit
    | none => m.moveTo setting limit
termination_by limit - now

def elapse (setting : Setting σ) (ms : Nat) (m : EventLoop σ) : EventLoop σ :=
  m.waitFor setting (fun _ => false) (m.now + ms) m.now

/-! ### Messages -/

/-- Puts a message into its mailbox; the answer is its ticket. -/
def enqueue (message : Message) (m : EventLoop σ) : Nat × EventLoop σ :=
  let d := m.dispatcher.enqueue m.now ⟨m.nextTicket, message⟩
  let woken : List Nat :=
    match d.registry.get? message.conversation with
    | some id =>
      match d.worker? id with
      | some ⟨_, [_], .idle _⟩ => [id]
      | _ => []
    | none => []
  (m.nextTicket, { m with
    dispatcher := d, ready := m.ready ++ woken, nextTicket := m.nextTicket + 1 })

def dispatch (m : EventLoop σ) (update : Update) : EventLoop σ :=
  match update.message with
  | some message => (m.enqueue message).2
  | none => m

/-- Queues the messages of a list of updates one after another. -/
def dispatchAll (setting : Setting σ) (updates : List Update) (m : EventLoop σ) : EventLoop σ :=
  (updates.foldl dispatch m).settle setting

/-- Queues a message for a caller in the background, who is told how it ends. -/
def spawn (setting : Setting σ) (message : Message) (m : EventLoop σ) : EventLoop σ :=
  let (ticket, m) := m.enqueue message
  ({ m with callers := m.callers ++ [ticket] } : EventLoop σ).settle setting

/-- How long a caller waits for its message to be handled: an hour. -/
def patience : Nat := 3600000

/-- Queues a message and waits until it has been handled. There is no answer if the caller runs out of
patience; the message stays where it is. -/
def handle (setting : Setting σ) (message : Message) (m : EventLoop σ) :
    Option Outcome × EventLoop σ :=
  let (ticket, m) := m.enqueue message
  let m := m.settle setting
  let m := m.waitFor setting (fun m => (m.dispatcher.answer? ticket).isSome) (m.now + patience) m.now
  (m.dispatcher.answer? ticket, m)

/-- Hands out permits: first to those who wait at the gate, the rest to those who come later. -/
def openGate (setting : Setting σ) (permits : Nat) (m : EventLoop σ) : EventLoop σ :=
  let m := { m with
    ready := m.ready ++ m.atGate.take permits
    atGate := m.atGate.drop permits
    permits := m.permits + (permits - m.atGate.length) }
  m.settle setting

/-- Runs a program outside any worker. It waits for time to pass like anyone else; there is no answer
if it breaks down or comes to a closed gate. -/
def perform {α : Type} (setting : Setting σ) (c : Conversation) :
    Program α → EventLoop σ → Option α × EventLoop σ
  | .done a, m => (some a, m)
  | .panic, m => (none, m)
  | .crash, m => (none, m)
  | .ask (.pause ms) next, m => perform setting c (next ()) (m.elapse setting ms)
  | .ask .permit next, m =>
    match m.permits with
    | 0 => (none, m)
    | n + 1 => perform setting c (next ()) { m with permits := n }
  | .ask (.note text) next, m =>
    perform setting c (next ()) { m with sightings := .noted c text :: m.sightings }
  | .ask r next, m =>
    let (a, s) := setting.answer m.now m.surroundings r
    perform setting c (next a) { m with surroundings := s }

end EventLoop

end Registrar
