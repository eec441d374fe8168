import Registrar.Proofs.Dispatch.Consistency
import Mathlib.Data.List.Induction

/-!
Many callers and many workers at once.

A caller brings one message. It tries to put it into the mailbox of the worker that its
conversation has, which starts one if there is none; if the mailbox is closed, it takes that
worker out of the registry, unless somebody else has replaced it meanwhile, and tries again.
Between any two of these steps, everyone else may take steps of their own: other callers,
workers at work, workers whose idle time is over, workers that are killed.

`Traffic.run` takes the steps of any list of events; an event for which the time is not ripe
does nothing. So a statement about every list of events is one about every interleaving and
about every state that is reached.

* `sound_run`: registry and workers belong together, and a mailbox that refused a caller
  belongs to a worker that was killed.
* `changes_run_append`: what a later part of a run does to the dispatcher is a run of
  `Change`s.
-/

namespace Registrar

/-- How far a caller has come. -/
inductive Stage where
  /-- It is about to try. -/
  | seeking
  /-- It found the mailbox of this worker closed. -/
  | refused (worker : Nat)
  /-- Its message is in a mailbox. -/
  | served
deriving DecidableEq

/-- Somebody who brings a message. -/
structure Caller where
  message : Message
  stage : Stage
deriving DecidableEq

/-- A dispatcher and everyone who has called it so far. A caller's place in the list is the ticket of
its message. -/
structure Traffic (Work : Type) where
  dispatcher : Dispatcher Work
  callers : List Caller

/-- Something that can happen next. -/
inductive Event (Work : Type) where
  /-- A caller comes. -/
  | call (message : Message)
  /-- A caller tries to put its message into a mailbox. -/
  | send (now ticket : Nat)
  /-- A caller that was refused takes the closed worker out of the registry. -/
  | discard (ticket : Nat)
  /-- An idle worker takes the next message from its mailbox. -/
  | start (worker : Nat) (begin : Message → Work)
  /-- A worker gets on with its message. -/
  | progress (worker : Nat) (work : Work)
  /-- A worker is done with its message: the handler succeeded, failed or broke down. -/
  | finish (now worker : Nat) (outcome : Outcome)
  /-- A worker is killed by its message. -/
  | kill (worker : Nat)
  /-- The idle time of a worker is over. -/
  | retire (worker : Nat)

namespace Traffic

variable {Work : Type} {t : Traffic Work}

def start : Traffic Work := ⟨.empty, []⟩

/-- A caller tries to put its message into a mailbox. -/
def send (now ticket : Nat) (t : Traffic Work) : Traffic Work :=
  match t.callers[ticket]? with
  | some ⟨message, .seeking⟩ =>
    match t.dispatcher.place now ⟨ticket, message⟩ with
    | .ok d => ⟨d, t.callers.set ticket ⟨message, .served⟩⟩
    | .error id => ⟨t.dispatcher, t.callers.set ticket ⟨message, .refused id⟩⟩
  | _ => t

/-- A caller that was refused takes the closed worker out of the registry. -/
def discard (ticket : Nat) (t : Traffic Work) : Traffic Work :=
  match t.callers[ticket]? with
  | some ⟨message, .refused id⟩ =>
    ⟨t.dispatcher.discard message.conversation id, t.callers.set ticket ⟨message, .seeking⟩⟩
  | _ => t

def step (t : Traffic Work) : Event Work → Traffic Work
  | .call message => { t with callers := t.callers ++ [⟨message, .seeking⟩] }
  | .send now ticket => t.send now ticket
  | .discard ticket => t.discard ticket
  | .start id begin =>
    match t.dispatcher.start id begin with
    | some (_, d) => { t with dispatcher := d }
    | none => t
  | .progress id work => { t with dispatcher := t.dispatcher.progress id work }
  | .finish now id outcome => { t with dispatcher := t.dispatcher.finish now id outcome }
  | .kill id => { t with dispatcher := t.dispatcher.kill id }
  | .retire id => { t with dispatcher := t.dispatcher.retire id }

def run (events : List (Event Work)) : Traffic Work := events.foldl step start

theorem run_append (events more : List (Event Work)) :
    run (events ++ more) = more.foldl step (run events) := List.foldl_append

theorem run_concat (events : List (Event Work)) (e : Event Work) :
    run (events ++ [e]) = (run events).step e := run_append events [e]

/-! ### Callers find the mailboxes of killed workers closed, and of no others -/

/-- Registry and workers belong together, and a caller was refused by a worker that was killed. -/
structure Sound (t : Traffic Work) : Prop where
  consistent : t.dispatcher.Consistent
  refused {ticket id : Nat} {message : Message} :
    t.callers[ticket]? = some ⟨message, .refused id⟩ →
      ∃ w, t.dispatcher.worker? id = some w ∧ w.conversation = message.conversation ∧
        w.phase.isKilled = true

theorem sound_start : Sound (start : Traffic Work) where
  consistent := Dispatcher.consistent_empty
  refused found := by simp [start] at found

theorem isOpen_of_isKilled {phase : Phase Work} (killed : phase.isKilled = true) :
    phase.isOpen = false := by
  cases phase <;> first | rfl | cases killed

theorem Sound.isClosed_of_refused (h : Sound t) {ticket id : Nat} {message : Message}
    (refused : t.callers[ticket]? = some ⟨message, .refused id⟩) : t.dispatcher.IsClosed id := by
  obtain ⟨w, found, _, killed⟩ := h.refused refused
  intro w' found'
  rw [found] at found'
  cases found'
  exact isOpen_of_isKilled killed

/-- A mailbox that refuses a message belongs to a worker of its conversation that was killed. -/
theorem Sound.killed_of_place (h : Sound t) {now id : Nat} {job : Job}
    (refused : t.dispatcher.place now job = .error id) :
    ∃ w, t.dispatcher.worker? id = some w ∧ w.conversation = job.message.conversation ∧
      w.phase.isKilled = true := by
  obtain ⟨registered, closed⟩ := Dispatcher.refused_of_place refused
  obtain ⟨w, found, same, isOpen | killed⟩ := h.consistent.named registered
  · rw [closed w found] at isOpen
    cases isOpen
  · exact ⟨w, found, same, killed⟩

/-! ### Every event is a step of the dispatcher -/

theorem Sound.change_send (h : Sound t) (now ticket : Nat) :
    Dispatcher.Change t.dispatcher (t.send now ticket).dispatcher := by
  unfold send
  split
  · split
    · rename_i placed
      exact Dispatcher.change_place placed fun id w => h.consistent.conversation_eq
    · exact .stay
  · exact .stay

theorem Sound.change_step (h : Sound t) (e : Event Work) :
    Dispatcher.Change t.dispatcher (t.step e).dispatcher := by
  cases e with
  | call message => exact .stay
  | send now ticket => exact h.change_send now ticket
  | discard ticket =>
      simp only [step, discard]
      split
      · rename_i refused
        exact Dispatcher.change_discard _ (h.isClosed_of_refused refused)
      · exact .stay
  | start id begin =>
      simp only [step]
      split
      · rename_i started
        exact Dispatcher.change_start started
      · exact .stay
  | progress id work => exact Dispatcher.change_progress id work
  | finish now id outcome => exact Dispatcher.change_finish now id outcome
  | kill id => exact Dispatcher.change_kill id
  | retire id => exact Dispatcher.change_retire id

/-- A worker that was killed stays so. -/
theorem Sound.killed_step (h : Sound t) (e : Event Work) {id : Nat} {w : Worker Work}
    (found : t.dispatcher.worker? id = some w) (killed : w.phase.isKilled = true) :
    (t.step e).dispatcher.worker? id = some w :=
  (h.change_step e).closed_stays found (isOpen_of_isKilled killed)

/-! ### What becomes of callers -/

/-- A caller that tries is served, or refused; whoever does not try is left alone. -/
theorem send_cases (t : Traffic Work) (now ticket : Nat) :
    t.send now ticket = t ∨
    (∃ message d, t.callers[ticket]? = some ⟨message, .seeking⟩ ∧
      t.dispatcher.place now ⟨ticket, message⟩ = .ok d ∧
      t.send now ticket = ⟨d, t.callers.set ticket ⟨message, .served⟩⟩) ∨
    ∃ message id, t.callers[ticket]? = some ⟨message, .seeking⟩ ∧
      t.dispatcher.place now ⟨ticket, message⟩ = .error id ∧
      t.send now ticket = ⟨t.dispatcher, t.callers.set ticket ⟨message, .refused id⟩⟩ := by
  unfold send
  split
  · rename_i message seeking
    split
    · rename_i d placed
      exact .inr (.inl ⟨message, d, seeking, placed, rfl⟩)
    · rename_i id refused
      exact .inr (.inr ⟨message, id, seeking, refused, rfl⟩)
  · exact .inl rfl

theorem discard_cases (t : Traffic Work) (ticket : Nat) :
    t.discard ticket = t ∨
    ∃ message id, t.callers[ticket]? = some ⟨message, .refused id⟩ ∧
      t.discard ticket = ⟨t.dispatcher.discard message.conversation id,
        t.callers.set ticket ⟨message, .seeking⟩⟩ := by
  unfold discard
  split
  · rename_i message id refused
    exact .inr ⟨message, id, refused, rfl⟩
  · exact .inl rfl

/-- What workers do leaves the callers alone. -/
theorem callers_step_start (t : Traffic Work) (id : Nat) (begin : Message → Work) :
    (t.step (.start id begin)).callers = t.callers := by
  simp only [step]
  split <;> rfl

/-- A caller that was refused by a worker after an event was so before, or has just found the mailbox
of that worker closed. -/
theorem refused_step (e : Event Work) {ticket id : Nat} {message : Message}
    (refused : (t.step e).callers[ticket]? = some ⟨message, .refused id⟩) :
    t.callers[ticket]? = some ⟨message, .refused id⟩ ∨
      (t.step e).dispatcher = t.dispatcher ∧
        ∃ now, t.dispatcher.place now ⟨ticket, message⟩ = .error id := by
  cases e with
  | call message' =>
      rw [show (t.step (.call message')).callers = t.callers ++ [⟨message', .seeking⟩] from rfl,
        getElem?_concat] at refused
      split at refused
      · cases refused
      · exact .inl refused
  | send now ticket' =>
      rcases send_cases t now ticket' with same | ⟨m, d, seeking, placed, after⟩ |
        ⟨m, id', seeking, closed, after⟩
      · rw [show t.step (.send now ticket') = t from same] at refused
        exact .inl refused
      · rw [show t.step (.send now ticket') = _ from after, getElem?_set_of_some seeking] at refused
        split at refused
        · cases refused
        · exact .inl refused
      · rw [show t.step (.send now ticket') = _ from after] at refused ⊢
        rw [getElem?_set_of_some seeking] at refused
        split at refused
        · rename_i this_one
          cases refused
          subst this_one
          exact .inr ⟨rfl, now, closed⟩
        · exact .inl refused
  | discard ticket' =>
      rcases discard_cases t ticket' with same | ⟨m, id', waiting, after⟩
      · rw [show t.step (.discard ticket') = t from same] at refused
        exact .inl refused
      · rw [show t.step (.discard ticket') = _ from after, getElem?_set_of_some waiting] at refused
        split at refused
        · cases refused
        · exact .inl refused
  | start id' begin =>
      rw [callers_step_start] at refused
      exact .inl refused
  | progress | finish | kill | retire => exact .inl refused

theorem Sound.step (h : Sound t) (e : Event Work) : Sound (t.step e) where
  consistent := (h.change_step e).consistent h.consistent
  refused found := by
    rcases refused_step e found with before | ⟨same, now, closed⟩
    · obtain ⟨w, found, conversation, killed⟩ := h.refused before
      exact ⟨w, h.killed_step e found killed, conversation, killed⟩
    · rw [same]
      exact h.killed_of_place closed

/-- Whatever happens, registry and workers belong together, and callers are refused by workers that
were killed. -/
theorem sound_run (events : List (Event Work)) : Sound (run events) := by
  induction events using List.reverseRecOn with
  | nil => exact sound_start
  | append_singleton events e ih =>
      rw [run_concat]
      exact ih.step e

/-- What happens later is a run of steps of the dispatcher. -/
theorem changes_run_append (events more : List (Event Work)) :
    Dispatcher.Changes (run events).dispatcher (run (events ++ more)).dispatcher := by
  induction more using List.reverseRecOn with
  | nil => rw [List.append_nil]
  | append_singleton more e ih =>
      rw [← List.append_assoc, run_concat]
      exact ih.tail ((sound_run _).change_step e)

end Traffic

end Registrar
