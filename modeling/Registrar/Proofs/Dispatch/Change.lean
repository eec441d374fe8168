import Registrar.Dispatch.Workers
import Mathlib.Logic.Relation

/-!
What one step can do to a dispatcher.

`Deed` is the table of what a worker can do in its turn, with what it finds, what it leaves
and what is written into the journal. A `Change` is the turn of one worker, or the removal
of a closed one from the registry, or nothing; every operation on a dispatcher is one
(`change_place`, `change_discard`, `change_start`, ...). Invariants are proved of `Change`
alone, so that they hold whoever takes the steps and in whatever order.

* `Change.closed_stays`: a worker that takes no messages any more never changes again. No
  worker is ever removed, so numbers are not used twice.
-/

namespace Registrar

variable {Work : Type}

def Phase.inHand : Phase Work → List Job
  | idle _ => []
  | busy job _ => [job]
  | retired => []
  | killed => []

def Phase.isKilled : Phase Work → Bool
  | killed => true
  | _ => false

/-- What a worker has still to handle, in the order in which it will. -/
def Worker.pending (w : Worker Work) : List Job := w.phase.inHand ++ w.mailbox

/-! ### Lists in which places are numbers -/

section Places

variable {α : Type} {l : List α} {i : Nat} {a : α}

theorem getElem?_set_of_some (found : l[i]? = some a) (b : α) (j : Nat) :
    (l.set i b)[j]? = if j = i then some b else l[j]? := by
  have bound : i < l.length := (List.getElem?_eq_some_iff.mp found).1
  rw [List.getElem?_set]
  by_cases same : i = j
  · subst same
    simp [bound]
  · simp [same, Ne.symm same]

/-- What is added last has the place that was free before. -/
theorem getElem?_concat (l : List α) (a : α) (j : Nat) :
    (l ++ [a])[j]? = if j = l.length then some a else l[j]? := by
  by_cases same : j = l.length
  · subst same
    simp
  · rw [if_neg same]
    rcases Nat.lt_or_gt_of_ne same with less | more
    · exact List.getElem?_append_left less
    · rw [List.getElem?_eq_none (by simp; omega), List.getElem?_eq_none (by omega)]

end Places

namespace Dispatcher

variable {d d' : Dispatcher Work} {id : Nat} {v w : Worker Work}

theorem worker?_setWorker (found : d.worker? id = some v) (w : Worker Work) (i : Nat) :
    (d.setWorker id w).worker? i = if i = id then some w else d.worker? i :=
  getElem?_set_of_some found w i

theorem worker?_length : d.worker? d.workers.length = none :=
  List.getElem?_eq_none (Nat.le_refl _)

def IsClosed (d : Dispatcher Work) (id : Nat) : Prop :=
  ∀ w, d.worker? id = some w → w.phase.isOpen = false

/-! ### Steps -/

/-- What worker `id` can do in its turn. It is looked up before, it is there after; the registry names
a worker for its conversation before, perhaps another one after; the entries are written. -/
inductive Deed (id : Nat) : Option (Worker Work) → Option Nat → Worker Work → Option Nat →
    List Entry → Prop where
  /-- It gets a message. -/
  | put {w : Worker Work} (job : Job) (isOpen : w.phase.isOpen = true)
      (same : job.message.conversation = w.conversation) :
      Deed id (some w) (some id) ⟨w.conversation, w.mailbox ++ [job], w.phase⟩ (some id)
        [.accepted id job]
  /-- It is started for a message, which it gets. -/
  | welcome (now : Nat) (job : Job) :
      Deed id none none ⟨job.message.conversation, [job], .idle now⟩ (some id) [.accepted id job]
  | start (c : Conversation) (job : Job) (rest : List Job) (since : Nat) (work : Work)
      (entry : Option Nat) :
      Deed id (some ⟨c, job :: rest, .idle since⟩) entry ⟨c, rest, .busy job work⟩ entry []
  | progress (c : Conversation) (mailbox : List Job) (job : Job) (work work' : Work)
      (entry : Option Nat) :
      Deed id (some ⟨c, mailbox, .busy job work⟩) entry ⟨c, mailbox, .busy job work'⟩ entry []
  | finish (c : Conversation) (mailbox : List Job) (job : Job) (work : Work) (now : Nat)
      (outcome : Outcome) (entry : Option Nat) :
      Deed id (some ⟨c, mailbox, .busy job work⟩) entry ⟨c, mailbox, .idle now⟩ entry
        [.handled id job outcome]
  | kill (c : Conversation) (mailbox : List Job) (job : Job) (work : Work) (entry : Option Nat) :
      Deed id (some ⟨c, mailbox, .busy job work⟩) entry ⟨c, [], .killed⟩ entry
        ((job :: mailbox).map (Entry.lost id)).reverse
  | retire (c : Conversation) (since : Nat) :
      Deed id (some ⟨c, [], .idle since⟩) (some id) ⟨c, [], .retired⟩ none []

/-- Worker `id` is now `w`, and its conversation has the entry `entry` in the registry; the other
workers and the other entries are as they were. -/
structure Turn (d d' : Dispatcher Work) (id : Nat) (w : Worker Work) (entry : Option Nat)
    (written : List Entry) : Prop where
  workers (i : Nat) : d'.worker? i = if i = id then some w else d.worker? i
  registry (c : Conversation) :
    d'.registry.get? c = if c = w.conversation then entry else d.registry.get? c
  journal : d'.journal = written ++ d.journal

/-- One indivisible step, or none. -/
inductive Change (d : Dispatcher Work) : Dispatcher Work → Prop where
  | stay : Change d d
  | turn {d' : Dispatcher Work} (id : Nat) (w : Worker Work) (entry : Option Nat)
      (written : List Entry)
      (deed : Deed id (d.worker? id) (d.registry.get? w.conversation) w entry written)
      (turn : Turn d d' id w entry written) : Change d d'
  /-- A worker that takes no messages is taken out of the registry. -/
  | discard {c : Conversation} {id : Nat} (registered : d.registry.get? c = some id)
      (closed : d.IsClosed id) : Change d { d with registry := d.registry.erase c }

abbrev Changes : Dispatcher Work → Dispatcher Work → Prop := Relation.ReflTransGen Change

/-! ### What each operation does -/

/-- A message goes into the mailbox of the registered worker, or starts a new one. -/
theorem place_cases {now : Nat} {job : Job} (placed : d.place now job = .ok d') :
    (∃ id w, d.registry.get? job.message.conversation = some id ∧ d.worker? id = some w ∧
      w.phase.isOpen = true ∧
      d' = { d.setWorker id ⟨w.conversation, w.mailbox ++ [job], w.phase⟩ with
        journal := .accepted id job :: d.journal }) ∨
    d.registry.get? job.message.conversation = none ∧
      d' = ⟨d.registry.insert job.message.conversation d.workers.length,
        d.workers ++ [⟨job.message.conversation, [job], .idle now⟩],
        .accepted d.workers.length job :: d.journal⟩ := by
  unfold place lookup at placed
  cases registered : d.registry.get? job.message.conversation with
  | some id =>
      simp only [registered] at placed
      cases found : d.worker? id with
      | none => simp [found] at placed
      | some w =>
          cases isOpen : w.phase.isOpen with
          | false => simp [found, isOpen] at placed
          | true =>
              simp only [found, isOpen, if_true, Except.ok.injEq] at placed
              exact .inl ⟨id, w, rfl, found, isOpen, placed.symm⟩
  | none =>
      simp only [registered, spawn, worker?, getElem?_concat, if_true, Phase.isOpen,
        setWorker, List.set_append_right _ _ (Nat.le_refl d.workers.length), Nat.sub_self,
        List.set_cons_zero, List.nil_append, Except.ok.injEq] at placed
      exact .inr ⟨rfl, placed.symm⟩

/-- A message is refused by a closed mailbox only, and by that of the registered worker. -/
theorem refused_of_place {now : Nat} {job : Job} (refused : d.place now job = .error id) :
    d.registry.get? job.message.conversation = some id ∧ d.IsClosed id := by
  unfold place lookup at refused
  cases registered : d.registry.get? job.message.conversation with
  | some id' =>
      simp only [registered] at refused
      cases found : d.worker? id' with
      | none =>
          simp only [found, Except.error.injEq] at refused
          subst refused
          exact ⟨rfl, fun w found' => by rw [found] at found'; cases found'⟩
      | some w =>
          cases isOpen : w.phase.isOpen with
          | true => simp [found, isOpen] at refused
          | false =>
              simp only [found, isOpen, Bool.false_eq_true, if_false, Except.error.injEq] at refused
              subst refused
              refine ⟨rfl, fun w' found' => ?_⟩
              rw [found] at found'
              cases found'
              exact isOpen
  | none =>
      simp [registered, spawn, worker?, Phase.isOpen] at refused

theorem discard_cases (d : Dispatcher Work) (c : Conversation) (id : Nat) :
    d.discard c id = d ∨ d.registry.get? c = some id ∧
      d.discard c id = { d with registry := d.registry.erase c } := by
  unfold discard
  split
  · rename_i registered
    exact .inr ⟨registered, rfl⟩
  · exact .inl rfl

theorem start_cases {begin : Message → Work} {job : Job}
    (started : d.start id begin = some (job, d')) :
    ∃ c rest since, d.worker? id = some ⟨c, job :: rest, .idle since⟩ ∧
      d' = d.setWorker id ⟨c, rest, .busy job (begin job.message)⟩ := by
  unfold start at started
  split at started
  · rename_i c job' rest since found
    cases started
    exact ⟨c, rest, since, found, rfl⟩
  · cases started

/-- Whoever has taken a message is at work on it. -/
theorem worker?_of_start {begin : Message → Work} {job : Job}
    (started : d.start id begin = some (job, d')) :
    ∃ c rest, d'.worker? id = some ⟨c, rest, .busy job (begin job.message)⟩ := by
  obtain ⟨c, rest, since, found, rfl⟩ := start_cases started
  exact ⟨c, rest, by rw [worker?_setWorker found, if_pos rfl]⟩

theorem progress_cases (d : Dispatcher Work) (id : Nat) (work : Work) :
    d.progress id work = d ∨ ∃ c mailbox job before,
      d.worker? id = some ⟨c, mailbox, .busy job before⟩ ∧
        d.progress id work = d.setWorker id ⟨c, mailbox, .busy job work⟩ := by
  unfold progress
  split
  · rename_i c mailbox job before found
    exact .inr ⟨c, mailbox, job, before, found, rfl⟩
  · exact .inl rfl

theorem finish_cases (d : Dispatcher Work) (now id : Nat) (outcome : Outcome) :
    d.finish now id outcome = d ∨ ∃ c mailbox job work,
      d.worker? id = some ⟨c, mailbox, .busy job work⟩ ∧
        d.finish now id outcome = { d.setWorker id ⟨c, mailbox, .idle now⟩ with
          journal := .handled id job outcome :: d.journal } := by
  unfold finish
  split
  · rename_i c mailbox job work found
    exact .inr ⟨c, mailbox, job, work, found, rfl⟩
  · exact .inl rfl

theorem kill_cases (d : Dispatcher Work) (id : Nat) :
    d.kill id = d ∨ ∃ c mailbox job work,
      d.worker? id = some ⟨c, mailbox, .busy job work⟩ ∧
        d.kill id = { d.setWorker id ⟨c, [], .killed⟩ with
          journal := ((job :: mailbox).map (Entry.lost id)).reverse ++ d.journal } := by
  unfold kill
  split
  · rename_i c mailbox job work found
    exact .inr ⟨c, mailbox, job, work, found, rfl⟩
  · exact .inl rfl

theorem retire_cases (d : Dispatcher Work) (id : Nat) :
    d.retire id = d ∨ ∃ c since, d.worker? id = some ⟨c, [], .idle since⟩ ∧
      d.registry.get? c = some id ∧
        d.retire id = { d.setWorker id ⟨c, [], .retired⟩ with registry := d.registry.erase c } := by
  unfold retire
  split
  · rename_i c since found
    split
    · rename_i registered
      exact .inr ⟨c, since, found, registered, rfl⟩
    · exact .inl rfl
  · exact .inl rfl

theorem registry_start {begin : Message → Work} {job : Job}
    (started : d.start id begin = some (job, d')) : d'.registry = d.registry := by
  obtain ⟨c, rest, since, _, rfl⟩ := start_cases started
  rfl

theorem registry_progress (d : Dispatcher Work) (id : Nat) (work : Work) :
    (d.progress id work).registry = d.registry := by
  rcases progress_cases d id work with same | ⟨_, _, _, _, _, after⟩
  · rw [same]
  · rw [after]
    rfl

theorem registry_finish (d : Dispatcher Work) (now id : Nat) (outcome : Outcome) :
    (d.finish now id outcome).registry = d.registry := by
  rcases finish_cases d now id outcome with same | ⟨_, _, _, _, _, after⟩
  · rw [same]
  · rw [after]
    rfl

theorem registry_kill (d : Dispatcher Work) (id : Nat) : (d.kill id).registry = d.registry := by
  rcases kill_cases d id with same | ⟨_, _, _, _, _, after⟩
  · rw [same]
  · rw [after]
    rfl

/-- Nobody becomes idle because somebody retires. -/
theorem idle_of_retire {i since : Nat} {c : Conversation} {mailbox : List Job}
    (found : (d.retire id).worker? i = some ⟨c, mailbox, .idle since⟩) :
    d.worker? i = some ⟨c, mailbox, .idle since⟩ := by
  rcases retire_cases d id with same | ⟨c', since', before, _, after⟩
  · rwa [same] at found
  · rw [after] at found
    have found : (d.setWorker id ⟨c', [], .retired⟩).worker? i = _ := found
    rw [worker?_setWorker before] at found
    split at found
    · cases found
    · exact found

/-! ### Every operation is a step -/

/-- A worker that is only replaced keeps its entry in the registry. -/
theorem turn_setWorker (found : d.worker? id = some v) (w : Worker Work) (written : List Entry) :
    Turn d { d.setWorker id w with journal := written ++ d.journal } id w
      (d.registry.get? w.conversation) written where
  workers := worker?_setWorker found w
  registry c := by
    split
    · rename_i same
      rw [same]
      rfl
    · rfl
  journal := rfl

theorem change_setWorker (written : List Entry) (found : d.worker? id = some v)
    (deed : ∀ entry, Deed id (some v) entry w entry written) :
    Change d { d.setWorker id w with journal := written ++ d.journal } :=
  .turn id w _ written (by rw [found]; exact deed _) (turn_setWorker found w written)

/-- A message is put into the mailbox of the worker that is registered, or of a new one. -/
theorem change_place {now : Nat} {job : Job} (placed : d.place now job = .ok d')
    (named : ∀ id w, d.registry.get? job.message.conversation = some id → d.worker? id = some w →
      w.conversation = job.message.conversation) : Change d d' := by
  rcases place_cases placed with ⟨id, w, registered, found, isOpen, rfl⟩ | ⟨absent, rfl⟩
  · have same := named id w registered found
    have before : d.registry.get? w.conversation = some id := same ▸ registered
    refine .turn id ⟨w.conversation, w.mailbox ++ [job], w.phase⟩ (some id) [.accepted id job] ?_ ?_
    · rw [found, before]
      exact .put job isOpen same.symm
    · rw [← before]
      exact turn_setWorker found _ [.accepted id job]
  · refine .turn d.workers.length ⟨job.message.conversation, [job], .idle now⟩
      (some d.workers.length) [.accepted d.workers.length job] ?_ ⟨?_, fun c => ?_, rfl⟩
    · rw [worker?_length, absent]
      exact .welcome now job
    · exact getElem?_concat d.workers _
    · exact Table.get?_insert d.registry _ c _

theorem change_discard (c : Conversation) (closed : d.IsClosed id) :
    Change d (d.discard c id) := by
  rcases discard_cases d c id with same | ⟨registered, after⟩
  · rw [same]
    exact .stay
  · rw [after]
    exact .discard registered closed

theorem change_start {begin : Message → Work} {job : Job}
    (started : d.start id begin = some (job, d')) : Change d d' := by
  obtain ⟨c, rest, since, found, rfl⟩ := start_cases started
  exact change_setWorker [] found (.start _ _ _ _ _)

theorem change_progress (id : Nat) (work : Work) : Change d (d.progress id work) := by
  rcases progress_cases d id work with same | ⟨c, mailbox, job, before, found, after⟩
  · rw [same]
    exact .stay
  · rw [after]
    exact change_setWorker [] found (.progress _ _ _ _ _)

theorem change_finish (now id : Nat) (outcome : Outcome) : Change d (d.finish now id outcome) := by
  rcases finish_cases d now id outcome with same | ⟨c, mailbox, job, work, found, after⟩
  · rw [same]
    exact .stay
  · rw [after]
    exact change_setWorker [_] found (.finish _ _ _ _ _ _)

theorem change_kill (id : Nat) : Change d (d.kill id) := by
  rcases kill_cases d id with same | ⟨c, mailbox, job, work, found, after⟩
  · rw [same]
    exact .stay
  · rw [after]
    exact change_setWorker _ found (.kill _ _ _ _)

theorem change_retire (id : Nat) : Change d (d.retire id) := by
  rcases retire_cases d id with same | ⟨c, since, found, registered, after⟩
  · rw [same]
    exact .stay
  · rw [after]
    refine .turn id ⟨c, [], .retired⟩ none [] ?_ ⟨worker?_setWorker found _, fun c' => ?_, rfl⟩
    · rw [found, registered]
      exact .retire c since
    · exact Table.get?_erase d.registry c c'

/-! ### What no step does -/

/-- It is only workers that take messages who have turns, and those who start. -/
theorem Deed.isOpen {entry entry' : Option Nat} {written : List Entry}
    (deed : Deed id (some v) entry w entry' written) : v.phase.isOpen = true := by
  cases deed with
  | put job isOpen same => exact isOpen
  | _ => rfl

/-- A worker that takes no messages any more never changes again. -/
theorem Change.closed_stays (step : Change d d') (found : d.worker? id = some v)
    (closed : v.phase.isOpen = false) : d'.worker? id = some v := by
  cases step with
  | stay => exact found
  | discard _ _ => exact found
  | turn i w entry written deed turn =>
      rw [turn.workers, if_neg]
      · exact found
      · rintro rfl
        rw [found] at deed
        rw [deed.isOpen] at closed
        cases closed

theorem Changes.closed_stays (steps : Changes d d') (found : d.worker? id = some v)
    (closed : v.phase.isOpen = false) : d'.worker? id = some v := by
  induction steps with
  | refl => exact found
  | tail _ step ih => exact step.closed_stays ih closed

end Dispatcher

end Registrar
