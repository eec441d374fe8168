import Registrar.Proofs.Dispatch.Traffic

/-!
One worker per conversation.

* `one_worker_per_conversation`: whatever callers and workers do, two workers never have
  messages of one conversation in their hands; a worker at work is the one that the registry
  names; and a worker that the registry has lost, because it was taken out or because another
  one took its place, gets and handles nothing more.

The last part rests on `Change.gone_stays`. Removing an entry and entering another worker
for the same conversation does not bring the first one back, for no number is used twice.
-/

namespace Registrar

variable {Work : Type}

def Entry.worker : Entry → Nat
  | accepted id _ => id
  | handled id _ _ => id
  | lost id _ => id

namespace Dispatcher

variable {d d' : Dispatcher Work} {id : Nat} {w : Worker Work}

def Handles (d : Dispatcher Work) (id : Nat) (c : Conversation) : Prop :=
  ∃ w, d.worker? id = some w ∧ ∃ job ∈ w.phase.inHand, job.message.conversation = c

/-- What the journal tells about a worker, the latest first. -/
def entriesOf (d : Dispatcher Work) (id : Nat) : List Entry := d.journal.filter (·.worker = id)

theorem isOpen_of_mem_inHand {phase : Phase Work} {job : Job} (mem : job ∈ phase.inHand) :
    phase.isOpen = true := by
  cases phase with
  | idle since => cases mem
  | busy job work => rfl
  | retired => cases mem
  | killed => cases mem

/-- A worker at work is the one that the registry names for the conversation of its message. -/
theorem Consistent.registered_of_handles (h : Consistent d) {c : Conversation}
    (handles : d.Handles id c) : d.registry.get? c = some id := by
  obtain ⟨w, found, job, mem, rfl⟩ := handles
  have same := h.own found job (List.mem_append_left _ mem)
  rw [same]
  exact h.registered_of_open found (isOpen_of_mem_inHand mem)

theorem Deed.worker_of_mem {v? : Option (Worker Work)} {entry entry' : Option Nat}
    {written : List Entry} (deed : Deed id v? entry w entry' written) {e : Entry}
    (mem : e ∈ written) : e.worker = id := by
  cases deed with
  | put | welcome | finish =>
      rw [List.mem_singleton.mp mem]
      rfl
  | start | progress | retire => cases mem
  | kill c mailbox job work =>
      obtain ⟨job', _, rfl⟩ := List.mem_map.mp (List.mem_reverse.mp mem)
      rfl

/-- Nothing is told any more about a worker that takes no messages. -/
theorem Change.entriesOf_of_closed (step : Change d d') (found : d.worker? id = some w)
    (closed : w.phase.isOpen = false) : d'.entriesOf id = d.entriesOf id := by
  cases step with
  | stay => rfl
  | discard _ _ => rfl
  | turn i _ _ written deed turn =>
      have other : i ≠ id := by
        rintro rfl
        rw [found] at deed
        rw [deed.isOpen] at closed
        cases closed
      have silent : written.filter (·.worker = id) = [] := by
        refine List.filter_eq_nil_iff.mpr fun e mem => ?_
        rw [deed.worker_of_mem mem]
        simpa using other
      rw [entriesOf, turn.journal, List.filter_append, silent, List.nil_append]
      rfl

/-- A worker that the registry does not name: it takes no messages, and nothing is left with it. -/
structure Gone (d : Dispatcher Work) (id : Nat) (w : Worker Work) (entries : List Entry) : Prop where
  found : d.worker? id = some w
  unnamed : d.registry.get? w.conversation ≠ some id
  entries_eq : d.entriesOf id = entries

theorem Consistent.closed_of_unnamed (h : Consistent d) (found : d.worker? id = some w)
    (unnamed : d.registry.get? w.conversation ≠ some id) : w.phase.isOpen = false :=
  Bool.eq_false_iff.mpr fun isOpen => unnamed (h.registered_of_open found isOpen)

/-- A worker that is gone stays as it is. -/
theorem Change.gone_stays (step : Change d d') (h : Consistent d) {entries : List Entry}
    (gone : Gone d id w entries) : Gone d' id w entries := by
  have closed := h.closed_of_unnamed gone.found gone.unnamed
  exact ⟨step.closed_stays gone.found closed, step.unnamed_stays h gone.found gone.unnamed,
    (step.entriesOf_of_closed gone.found closed).trans gone.entries_eq⟩

theorem Changes.gone_stays (steps : Changes d d') (h : Consistent d) {entries : List Entry}
    (gone : Gone d id w entries) : Consistent d' ∧ Gone d' id w entries := by
  induction steps with
  | refl => exact ⟨h, gone⟩
  | tail _ step ih => exact ⟨step.consistent ih.1, step.gone_stays ih.1 ih.2⟩

end Dispatcher

open Dispatcher in
/-- At most one worker has a message of a conversation in its hands, and the registry names it. A
worker that the registry does not name (its entry was removed, or replaced) stays as it is whatever
happens later: it has no message, gets none, and nothing more is told about it. -/
theorem one_worker_per_conversation (events : List (Event Work)) :
    let d := (Traffic.run events).dispatcher
    (∀ c id id', d.Handles id c → d.Handles id' c → id = id') ∧
    (∀ c id, d.Handles id c → d.registry.get? c = some id) ∧
    ∀ id w, d.worker? id = some w → d.registry.get? w.conversation ≠ some id →
      w.phase.isOpen = false ∧ w.pending = [] ∧
      ∀ more, let d' := (Traffic.run (events ++ more)).dispatcher
        d'.worker? id = some w ∧ d'.registry.get? w.conversation ≠ some id ∧
          d'.entriesOf id = d.entriesOf id := by
  intro d
  have h : Consistent d := (Traffic.sound_run events).consistent
  refine ⟨fun c id id' handles handles' => ?_, fun c id => h.registered_of_handles, ?_⟩
  · have registered := h.registered_of_handles handles
    rw [h.registered_of_handles handles'] at registered
    cases registered
    rfl
  · intro id w found unnamed
    have closed := h.closed_of_unnamed found unnamed
    refine ⟨closed, h.pending_of_closed found closed, fun more => ?_⟩
    obtain ⟨_, gone⟩ := (Traffic.changes_run_append events more).gone_stays h
      ⟨found, unnamed, rfl⟩
    exact ⟨gone.found, gone.unnamed, gone.entries_eq⟩

end Registrar
