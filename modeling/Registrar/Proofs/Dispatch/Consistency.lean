import Registrar.Proofs.Dispatch.Change

/-!
Registry and workers belong together.

`Consistent d` says that the workers that take messages are exactly those that the registry
names and that were not killed, and that a worker has only messages of its own conversation.
Every step keeps it (`Change.consistent`), and it is what mutual exclusion and delivery rest
on: the registry names one worker for a conversation, so no second one takes its messages.

* `Change.unnamed_stays`: a worker that the registry does not name is not named again.
-/

namespace Registrar.Dispatcher

variable {Work : Type} {d d' : Dispatcher Work} {id : Nat} {v w : Worker Work}
  {entry entry' : Option Nat} {written : List Entry}

/-- Registry and workers belong together. -/
structure Consistent (d : Dispatcher Work) : Prop where
  /-- The registry names a worker of the conversation, and not one that has retired. -/
  named {c : Conversation} {id : Nat} : d.registry.get? c = some id →
    ∃ w, d.worker? id = some w ∧ w.conversation = c ∧
      (w.phase.isOpen = true ∨ w.phase.isKilled = true)
  /-- A worker that takes messages is the one that its conversation has in the registry. -/
  registered_of_open {id : Nat} {w : Worker Work} : d.worker? id = some w →
    w.phase.isOpen = true → d.registry.get? w.conversation = some id
  /-- No message is left with a worker that takes none. -/
  pending_of_closed {id : Nat} {w : Worker Work} : d.worker? id = some w →
    w.phase.isOpen = false → w.pending = []
  /-- A worker has messages of its own conversation only. -/
  own {id : Nat} {w : Worker Work} : d.worker? id = some w →
    ∀ job ∈ w.pending, job.message.conversation = w.conversation

theorem consistent_empty : Consistent (empty : Dispatcher Work) where
  named found := by cases found
  registered_of_open found := by simp [empty, worker?] at found
  pending_of_closed found := by simp [empty, worker?] at found
  own found := by simp [empty, worker?] at found

/-- The conversation of the worker that the registry names for it. -/
theorem Consistent.conversation_eq (h : Consistent d) {c : Conversation}
    (registered : d.registry.get? c = some id) (found : d.worker? id = some w) :
    w.conversation = c := by
  obtain ⟨v, found', same, _⟩ := h.named registered
  rw [found] at found'
  cases found'
  exact same

/-! ### What a worker is after its turn -/

theorem Deed.conversation_eq (deed : Deed id (some v) entry w entry' written) :
    v.conversation = w.conversation := by
  cases deed <;> rfl

/-- A worker is registered after its turn if it takes messages, provided that it was before. -/
theorem Deed.registered (deed : Deed id v? entry w entry' written)
    (before : v?.isSome = true → entry = some id) (isOpen : w.phase.isOpen = true) :
    entry' = some id := by
  cases deed with
  | put | welcome => rfl
  | start | progress | finish => exact before rfl
  | kill | retire => cases isOpen

/-- The registry names no other worker after the turn, and not one that has retired. -/
theorem Deed.named (deed : Deed id v? entry w entry' written)
    (before : v?.isSome = true → entry = some id) {i : Nat} (after : entry' = some i) :
    i = id ∧ (w.phase.isOpen = true ∨ w.phase.isKilled = true) := by
  cases deed with
  | put job isOpen same =>
      cases after
      exact ⟨rfl, .inl isOpen⟩
  | welcome =>
      cases after
      exact ⟨rfl, .inl rfl⟩
  | start | progress | finish =>
      rw [before rfl] at after
      cases after
      exact ⟨rfl, .inl rfl⟩
  | kill =>
      rw [before rfl] at after
      cases after
      exact ⟨rfl, .inr rfl⟩
  | retire => cases after

theorem Deed.pending_of_closed (deed : Deed id v? entry w entry' written)
    (closed : w.phase.isOpen = false) : w.pending = [] := by
  cases deed with
  | put job isOpen same =>
      rw [isOpen] at closed
      cases closed
  | welcome | start | progress | finish => cases closed
  | kill | retire => rfl

theorem Deed.own (deed : Deed id v? entry w entry' written)
    (before : ∀ v, v? = some v → ∀ job ∈ v.pending, job.message.conversation = v.conversation) :
    ∀ job ∈ w.pending, job.message.conversation = w.conversation := by
  cases deed with
  | @put w job isOpen same =>
      intro job' mem
      have mem' : job' ∈ (w.phase.inHand ++ w.mailbox) ++ [job] := by
        rw [List.append_assoc]
        exact mem
      rcases List.mem_append.mp mem' with mem | mem
      · exact before w rfl job' mem
      · rw [List.mem_singleton.mp mem]
        exact same
  | welcome now job =>
      intro job' mem
      rw [List.mem_singleton.mp mem]
  | start | progress => exact fun job' mem => before _ rfl job' mem
  | finish => exact fun job' mem => before _ rfl job' (List.mem_cons_of_mem _ mem)
  | kill | retire => exact fun job' mem => absurd mem List.not_mem_nil

/-! ### Steps keep registry and workers together -/

/-- Whoever has a turn is the only one of its conversation that takes messages. -/
theorem Consistent.alone (h : Consistent d)
    (deed : Deed id (d.worker? id) (d.registry.get? w.conversation) w entry written) :
    (d.worker? id).isSome = true → d.registry.get? w.conversation = some id := by
  cases found : d.worker? id with
  | none => exact fun some => by cases some
  | some v =>
      rw [found] at deed
      rw [← deed.conversation_eq]
      exact fun _ => h.registered_of_open found deed.isOpen

theorem Consistent.turn (h : Consistent d)
    (deed : Deed id (d.worker? id) (d.registry.get? w.conversation) w entry written)
    (turn : Turn d d' id w entry written) : Consistent d' := by
  have alone := h.alone deed
  refine ⟨fun {c i} named => ?_, fun {i v} found isOpen => ?_, fun {i v} found closed => ?_,
    fun {i v} found => ?_⟩
  · rw [turn.registry] at named
    split at named
    · rename_i this_one
      obtain ⟨rfl, state⟩ := deed.named alone named
      exact ⟨w, by rw [turn.workers, if_pos rfl], this_one.symm, state⟩
    · rename_i other
      obtain ⟨v, found, conversation, state⟩ := h.named named
      refine ⟨v, ?_, conversation, state⟩
      rw [turn.workers, if_neg]
      · exact found
      · rintro rfl
        rw [found] at deed
        exact other (conversation.symm.trans deed.conversation_eq)
  · rw [turn.workers] at found
    split at found
    · rename_i this_one
      cases found
      rw [turn.registry, if_pos rfl, this_one]
      exact deed.registered alone isOpen
    · rename_i other
      have registered := h.registered_of_open found isOpen
      rw [turn.registry, if_neg]
      · exact registered
      · -- then the registry names this other worker, and the turn was a start
        intro same
        rw [same] at registered
        cases before : d.worker? id with
        | some _ =>
            rw [alone (by rw [before]; rfl)] at registered
            cases registered
            exact other rfl
        | none =>
            rw [before, registered] at deed
            cases deed
  · rw [turn.workers] at found
    split at found
    · cases found
      exact deed.pending_of_closed closed
    · exact h.pending_of_closed found closed
  · rw [turn.workers] at found
    split at found
    · cases found
      exact deed.own fun v found => h.own found
    · exact h.own found

/-- A worker may leave the registry once it takes no messages. -/
theorem Consistent.discard (h : Consistent d) {c : Conversation}
    (registered : d.registry.get? c = some id) (closed : d.IsClosed id) :
    Consistent { d with registry := d.registry.erase c } := by
  refine ⟨fun {c' i} named => ?_, fun {i v} found isOpen => ?_, h.pending_of_closed, h.own⟩
  · rw [Table.get?_erase] at named
    split at named
    · cases named
    · exact h.named named
  · have registered' := h.registered_of_open found isOpen
    rw [Table.get?_erase, if_neg]
    · exact registered'
    · intro this_one
      rw [this_one, registered] at registered'
      cases registered'
      rw [closed v found] at isOpen
      cases isOpen

/-- Every step keeps registry and workers together. -/
theorem Change.consistent (step : Change d d') (h : Consistent d) : Consistent d' := by
  cases step with
  | stay => exact h
  | turn id w entry written deed turn => exact h.turn deed turn
  | discard registered closed => exact h.discard registered closed

/-- A worker that the registry does not name is not named again: the numbers of new workers are
new. -/
theorem Change.unnamed_stays (step : Change d d') (h : Consistent d)
    (found : d.worker? id = some v) (unnamed : d.registry.get? v.conversation ≠ some id) :
    d'.registry.get? v.conversation ≠ some id := by
  have closed : v.phase.isOpen = false :=
    Bool.eq_false_iff.mpr fun isOpen => unnamed (h.registered_of_open found isOpen)
  intro named
  cases step with
  | stay => exact unnamed named
  | discard registered _ =>
      rw [Table.get?_erase] at named
      split at named
      · cases named
      · exact unnamed named
  | turn id w entry written deed turn =>
      rw [turn.registry] at named
      split at named
      · obtain ⟨rfl, _⟩ := deed.named (h.alone deed) named
        rw [found] at deed
        rw [deed.isOpen] at closed
        cases closed
      · exact unnamed named

end Registrar.Dispatcher
