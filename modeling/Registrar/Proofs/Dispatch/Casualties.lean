import Registrar.Proofs.Dispatch.Clockwork
import Registrar.Proofs.Dispatch.Delivery
import Registrar.Proofs.Dispatch.Exclusion
import Mathlib.Data.List.Perm.Basic

/-!
What a killed worker takes with it, and what it leaves behind.

A worker that is killed loses the message in its hands and those in its mailbox, and no message is
lost in another way (`Change.of_killed`, `Change.of_lost`). Other conversations do not notice
(`SameElsewhere`), and its own goes on with a worker that did not exist at that time
(`Consistent.fresh_of_open`).

* `Traffic.settlements_nodup`: a message is handled once or lost once, and not both.
* `Traffic.not_pending_of_settled`: and nobody has it then any more.
-/

namespace Registrar

variable {W : Type}

def Entry.job : Entry → Job
  | accepted _ job => job
  | handled _ job _ => job
  | lost _ job => job

/-- An entry tells that its message was accepted, or that it was settled. -/
theorem Entry.accepted?_or_settled? (e : Entry) :
    e.accepted? = some e.job ∨ e.settled? = some e.job := by
  cases e with
  | accepted => exact .inl rfl
  | handled | lost => exact .inr rfl

namespace Dispatcher

variable {d d' d'' : Dispatcher W} {id : Nat} {v w : Worker W} {v? : Option (Worker W)}
  {entry entry' : Option Nat} {written : List Entry} {c : Conversation}

/-! ### One turn -/

/-- What a worker has to do after its turn it had to do before, or it has just accepted it. -/
theorem Deed.pending_cases (deed : Deed id v? entry w entry' written) {job : Job}
    (mem : job ∈ w.pending) :
    (∃ v, v? = some v ∧ job ∈ v.pending) ∨ .accepted id job ∈ written := by
  cases deed with
  | @put v job' isOpen same =>
      have mem' : job ∈ v.pending ++ [job'] := by
        rw [Worker.pending, List.append_assoc]
        exact mem
      rcases List.mem_append.mp mem' with old | new
      · exact .inl ⟨v, rfl, old⟩
      · rw [List.mem_singleton.mp new]
        exact .inr List.mem_cons_self
  | welcome now job' =>
      rw [List.mem_singleton.mp mem]
      exact .inr List.mem_cons_self
  | start | progress => exact .inl ⟨_, rfl, mem⟩
  | finish => exact .inl ⟨_, rfl, List.mem_cons_of_mem _ mem⟩
  | kill | retire => cases mem

/-- Whoever is killed was at work on a message, and loses all that it had to do. -/
theorem Deed.of_killed (deed : Deed id v? entry w entry' written)
    (killed : w.phase.isKilled = true) :
    ∃ v, v? = some v ∧ v.conversation = w.conversation ∧ v.phase.isOpen = true ∧
      v.phase.isKilled = false ∧ v.pending ≠ [] ∧
        written = (v.pending.map (Entry.lost id)).reverse := by
  cases deed with
  | put job isOpen same =>
      rw [Traffic.isOpen_of_isKilled killed] at isOpen
      cases isOpen
  | welcome | start | progress | finish | retire => cases killed
  | kill c mailbox job work => exact ⟨_, rfl, rfl, rfl, rfl, List.cons_ne_nil _ _, rfl⟩

/-- A turn tells of messages of the conversation of its worker only. -/
theorem Deed.conversation_of_written (deed : Deed id v? entry w entry' written)
    (own : ∀ v, v? = some v → ∀ job ∈ v.pending, job.message.conversation = v.conversation)
    {e : Entry} (mem : e ∈ written) : e.job.message.conversation = w.conversation :=
  deed.conversation_of_mem own mem e.accepted?_or_settled?

/-! ### Whose messages a worker has -/

/-- A worker has only messages that were entered as accepted by it. -/
def Receipted (d : Dispatcher W) : Prop :=
  ∀ id w, d.worker? id = some w → ∀ job ∈ w.pending, .accepted id job ∈ d.journal

theorem Change.receipted (step : Change d d') (h : Receipted d) : Receipted d' := by
  cases step with
  | stay => exact h
  | discard => exact h
  | turn id w entry written deed turn =>
      intro i v found job mem
      rw [turn.workers] at found
      rw [turn.journal]
      split at found
      · rename_i this_one
        cases found
        subst this_one
        rcases deed.pending_cases mem with ⟨v, before, mem'⟩ | new
        · exact List.mem_append_right _ (h i v before job mem')
        · exact List.mem_append_left _ new
      · exact List.mem_append_right _ (h i v found job mem)

/-- Entries are never removed. -/
theorem Change.journal_suffix (step : Change d d') : d.journal <:+ d'.journal := by
  cases step with
  | stay => exact List.suffix_rfl
  | discard => exact List.suffix_rfl
  | turn id w entry written deed turn => exact ⟨written, turn.journal.symm⟩

/-! ### Other conversations -/

structure SameElsewhere (c : Conversation) (d d' : Dispatcher W) : Prop where
  registry {c' : Conversation} : c' ≠ c → d'.registry.get? c' = d.registry.get? c'
  workers {id : Nat} {w : Worker W} : w.conversation ≠ c →
    (d'.worker? id = some w ↔ d.worker? id = some w)
  journal : ∃ written, d'.journal = written ++ d.journal ∧
    ∀ e ∈ written, e.job.message.conversation = c

theorem SameElsewhere.refl (c : Conversation) (d : Dispatcher W) : SameElsewhere c d d :=
  ⟨fun _ => rfl, fun _ => Iff.rfl, [], rfl, fun _ mem => by cases mem⟩

theorem SameElsewhere.trans (one : SameElsewhere c d d') (other : SameElsewhere c d' d'') :
    SameElsewhere c d d'' := by
  obtain ⟨first, journal, told⟩ := one.journal
  obtain ⟨second, journal', told'⟩ := other.journal
  refine ⟨fun ne => (other.registry ne).trans (one.registry ne),
    fun ne => (other.workers ne).trans (one.workers ne), second ++ first, ?_, fun e mem => ?_⟩
  · rw [journal', journal, List.append_assoc]
  · exact (List.mem_append.mp mem).elim (told' e) (told e)

/-- A turn is nobody's business but that of the conversation of its worker. -/
theorem Consistent.sameElsewhere (h : Consistent d)
    (deed : Deed id (d.worker? id) (d.registry.get? w.conversation) w entry' written)
    (turn : Turn d d' id w entry' written) : SameElsewhere w.conversation d d' := by
  refine ⟨fun ne => ?_, fun {i v} ne => ?_, written, turn.journal, fun e =>
    deed.conversation_of_written fun v found => h.own found⟩
  · rw [turn.registry, if_neg ne]
  · rw [turn.workers]
    split
    · rename_i this_one
      subst this_one
      -- whatever worker `id` is, before and after it is one of this conversation
      constructor
      · intro after
        cases after
        exact absurd rfl ne
      · intro before
        rw [before] at deed
        exact absurd deed.conversation_eq ne
    · exact Iff.rfl

theorem sameElsewhere_discard (d : Dispatcher W) (c : Conversation) (id : Nat) :
    SameElsewhere c d (d.discard c id) := by
  rcases discard_cases d c id with same | ⟨_, after⟩
  · rw [same]
    exact .refl c d
  · rw [after]
    exact ⟨fun ne => by rw [Table.get?_erase, if_neg ne], fun _ => Iff.rfl, [], rfl,
      fun _ mem => by cases mem⟩

/-! ### Killed -/

/-- A worker that is killed was at work, and loses all that it had to do; only its conversation
notices. -/
theorem Change.of_killed (step : Change d d') (h : Consistent d) (found : d.worker? id = some v)
    (alive : v.phase.isKilled = false) (found' : d'.worker? id = some w)
    (killed : w.phase.isKilled = true) :
    v.phase.isOpen = true ∧ v.pending ≠ [] ∧
      d'.journal = (v.pending.map (Entry.lost id)).reverse ++ d.journal ∧
        SameElsewhere v.conversation d d' := by
  have changed : d.worker? id ≠ some w := by
    rw [found]
    intro same
    cases same
    rw [alive] at killed
    cases killed
  cases step with
  | stay => exact absurd found' changed
  | discard => exact absurd found' changed
  | turn i w' entry' written deed turn =>
      have this_one := turn.workers id
      rw [found'] at this_one
      split at this_one
      · rename_i same
        cases this_one
        subst same
        have elsewhere := h.sameElsewhere deed turn
        obtain ⟨v', before, conversation, isOpen, _, busy, all⟩ := deed.of_killed killed
        rw [found] at before
        cases before
        rw [conversation]
        exact ⟨isOpen, busy, by rw [turn.journal, all], elsewhere⟩
      · exact absurd this_one.symm changed

/-- Whatever is lost was with a worker that is killed. -/
theorem Change.of_lost (step : Change d d') (h : Consistent d) {job : Job}
    (lost : .lost id job ∈ d'.journal) : .lost id job ∈ d.journal ∨
      ∃ v w, d.worker? id = some v ∧ v.phase.isKilled = false ∧ job ∈ v.pending ∧
        d'.worker? id = some w ∧ w.phase.isKilled = true := by
  cases step with
  | stay => exact .inl lost
  | discard => exact .inl lost
  | turn i w entry' written deed turn =>
      rw [turn.journal] at lost
      rcases List.mem_append.mp lost with new | old
      · have this_one : id = i := deed.worker_of_mem new
        subst this_one
        have killed := (deed.killed_of_lost (fun v found => h.own found) new).2
        obtain ⟨v, found, _, _, alive, _, all⟩ := deed.of_killed killed
        rw [all] at new
        obtain ⟨job', mem, same⟩ := List.mem_map.mp (List.mem_reverse.mp new)
        cases same
        exact .inr ⟨v, w, found, alive, mem, by rw [turn.workers, if_pos rfl], killed⟩
      · exact .inl old

/-! ### Workers that come after -/

/-- A worker stays what it was started for. -/
theorem Change.worker_stays (step : Change d d') (found : d.worker? id = some v) :
    ∃ w, d'.worker? id = some w ∧ w.conversation = v.conversation := by
  cases step with
  | stay => exact ⟨v, found, rfl⟩
  | discard => exact ⟨v, found, rfl⟩
  | turn i w entry' written deed turn =>
      rw [turn.workers]
      split
      · rename_i this_one
        subst this_one
        rw [found] at deed
        exact ⟨w, rfl, deed.conversation_eq.symm⟩
      · exact ⟨v, found, rfl⟩

theorem Changes.worker_stays (steps : Changes d d') (found : d.worker? id = some v) :
    ∃ w, d'.worker? id = some w ∧ w.conversation = v.conversation := by
  induction steps with
  | refl => exact ⟨v, found, rfl⟩
  | tail _ step ih =>
      obtain ⟨w, found', same⟩ := ih
      obtain ⟨w', found'', same'⟩ := step.worker_stays found'
      exact ⟨w', found'', same'.trans same⟩

/-- Worker `id`, which took messages in `d`, takes none any more in `d'`. -/
structure Succeeded (d d' : Dispatcher W) (id : Nat) (v : Worker W) : Prop where
  found : d.worker? id = some v
  isOpen : v.phase.isOpen = true
  steps : Changes d d'
  gone : d'.IsClosed id

theorem Succeeded.step (h : Succeeded d d' id v) (step : Change d' d'') : Succeeded d d'' id v := by
  refine ⟨h.found, h.isOpen, h.steps.tail step, fun w' found'' => ?_⟩
  obtain ⟨w, found', _⟩ := h.steps.worker_stays h.found
  have same := step.closed_stays found' (h.gone w found')
  rw [found''] at same
  cases same
  exact h.gone _ found'

/-- Whoever takes messages of the conversation now did not exist then: the one that took them then
was the only one. -/
theorem Succeeded.fresh (h : Succeeded d d' id v) (consistent : Consistent d) {i : Nat}
    (open' : ∀ w, d'.worker? i = some w → w.phase.isOpen = true ∧ w.conversation = v.conversation) :
    d.worker? i = none := by
  refine Option.eq_none_iff_forall_ne_some.mpr fun x before => ?_
  obtain ⟨w, found', conversation⟩ := h.steps.worker_stays before
  obtain ⟨isOpen, same⟩ := open' w found'
  cases opened : x.phase.isOpen with
  | false =>
      have stays := h.steps.closed_stays before opened
      rw [found'] at stays
      cases stays
      rw [opened] at isOpen
      cases isOpen
  | true =>
      have registered := consistent.registered_of_open before opened
      rw [conversation.symm.trans same, consistent.registered_of_open h.found h.isOpen] at registered
      cases registered
      rw [h.gone w found'] at isOpen
      cases isOpen

/-- Messages of the conversation are accepted by workers that did not exist then. -/
def Entry.Afresh (d : Dispatcher W) (c : Conversation) (e : Entry) : Prop :=
  ∀ i job, e = .accepted i job → job.message.conversation = c → d.worker? i = none

theorem Succeeded.afresh_step (h : Succeeded d d' id v) (consistent : Consistent d)
    (consistent' : Consistent d') (step : Change d' d'') :
    ∃ written, d''.journal = written ++ d'.journal ∧
      ∀ e ∈ written, Entry.Afresh d v.conversation e := by
  cases step with
  | stay => exact ⟨[], rfl, fun _ mem => by cases mem⟩
  | discard => exact ⟨[], rfl, fun _ mem => by cases mem⟩
  | turn i w entry' written deed turn =>
      refine ⟨written, turn.journal, fun e mem j job told same => ?_⟩
      have conversation := deed.conversation_of_written (fun v found => consistent'.own found) mem
      have this_one : e.worker = i := deed.worker_of_mem mem
      rw [told] at this_one conversation
      subst this_one
      refine h.fresh consistent fun x found => ?_
      rw [show (Entry.accepted j job).worker = j from rfl, found] at deed
      exact ⟨deed.isOpen, deed.conversation_eq.trans (conversation.symm.trans same)⟩

theorem Succeeded.afresh (h : Succeeded d d' id v) (consistent : Consistent d)
    (consistent' : Consistent d') (steps : Changes d' d'') :
    Succeeded d d'' id v ∧ Consistent d'' ∧ ∃ written, d''.journal = written ++ d'.journal ∧
      ∀ e ∈ written, Entry.Afresh d v.conversation e := by
  induction steps with
  | refl => exact ⟨h, consistent', [], rfl, fun _ mem => by cases mem⟩
  | tail _ step ih =>
      obtain ⟨h', consistent'', first, journal, fresh⟩ := ih
      obtain ⟨second, journal', fresh'⟩ := h'.afresh_step consistent consistent'' step
      refine ⟨h'.step step, step.consistent consistent'', second ++ first, ?_, fun e mem => ?_⟩
      · rw [journal', journal, List.append_assoc]
      · exact (List.mem_append.mp mem).elim (fresh' e) (fresh e)

/-! ### Queueing a message -/

/-- A message comes into the mailbox of worker `i`, which takes messages of its conversation or is
new, and which is entered. -/
structure Placed (job : Job) (d d' : Dispatcher W) (i : Nat) : Prop where
  journal : d'.journal = .accepted i job :: d.journal
  waits : ∃ w, d'.worker? i = some w ∧ job ∈ w.mailbox
  taker (w : Worker W) : d.worker? i = some w →
    w.phase.isOpen = true ∧ w.conversation = job.message.conversation
  elsewhere : SameElsewhere job.message.conversation d d'

theorem Consistent.placed_of_place (h : Consistent d) {now : Nat} {job : Job}
    (placed : d.place now job = .ok d') : ∃ i, Placed job d d' i := by
  rcases place_cases placed with ⟨i, w, registered, found, isOpen, rfl⟩ | ⟨absent, rfl⟩
  · have same := h.conversation_eq registered found
    have workers := worker?_setWorker found ⟨w.conversation, w.mailbox ++ [job], w.phase⟩
    refine ⟨i, rfl, ⟨_, (workers i).trans (if_pos rfl), by simp⟩, fun w' found' => ?_,
      fun _ => rfl, fun {j v} ne => ?_, [_], rfl, fun e mem => ?_⟩
    · rw [found] at found'
      cases found'
      exact ⟨isOpen, same⟩
    · change (d.setWorker i _).worker? j = some v ↔ _
      rw [workers]
      split
      · rename_i this_one
        rw [this_one, found]
        constructor <;> intro eq <;> cases eq <;> exact absurd same ne
      · exact Iff.rfl
    · rw [List.mem_singleton.mp mem]
      rfl
  · refine ⟨d.workers.length, rfl, ⟨_, (getElem?_concat d.workers _ _).trans (if_pos rfl),
      List.mem_cons_self⟩, fun w found => ?_, fun ne => ?_, fun {j v} ne => ?_, [_], rfl,
      fun e mem => ?_⟩
    · rw [worker?_length] at found
      cases found
    · rw [Table.get?_insert, if_neg ne]
    · simp only [worker?, getElem?_concat]
      split
      · rename_i last
        rw [last, List.getElem?_eq_none (Nat.le_refl _)]
        constructor <;> intro eq <;> cases eq
        exact absurd rfl ne
      · exact Iff.rfl
    · rw [List.mem_singleton.mp mem]
      rfl

/-- A message that is queued finds a worker of its conversation, if need be a new one. -/
theorem Consistent.placed_enqueue (h : Consistent d) (now : Nat) (job : Job) :
    ∃ i, Placed job d (d.enqueue now job) i := by
  rcases d.enqueue_cases now job with placed | ⟨id, refused, placed⟩
  · exact h.placed_of_place placed
  · -- the closed worker is taken out of the registry, and the workers are the same without it
    have closed := (refused_of_place refused).2
    have workers : (d.discard job.message.conversation id).workers = d.workers ∧
        (d.discard job.message.conversation id).journal = d.journal := by
      rcases discard_cases d job.message.conversation id with same | ⟨_, after⟩
      · rw [same]
        exact ⟨rfl, rfl⟩
      · rw [after]
        exact ⟨rfl, rfl⟩
    obtain ⟨i, journal, waits, taker, elsewhere⟩ :=
      ((change_discard _ closed).consistent h).placed_of_place placed
    refine ⟨i, by rw [journal, workers.2], waits, fun w found => taker w ?_,
      (sameElsewhere_discard d _ id).trans elsewhere⟩
    rw [worker?, workers.1]
    exact found

/-! ### Messages that were settled -/

def settlements (d : Dispatcher W) : List Job := d.concluded.map Prod.fst ++ d.losses

theorem mem_concluded {job : Job} {outcome : Outcome} :
    (job, outcome) ∈ d.concluded ↔ ∃ id, .handled id job outcome ∈ d.journal := by
  rw [concluded, List.mem_filterMap]
  constructor
  · rintro ⟨e, mem, told⟩
    cases e <;> cases told
    exact ⟨_, mem⟩
  · rintro ⟨id, mem⟩
    exact ⟨_, mem, rfl⟩

theorem mem_losses {job : Job} : job ∈ d.losses ↔ ∃ id, .lost id job ∈ d.journal := by
  rw [losses, List.mem_filterMap]
  constructor
  · rintro ⟨e, mem, told⟩
    cases e <;> cases told
    exact ⟨_, mem⟩
  · rintro ⟨id, mem⟩
    exact ⟨_, mem, rfl⟩

theorem settled_of_concluded {job : Job} {outcome : Outcome} (handled : (job, outcome) ∈ d.concluded) :
    job ∈ d.settlements :=
  List.mem_append_left _ (List.mem_map_of_mem (f := Prod.fst) handled)

theorem perm_settled? (entries : List Entry) : (entries.filterMap Entry.settled?).Perm
    ((entries.filterMap Entry.concluded?).map Prod.fst ++ entries.filterMap Entry.lost?) := by
  induction entries with
  | nil => exact .refl _
  | cons e entries ih =>
      cases e with
      | accepted => exact ih
      | handled id job outcome => exact ih.cons job
      | lost id job => exact (ih.cons job).trans List.perm_middle.symm

/-- A conversation has the messages settled that were settled at all. -/
theorem count_settlements (d : Dispatcher W) (job : Job) :
    d.settlements.count job = (d.settled job.message.conversation).count job := by
  rw [settled, Entry.told, List.count_filter (by simp), List.filterMap_reverse, List.count_reverse]
  exact ((perm_settled? d.journal).count_eq job).symm

/-- Every answer to a caller settles its message. -/
theorem length_answers (ticket : Nat) (entries : List Entry) :
    (entries.filterMap (Entry.answer? ticket)).length =
      ((entries.filterMap Entry.settled?).map Job.ticket).count ticket := by
  induction entries with
  | nil => rfl
  | cons e entries ih =>
      cases e with
      | accepted => exact ih
      | handled id job _ | lost id job =>
          by_cases this_one : job.ticket = ticket
          · simp [Entry.answer?, Entry.settled?, this_one, ih]
          · simp [Entry.answer?, Entry.settled?, this_one, ih]

end Dispatcher

namespace Traffic

open Dispatcher

variable {events : List (Event W)} {job : Job}

theorem receipted_run (events : List (Event W)) : (run events).dispatcher.Receipted := by
  induction events using List.reverseRecOn with
  | nil => exact fun id w found => by cases found
  | append_singleton events e ih =>
      rw [run_concat]
      exact ((sound_run events).change_step e).receipted ih

/-- A message is settled once at most, and then nobody has it any more. -/
theorem count_settled_add_pending (events : List (Event W)) (job : Job) :
    (run events).dispatcher.settlements.count job +
      ((run events).dispatcher.pending job.message.conversation).count job ≤ 1 := by
  rw [count_settlements, ← List.count_append, ← balanced_run events]
  exact List.nodup_iff_count_le_one.mp (accepted_nodup events _) job

theorem settlements_nodup (events : List (Event W)) :
    (run events).dispatcher.settlements.Nodup :=
  List.nodup_iff_count_le_one.mpr fun job => by
    have account := count_settled_add_pending events job
    omega

theorem not_pending_of_settled (settled : job ∈ (run events).dispatcher.settlements) {id : Nat}
    {w : Worker W} (found : (run events).dispatcher.worker? id = some w) : job ∉ w.pending := by
  intro mem
  have h := (sound_run events).consistent
  have isOpen : w.phase.isOpen = true := by
    cases isOpen : w.phase.isOpen with
    | true => rfl
    | false =>
        rw [h.pending_of_closed found isOpen] at mem
        cases mem
  have registered := h.registered_of_open found isOpen
  rw [← h.own found job mem] at registered
  have account := count_settled_add_pending events job
  rw [pending_eq_of_registered registered found] at account
  have once := List.count_pos_iff.mpr settled
  have again := List.count_pos_iff.mpr mem
  omega

/-- A message that was accepted was settled, or a worker has it. -/
theorem settled_or_pending (admitted : job ∈ (run events).dispatcher.admissions) :
    job ∈ (run events).dispatcher.settlements ∨
      ∃ id w, (run events).dispatcher.worker? id = some w ∧ job ∈ w.pending := by
  have accepted := mem_accepted.mpr ⟨admitted, rfl⟩
  rw [balanced_run events] at accepted
  rcases List.mem_append.mp accepted with settled | pending
  · refine .inl (List.count_pos_iff.mp ?_)
    rw [count_settlements]
    exact List.count_pos_iff.mpr settled
  · refine .inr ?_
    cases registered : (run events).dispatcher.registry.get? job.message.conversation with
    | none =>
        rw [pending_eq_nil registered] at pending
        cases pending
    | some id =>
        obtain ⟨w, found, _⟩ := (sound_run events).consistent.named registered
        rw [pending_eq_of_registered registered found] at pending
        exact ⟨id, w, found, pending⟩

/-- Only messages that were accepted are settled. -/
theorem admitted_of_settled (settled : job ∈ (run events).dispatcher.settlements) :
    job ∈ (run events).dispatcher.admissions := by
  refine (mem_accepted (c := job.message.conversation)).mp ?_ |>.1
  rw [balanced_run events]
  refine List.mem_append_left _ (List.count_pos_iff.mp ?_)
  rw [← count_settlements]
  exact List.count_pos_iff.mpr settled

/-- And their callers are served. -/
theorem served_of_settled (settled : job ∈ (run events).dispatcher.settlements) :
    (run events).callers[job.ticket]? = some ⟨job.message, .served⟩ :=
  ((ticketed_run events).served job).mp (admitted_of_settled settled)

/-- The ticket tells which message it is. -/
theorem eq_of_ticket {job' : Job} (admitted : job ∈ (run events).dispatcher.admissions)
    (admitted' : job' ∈ (run events).dispatcher.admissions) (same : job.ticket = job'.ticket) :
    job = job' := by
  have served := ((ticketed_run events).served job).mp admitted
  rw [same, ((ticketed_run events).served job').mp admitted'] at served
  obtain ⟨ticket, message⟩ := job
  cases served
  cases same
  rfl

/-- No caller is told two things. -/
theorem one_answer (events : List (Event W)) (ticket : Nat) :
    ((run events).dispatcher.journal.filterMap (Entry.answer? ticket)).length ≤ 1 := by
  have perm := perm_settled? (run events).dispatcher.journal
  rw [length_answers]
  refine List.nodup_iff_count_le_one.mp (List.Nodup.map_on (fun a mem b mem' same => ?_)
    (perm.nodup_iff.mpr (settlements_nodup events))) ticket
  exact eq_of_ticket (admitted_of_settled (perm.mem_iff.mp mem))
    (admitted_of_settled (perm.mem_iff.mp mem')) same

/-- A caller is told how its message was handled, or that it was lost. -/
theorem answer?_eq_some_iff (events : List (Event W)) (ticket : Nat) (outcome : Outcome) :
    (run events).dispatcher.answer? ticket = some outcome ↔
      ∃ message, (run events).callers[ticket]? = some ⟨message, .served⟩ ∧
        ((⟨ticket, message⟩, outcome) ∈ (run events).dispatcher.concluded ∨
          outcome = .error (stopped message) ∧
            ⟨ticket, message⟩ ∈ (run events).dispatcher.losses) := by
  constructor
  · intro answer
    obtain ⟨e, mem, told⟩ := List.exists_of_findSome?_eq_some answer
    cases e with
    | accepted => cases told
    | handled id job outcome' =>
        obtain ⟨rfl, same⟩ := Option.ite_none_right_eq_some.mp told
        cases same
        have handled := mem_concluded.mpr ⟨id, mem⟩
        exact ⟨job.message, served_of_settled (settled_of_concluded handled), .inl handled⟩
    | lost id job =>
        obtain ⟨rfl, same⟩ := Option.ite_none_right_eq_some.mp told
        cases same
        have lost := mem_losses.mpr ⟨id, mem⟩
        exact ⟨job.message, served_of_settled (List.mem_append_right _ lost), .inr ⟨rfl, lost⟩⟩
  · rintro ⟨message, _, told⟩
    have mem : outcome ∈
        (run events).dispatcher.journal.filterMap (Entry.answer? ticket) := by
      rw [List.mem_filterMap]
      rcases told with handled | ⟨rfl, lost⟩
      · obtain ⟨id, mem⟩ := mem_concluded.mp handled
        exact ⟨_, mem, if_pos rfl⟩
      · obtain ⟨id, mem⟩ := mem_losses.mp lost
        exact ⟨_, mem, if_pos rfl⟩
    have one := one_answer events ticket
    rw [answer?, ← List.head?_filterMap]
    generalize (run events).dispatcher.journal.filterMap (Entry.answer? ticket) = answers at mem one
    match answers, one with
    | [answer], _ => exact congrArg some (List.mem_singleton.mp mem).symm
    | [], _ => cases mem

end Traffic

end Registrar
