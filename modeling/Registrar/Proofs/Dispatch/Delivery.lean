import Registrar.Proofs.Dispatch.Journal

/-!
What becomes of the messages of one conversation.

The journal tells which messages were put into mailboxes and which were handled or lost, in the
order in which that happened. `Balanced d` says that for each conversation the first list is
the second one followed by what its worker has still to do. Every step keeps it, a killed
worker included, whose messages pass from the mailbox to the losses in their order.

* `Deed.balance`: the account of a single turn.
* `Traffic.balanced_run`: the account of a run.
* `delivered_in_order`: as long as no worker of a conversation is killed, its messages are
  handled each once and in the order in which they were put into mailboxes, whoever put them
  there and whichever worker handled them.
-/

namespace Registrar

variable {Work : Type}

namespace Dispatcher

variable {d d' : Dispatcher Work} {id : Nat} {v w : Worker Work} {c : Conversation}

def registered? (d : Dispatcher Work) (c : Conversation) : Option (Worker Work) :=
  (d.registry.get? c).bind d.worker?

def inHand (d : Dispatcher Work) (c : Conversation) : List Job :=
  match d.registered? c with
  | some w => w.phase.inHand
  | none => []

def waiting (d : Dispatcher Work) (c : Conversation) : List Job :=
  match d.registered? c with
  | some w => w.mailbox
  | none => []

def pending (d : Dispatcher Work) (c : Conversation) : List Job := d.inHand c ++ d.waiting c

/-- What was put into mailboxes was handled or lost, or is still to be handled, in this order. -/
def Balanced (d : Dispatcher Work) : Prop := ∀ c, d.accepted c = d.settled c ++ d.pending c

theorem pending_eq_of_registered (registered : d.registry.get? c = some id)
    (found : d.worker? id = some w) : d.pending c = w.pending := by
  simp [pending, inHand, waiting, registered?, registered, found, Worker.pending]

theorem pending_eq_nil (absent : d.registry.get? c = none) : d.pending c = [] := by
  simp [pending, inHand, waiting, registered?, absent]

/-! ### The account of one turn -/

variable {v? : Option (Worker Work)} {entry entry' : Option Nat} {written : List Entry}

theorem told_reverse_map_lost (c : Conversation) (jobs : List Job)
    (own : ∀ job ∈ jobs, job.message.conversation = c) :
    Entry.told Entry.settled? c (jobs.map (Entry.lost id)).reverse = jobs := by
  have all : (jobs.map (Entry.lost id)).filterMap Entry.settled? = jobs := by
    rw [List.filterMap_map]
    exact List.filterMap_some
  rw [Entry.told, List.reverse_reverse, all]
  exact List.filter_eq_self.mpr fun job mem => decide_eq_true (own job mem)

theorem told_accepted_reverse_map_lost (c : Conversation) (jobs : List Job) :
    Entry.told Entry.accepted? c (jobs.map (Entry.lost id)).reverse = [] := by
  have none : (jobs.map (Entry.lost id)).filterMap Entry.accepted? = [] := by
    rw [List.filterMap_map]
    exact List.filterMap_eq_nil_iff.mpr fun job _ => rfl
  rw [Entry.told, List.reverse_reverse, none]
  rfl

def pendingOf : Option (Worker Work) → List Job
  | some v => v.pending
  | none => []

/-- What a worker had to do and what it got is what it settled and what it has still to do. -/
theorem Deed.balance (deed : Deed id v? entry w entry' written)
    (own : ∀ v, v? = some v → ∀ job ∈ v.pending, job.message.conversation = v.conversation) :
    pendingOf v? ++ Entry.told Entry.accepted? w.conversation written =
      Entry.told Entry.settled? w.conversation written ++ w.pending := by
  cases deed with
  | put job isOpen same =>
      simp [pendingOf, Entry.told, Entry.accepted?, Entry.settled?, Worker.pending, same]
  | welcome now job =>
      simp [pendingOf, Entry.told, Entry.accepted?, Entry.settled?, Worker.pending, Phase.inHand]
  | start | progress | retire => simp [pendingOf, Worker.pending, Phase.inHand]
  | finish c mailbox job work now outcome =>
      have same : job.message.conversation = c := own _ rfl job List.mem_cons_self
      simp [pendingOf, Entry.told, Entry.accepted?, Entry.settled?, Worker.pending, Phase.inHand,
        same]
  | kill c mailbox job work =>
      rw [told_accepted_reverse_map_lost,
        told_reverse_map_lost c (job :: mailbox) fun job' mem => own _ rfl job' mem]
      simp [pendingOf, Worker.pending, Phase.inHand]

/-- A turn tells nothing of other conversations. -/
theorem Deed.conversation_of_mem (deed : Deed id v? entry w entry' written)
    (own : ∀ v, v? = some v → ∀ job ∈ v.pending, job.message.conversation = v.conversation)
    {e : Entry} (mem : e ∈ written) {job : Job}
    (told : e.accepted? = some job ∨ e.settled? = some job) :
    job.message.conversation = w.conversation := by
  cases deed with
  | put job' isOpen same =>
      rw [List.mem_singleton.mp mem] at told
      rcases told with told | told <;> cases told
      exact same
  | welcome now job' =>
      rw [List.mem_singleton.mp mem] at told
      rcases told with told | told <;> cases told
      rfl
  | start | progress | retire => cases mem
  | finish c mailbox job' work now outcome =>
      rw [List.mem_singleton.mp mem] at told
      rcases told with told | told <;> cases told
      exact own _ rfl job List.mem_cons_self
  | kill c mailbox job' work =>
      obtain ⟨job'', mem', rfl⟩ := List.mem_map.mp (List.mem_reverse.mp mem)
      rcases told with told | told <;> cases told
      exact own _ rfl job mem'

theorem Deed.told_eq_nil (deed : Deed id v? entry w entry' written)
    (own : ∀ v, v? = some v → ∀ job ∈ v.pending, job.message.conversation = v.conversation)
    {pick : Entry → Option Job}
    (picks : ∀ e job, pick e = some job → e.accepted? = some job ∨ e.settled? = some job)
    (other : c ≠ w.conversation) : Entry.told pick c written = [] := by
  refine List.eq_nil_iff_forall_not_mem.mpr fun job mem => ?_
  obtain ⟨⟨e, written, told⟩, same⟩ := Entry.mem_told.mp mem
  exact other (same.symm.trans (deed.conversation_of_mem own written (picks e job told)))

/-! ### Steps keep the balance -/

/-- What the registered worker of a conversation has to do after a turn. -/
theorem pending_turn (h : Consistent d) (h' : Consistent d')
    (deed : Deed id (d.worker? id) (d.registry.get? w.conversation) w entry written)
    (turn : Turn d d' id w entry written) (c : Conversation) :
    d'.pending c = if c = w.conversation then w.pending else d.pending c := by
  split
  · rename_i this_one
    have found : d'.worker? id = some w := by rw [turn.workers, if_pos rfl]
    have registered : d'.registry.get? c = entry := by rw [turn.registry, if_pos this_one]
    cases after : entry with
    | none =>
        rw [pending_eq_nil (registered.trans after)]
        refine (h'.pending_of_closed found (Bool.eq_false_iff.mpr fun isOpen => ?_)).symm
        have named := h'.registered_of_open found isOpen
        rw [← this_one, registered, after] at named
        cases named
    | some i =>
        obtain ⟨rfl, _⟩ := deed.named (h.alone deed) after
        exact pending_eq_of_registered (registered.trans after) found
  · rename_i other
    have same : d'.registry.get? c = d.registry.get? c := by rw [turn.registry, if_neg other]
    cases before : d.registry.get? c with
    | none => rw [pending_eq_nil before, pending_eq_nil (same.trans before)]
    | some i =>
        obtain ⟨v, found, conversation, _⟩ := h.named before
        have found' : d'.worker? i = some v := by
          rw [turn.workers, if_neg]
          · exact found
          · rintro rfl
            rw [found] at deed
            exact other (conversation.symm.trans deed.conversation_eq)
        rw [pending_eq_of_registered before found,
          pending_eq_of_registered (same.trans before) found']

/-- What whoever has a turn had to do before is what was pending for its conversation. -/
theorem pending_before (h : Consistent d)
    (deed : Deed id (d.worker? id) (d.registry.get? w.conversation) w entry written) :
    d.pending w.conversation = pendingOf (d.worker? id) := by
  have alone := h.alone deed
  cases found : d.worker? id with
  | some v => exact pending_eq_of_registered (alone (by rw [found]; rfl)) found
  | none =>
      rw [found] at deed
      cases before : d.registry.get? w.conversation with
      | none => exact pending_eq_nil before
      | some i =>
          rw [before] at deed
          cases deed

theorem Balanced.turn (balanced : Balanced d) (h : Consistent d)
    (deed : Deed id (d.worker? id) (d.registry.get? w.conversation) w entry written)
    (turn : Turn d d' id w entry written) : Balanced d' := by
  have own : ∀ v, d.worker? id = some v → ∀ job ∈ v.pending,
      job.message.conversation = v.conversation := fun v found => h.own found
  intro c
  rw [pending_turn h (h.turn deed turn) deed turn, accepted, settled, turn.journal,
    Entry.told_append, Entry.told_append]
  change d.accepted c ++ _ = d.settled c ++ _ ++ _
  rw [balanced c]
  by_cases this_one : c = w.conversation
  · subst this_one
    rw [if_pos rfl, pending_before h deed, List.append_assoc, deed.balance own, List.append_assoc]
  · rw [if_neg this_one, deed.told_eq_nil own (fun _ _ => .inl) this_one,
      deed.told_eq_nil own (fun _ _ => .inr) this_one, List.append_nil, List.append_nil]

theorem Balanced.discard (balanced : Balanced d) (h : Consistent d)
    (registered : d.registry.get? c = some id) (closed : d.IsClosed id) :
    Balanced { d with registry := d.registry.erase c } := by
  intro c'
  refine (balanced c').trans (congrArg (d.settled c' ++ ·) ?_)
  by_cases this_one : c' = c
  · subst this_one
    obtain ⟨w, found, _, _⟩ := h.named registered
    rw [pending_eq_of_registered registered found, h.pending_of_closed found (closed w found)]
    exact (pending_eq_nil (by rw [Table.get?_erase, if_pos rfl])).symm
  · simp only [pending, inHand, waiting, registered?]
    rw [Table.get?_erase, if_neg this_one]
    rfl

theorem Change.balanced (step : Change d d') (h : Consistent d) (balanced : Balanced d) :
    Balanced d' := by
  cases step with
  | stay => exact balanced
  | turn id w entry written deed turn => exact balanced.turn h deed turn
  | discard registered closed => exact balanced.discard h registered closed

def Unharmed (d : Dispatcher Work) (c : Conversation) : Prop :=
  ∀ w ∈ d.workers, w.conversation = c → w.phase.isKilled = false

instance (d : Dispatcher Work) (c : Conversation) : Decidable (d.Unharmed c) :=
  inferInstanceAs (Decidable (∀ w ∈ d.workers, _))

theorem Unharmed.of_worker? (unharmed : d.Unharmed c) (found : d.worker? id = some w)
    (same : w.conversation = c) : w.phase.isKilled = false :=
  unharmed w (List.mem_of_getElem? found) same

end Dispatcher

/-! ### Runs -/

namespace Traffic

theorem balanced_run (events : List (Event Work)) : (run events).dispatcher.Balanced := by
  induction events using List.reverseRecOn with
  | nil => exact fun _ => rfl
  | append_singleton events e ih =>
      rw [run_concat]
      exact ((sound_run events).change_step e).balanced (sound_run events).consistent ih

/-- Nothing of a conversation is lost unless one of its workers is killed. -/
theorem not_lost_of_unharmed {events : List (Event Work)} {c : Conversation}
    (unharmed : (run events).dispatcher.Unharmed c) {id : Nat} {job : Job}
    (mem : .lost id job ∈ (run events).dispatcher.journal) : job.message.conversation ≠ c := by
  obtain ⟨i, w, found, same, killed⟩ := killed_of_lost events mem
  intro this_one
  have alive := unharmed.of_worker? found (same.trans this_one)
  rw [killed] at alive
  cases alive

theorem settled_eq_handled {events : List (Event Work)} {c : Conversation}
    (unharmed : (run events).dispatcher.Unharmed c) :
    (run events).dispatcher.settled c = (run events).dispatcher.handled c := by
  have agree : ∀ entries : List Entry, (∀ e ∈ entries, e ∈ (run events).dispatcher.journal) →
      Entry.told Entry.settled? c entries = Entry.told Entry.handled? c entries := by
    intro entries inside
    induction entries with
    | nil => rfl
    | cons e entries ih =>
        rw [← List.singleton_append, Entry.told_append, Entry.told_append,
          ih fun e' mem => inside e' (List.mem_cons_of_mem _ mem)]
        cases e with
        | accepted id job => rfl
        | handled id job outcome => rfl
        | lost id job =>
            have other := not_lost_of_unharmed unharmed (inside _ List.mem_cons_self)
            simp [Entry.told, Entry.settled?, Entry.handled?, other]
  exact agree _ fun _ mem => mem

/-- A worker that the registry does not name for a conversation has none of its messages. -/
theorem no_pending_of_unregistered (events : List (Event Work)) {c : Conversation} {id : Nat}
    {w : Worker Work} (found : (run events).dispatcher.worker? id = some w)
    (unnamed : (run events).dispatcher.registry.get? c ≠ some id) :
    ∀ job ∈ w.pending, job.message.conversation ≠ c := by
  have h := (sound_run events).consistent
  intro job mem this_one
  have same := (h.own found job mem).symm.trans this_one
  cases isOpen : w.phase.isOpen with
  | true => exact unnamed (same ▸ h.registered_of_open found isOpen)
  | false =>
      rw [h.pending_of_closed found isOpen] at mem
      cases mem

end Traffic

/-- In every state that callers and workers can reach without a worker of the conversation being
killed: its messages that were put into mailboxes, in the order in which they were, are those that
were handled, in their order, then the one that its registered worker has in its hands, then those in
that worker's mailbox. Each is put there once, when its caller is served; none is lost; and no other
worker has any, so that without an entry in the registry nobody has one. -/
theorem delivered_in_order (events : List (Event Work)) (c : Conversation)
    (unharmed : (Traffic.run events).dispatcher.Unharmed c) :
    let t := Traffic.run events
    let d := t.dispatcher
    d.accepted c = d.handled c ++ d.inHand c ++ d.waiting c ∧
    (d.accepted c).Nodup ∧
    (∀ job, job ∈ d.accepted c ↔ t.callers[job.ticket]? = some ⟨job.message, .served⟩ ∧
      job.message.conversation = c) ∧
    (∀ id job, .lost id job ∈ d.journal → job.message.conversation ≠ c) ∧
    ∀ id w, d.worker? id = some w → d.registry.get? c ≠ some id →
      ∀ job ∈ w.pending, job.message.conversation ≠ c := by
  intro t d
  refine ⟨?_, Traffic.accepted_nodup events c, Traffic.accepted_iff_served events c,
    fun id job => Traffic.not_lost_of_unharmed unharmed,
    fun id w => Traffic.no_pending_of_unregistered events⟩
  have account := Traffic.balanced_run events c
  rw [Traffic.settled_eq_handled unharmed] at account
  rw [List.append_assoc]
  exact account

/-- One message is handled, one breaks its handler down, one comes after the worker has retired and
is handled by another worker, and one waits behind it. -/
theorem delivered_in_order_across_retirement :
    let message (text : String) : Message :=
      ⟨text, ⟨7, none, none, none⟩, ⟨1, "private"⟩, text, .epoch⟩
    let c : Conversation := ⟨1, 7⟩
    let begin : Message → Unit := fun _ => ()
    let d := (Traffic.run
      [.call (message "a"), .call (message "b"), .call (message "c"), .call (message "d"),
        .send 0 1, .start 0 begin, .send 3 0, .finish 5 0 (.ok ()), .start 0 begin,
        .finish 8 0 (.error (Dispatcher.panicked (message "a"))), .retire 0, .send 20 2,
        .start 1 begin, .send 21 3]).dispatcher
    d.Unharmed c ∧ d.handled c ++ d.inHand c ++ d.waiting c =
      [⟨1, message "b"⟩, ⟨0, message "a"⟩, ⟨2, message "c"⟩, ⟨3, message "d"⟩] := by
  intro message c begin d
  have unharmed : d.Unharmed c := by decide
  refine ⟨unharmed, ?_⟩
  rw [← (delivered_in_order _ c unharmed).1]
  decide

end Registrar
