import Registrar.Proofs.Dispatch.Exclusion
import Registrar.Proofs.Dispatch.Journal
import Mathlib.Data.Nat.Init

/-!
Callers that come upon killed workers.

A caller tries for as long as it finds the mailbox of the registered worker closed. Nothing bounds the
number of its attempts but the number of workers that are killed: the mailbox belongs to a killed
worker, and once the caller has taken that worker out of the registry, or somebody else has, the
worker is never named again, so that no second attempt fails because of it.

A schedule says for each step what happens; `Traffic.after` is what has come of the first steps of it.
Whatever the schedule, each refusal of a caller is due to another killed worker. If in addition only
finitely many workers of the conversation are killed and the caller is not stopped for ever (`Fair`),
then its message is put into a mailbox.

* `Traffic.fares`: what an event does to one caller.
* `Traffic.refused_or_gone`: after a refusal, and until it takes the worker out, the caller remembers
  it; afterwards the worker is gone.
* `Traffic.Fair.placed`: the attempts come to an end.
* `restart_after_kills`: all of this together.
-/

namespace Registrar

variable {Work : Type}

namespace Dispatcher

variable {d d' : Dispatcher Work}

def mailboxOf : Option (Worker Work) → List Job
  | some w => w.mailbox
  | none => []

/-- A message is put behind those that wait in the mailbox of one worker, which may be new; the other
workers stay as they are. -/
structure Puts (d d' : Dispatcher Work) (id : Nat) (job : Job) : Prop where
  own : ∃ w, d'.worker? id = some w ∧ w.conversation = job.message.conversation ∧
    w.phase.isOpen = true ∧ w.mailbox = mailboxOf (d.worker? id) ++ [job]
  registered : d'.registry.get? job.message.conversation = some id
  others (i : Nat) : i ≠ id → d'.worker? i = d.worker? i

theorem Consistent.puts_of_place (h : Consistent d) {now : Nat} {job : Job}
    (placed : d.place now job = .ok d') : ∃ id, Puts d d' id job := by
  rcases place_cases placed with ⟨id, w, registered, found, isOpen, rfl⟩ | ⟨absent, rfl⟩
  · have workers := worker?_setWorker found ⟨w.conversation, w.mailbox ++ [job], w.phase⟩
    have same : w.conversation = job.message.conversation := h.conversation_eq registered found
    refine ⟨id, ⟨_, (workers id).trans (if_pos rfl), same, isOpen, ?_⟩, registered, ?_⟩
    · rw [found]
      rfl
    · intro i other
      exact (workers i).trans (if_neg other)
  · have workers := getElem?_concat d.workers ⟨job.message.conversation, [job], .idle now⟩
    refine ⟨d.workers.length, ⟨_, (workers _).trans (if_pos rfl), rfl, rfl, ?_⟩, ?_, ?_⟩
    · rw [worker?_length]
      rfl
    · simp
    · intro i other
      exact (workers i).trans (if_neg other)

theorem unnamed_discard (d : Dispatcher Work) (c : Conversation) (id : Nat) :
    (d.discard c id).registry.get? c ≠ some id := by
  unfold discard
  split
  · simp
  · assumption

end Dispatcher

namespace Traffic

variable {t : Traffic Work} {ticket : Nat} {message : Message}

/-! ### One caller -/

/-- What an event does to the stage of a caller. -/
inductive Fares (t : Traffic Work) (e : Event Work) (ticket : Nat) (message : Message) :
    Stage → Stage → Prop where
  /-- It is none of the events by which the caller gets on. -/
  | stays (stage : Stage) (seeks : stage = .seeking → ∀ now, e ≠ .send now ticket)
      (waits : ∀ id, stage = .refused id → e ≠ .discard ticket) : Fares t e ticket message stage stage
  | served (now : Nat) (d : Dispatcher Work) (sends : e = .send now ticket)
      (placed : t.dispatcher.place now ⟨ticket, message⟩ = .ok d)
      (after : (t.step e).dispatcher = d) : Fares t e ticket message .seeking .served
  | refused (now id : Nat) (sends : e = .send now ticket)
      (closed : t.dispatcher.place now ⟨ticket, message⟩ = .error id)
      (after : (t.step e).dispatcher = t.dispatcher) : Fares t e ticket message .seeking (.refused id)
  | returns (id : Nat) (discards : e = .discard ticket)
      (after : (t.step e).dispatcher = t.dispatcher.discard message.conversation id) :
      Fares t e ticket message (.refused id) .seeking

/-- An event that is not the caller's own, and that leaves it where it is. -/
theorem fares_elsewhere {e : Event Work} {stage : Stage}
    (found : t.callers[ticket]? = some ⟨message, stage⟩)
    (same : (t.step e).callers[ticket]? = t.callers[ticket]?)
    (sends : ∀ now, e ≠ .send now ticket) (discards : e ≠ .discard ticket) :
    ∃ stage', (t.step e).callers[ticket]? = some ⟨message, stage'⟩ ∧
      Fares t e ticket message stage stage' :=
  ⟨stage, same.trans found, .stays stage (fun _ => sends) fun _ _ => discards⟩

theorem fares_send (now ticket' : Nat) {stage : Stage}
    (found : t.callers[ticket]? = some ⟨message, stage⟩) :
    ∃ stage', (t.send now ticket').callers[ticket]? = some ⟨message, stage'⟩ ∧
      Fares t (.send now ticket') ticket message stage stage' := by
  by_cases own : ticket = ticket'
  · subst own
    cases stage with
    | seeking =>
        cases placed : t.dispatcher.place now ⟨ticket, message⟩ with
        | ok d =>
            have sent : t.send now ticket = ⟨d, t.callers.set ticket ⟨message, .served⟩⟩ := by
              simp only [send, found, placed]
            refine ⟨.served, ?_, .served now d rfl placed (congrArg dispatcher sent)⟩
            rw [sent, getElem?_set_of_some found, if_pos rfl]
        | error id =>
            have sent : t.send now ticket =
                ⟨t.dispatcher, t.callers.set ticket ⟨message, .refused id⟩⟩ := by
              simp only [send, found, placed]
            refine ⟨.refused id, ?_, .refused now id rfl placed ?_⟩
            · rw [sent, getElem?_set_of_some found, if_pos rfl]
            · change (t.send now ticket).dispatcher = t.dispatcher
              rw [sent]
    | refused id =>
        have sent : t.send now ticket = t := by simp only [send, found]
        refine ⟨.refused id, ?_, .stays _ (fun seeks => by cases seeks) fun _ _ e => by cases e⟩
        rw [sent, found]
    | served =>
        have sent : t.send now ticket = t := by simp only [send, found]
        refine ⟨.served, ?_, .stays _ (fun seeks => by cases seeks) fun _ waits => by cases waits⟩
        rw [sent, found]
  · refine fares_elsewhere (e := .send now ticket') found ?_ ?_ ?_
    · change (t.send now ticket').callers[ticket]? = _
      rcases send_cases t now ticket' with same | ⟨m, d, seeking, _, after⟩ | ⟨m, id, seeking, _, after⟩
      · rw [same]
      · rw [after, getElem?_set_of_some seeking, if_neg own]
      · rw [after, getElem?_set_of_some seeking, if_neg own]
    · intro now' same
      cases same
      exact own rfl
    · intro same
      cases same

theorem fares_discard (ticket' : Nat) {stage : Stage}
    (found : t.callers[ticket]? = some ⟨message, stage⟩) :
    ∃ stage', (t.discard ticket').callers[ticket]? = some ⟨message, stage'⟩ ∧
      Fares t (.discard ticket') ticket message stage stage' := by
  by_cases own : ticket = ticket'
  · subst own
    cases stage with
    | refused id =>
        have discarded : t.discard ticket = ⟨t.dispatcher.discard message.conversation id,
            t.callers.set ticket ⟨message, .seeking⟩⟩ := by
          simp only [discard, found]
        refine ⟨.seeking, ?_, .returns id rfl (congrArg dispatcher discarded)⟩
        rw [discarded, getElem?_set_of_some found, if_pos rfl]
    | seeking =>
        have discarded : t.discard ticket = t := by simp only [discard, found]
        refine ⟨.seeking, ?_, .stays _ (fun _ _ e => by cases e) fun _ waits => by cases waits⟩
        rw [discarded, found]
    | served =>
        have discarded : t.discard ticket = t := by simp only [discard, found]
        refine ⟨.served, ?_, .stays _ (fun seeks => by cases seeks) fun _ waits => by cases waits⟩
        rw [discarded, found]
  · refine fares_elsewhere (e := .discard ticket') found ?_ ?_ ?_
    · change (t.discard ticket').callers[ticket]? = _
      rcases discard_cases t ticket' with same | ⟨m, id, refused, after⟩
      · rw [same]
      · rw [after, getElem?_set_of_some refused, if_neg own]
    · intro now same
      cases same
    · intro same
      cases same
      exact own rfl

/-- What an event does to a caller: it gets on by an attempt of its own, and by taking the worker out
that refused it; whatever anybody else does leaves it where it is. -/
theorem fares (e : Event Work) {stage : Stage} (found : t.callers[ticket]? = some ⟨message, stage⟩) :
    ∃ stage', (t.step e).callers[ticket]? = some ⟨message, stage'⟩ ∧
      Fares t e ticket message stage stage' := by
  cases e with
  | send now ticket' => exact fares_send now ticket' found
  | discard ticket' => exact fares_discard ticket' found
  | call message' =>
      have bound := (List.getElem?_eq_some_iff.mp found).1
      exact fares_elsewhere found (List.getElem?_append_left bound) nofun nofun
  | start id begin =>
      exact fares_elsewhere found (by rw [callers_step_start]) nofun nofun
  | progress | finish | kill | retire => exact fares_elsewhere found rfl nofun nofun

/-- Taking a worker out leaves the registry as it is, but for a worker that was killed. -/
theorem Sound.registry_discard (h : Sound t) (ticket : Nat) {c : Conversation} {id : Nat}
    (registered : t.dispatcher.registry.get? c = some id) :
    (t.discard ticket).dispatcher.registry.get? c = some id ∨
      ∃ w, t.dispatcher.worker? id = some w ∧ w.conversation = c ∧ w.phase.isKilled = true := by
  rcases discard_cases t ticket with same | ⟨message, id', refused, after⟩
  · rw [same]
    exact .inl registered
  · rw [after]
    rcases Dispatcher.discard_cases t.dispatcher message.conversation id' with same | ⟨named, after⟩
    · rw [same]
      exact .inl registered
    · rw [after, Table.get?_erase]
      split
      · rename_i this_one
        rw [this_one, named] at registered
        cases registered
        rw [this_one]
        exact .inr (h.refused refused)
      · exact .inl registered

/-! ### Schedules -/

def after (schedule : Nat → Event Work) (n : Nat) : Traffic Work :=
  run ((List.range n).map schedule)

/-- At this step, a caller finds the mailbox of this worker closed. -/
def Refusal (schedule : Nat → Event Work) (n ticket : Nat) (message : Message) (id : Nat) : Prop :=
  (after schedule n).callers[ticket]? = some ⟨message, .seeking⟩ ∧
    (after schedule (n + 1)).callers[ticket]? = some ⟨message, .refused id⟩

/-- A caller is not stopped for ever: it tries again, and takes the worker out that refused it, at some
time later, whenever this is what it has to do next. -/
structure Fair (schedule : Nat → Event Work) (ticket : Nat) : Prop where
  tries {n : Nat} {message : Message} :
    (after schedule n).callers[ticket]? = some ⟨message, .seeking⟩ →
      ∃ m ≥ n, ∃ now, schedule m = .send now ticket
  returns {n : Nat} {message : Message} {id : Nat} :
    (after schedule n).callers[ticket]? = some ⟨message, .refused id⟩ →
      ∃ m ≥ n, schedule m = .discard ticket

def FinitelyKilled (schedule : Nat → Event Work) (c : Conversation) : Prop :=
  ∃ ids : List Nat, ∀ n id w, (after schedule n).dispatcher.worker? id = some w →
    w.conversation = c → w.phase.isKilled = true → id ∈ ids

variable {schedule : Nat → Event Work} {n m id : Nat}

theorem after_succ (schedule : Nat → Event Work) (n : Nat) :
    after schedule (n + 1) = (after schedule n).step (schedule n) := by
  rw [after, List.range_succ, List.map_append]
  exact run_concat _ _

theorem sound_after (schedule : Nat → Event Work) (n : Nat) : Sound (after schedule n) :=
  sound_run _

theorem changes_after (schedule : Nat → Event Work) (le : n ≤ m) :
    Dispatcher.Changes (after schedule n).dispatcher (after schedule m).dispatcher := by
  induction m, le using Nat.le_induction with
  | base => exact .refl
  | succ m _ ih =>
      rw [after_succ]
      exact ih.tail ((sound_after schedule m).change_step _)

/-- What the next step of a schedule does to a caller. -/
theorem fares_after {stage : Stage}
    (found : (after schedule n).callers[ticket]? = some ⟨message, stage⟩) :
    ∃ stage', (after schedule (n + 1)).callers[ticket]? = some ⟨message, stage'⟩ ∧
      Fares (after schedule n) (schedule n) ticket message stage stage' := by
  rw [after_succ]
  exact fares (schedule n) found

/-- A caller keeps its ticket and its message. -/
theorem caller_after {stage : Stage}
    (found : (after schedule n).callers[ticket]? = some ⟨message, stage⟩) (le : n ≤ m) :
    ∃ stage', (after schedule m).callers[ticket]? = some ⟨message, stage'⟩ := by
  induction m, le using Nat.le_induction with
  | base => exact ⟨stage, found⟩
  | succ m _ ih =>
      obtain ⟨stage', found⟩ := ih
      obtain ⟨stage'', found, _⟩ := fares_after found
      exact ⟨stage'', found⟩

/-- A caller that is served stays so. -/
theorem served_after (served : (after schedule n).callers[ticket]? = some ⟨message, .served⟩)
    (le : n ≤ m) : (after schedule m).callers[ticket]? = some ⟨message, .served⟩ := by
  induction m, le using Nat.le_induction with
  | base => exact served
  | succ m _ ih =>
      obtain ⟨stage, found, fares⟩ := fares_after ih
      cases fares with
      | stays => exact found

/-- Nobody retires whose number no worker has. -/
theorem step_retire_absent {id : Nat} (absent : t.dispatcher.workers.length ≤ id) :
    t.step (.retire id) = t := by
  have none : t.dispatcher.worker? id = none := List.getElem?_eq_none absent
  simp only [step, Dispatcher.retire, none]

/-- Nothing happens any more when an event leaves everything as it is and no other one follows. -/
theorem after_of_idle {e : Event Work} (idle : ∀ k ≥ n, schedule k = e)
    (still : (after schedule n).step e = after schedule n) (le : n ≤ m) :
    after schedule m = after schedule n := by
  induction m, le using Nat.le_induction with
  | base => rfl
  | succ m le ih => rw [after_succ, ih, idle m le, still]

/-! ### Refusals -/

/-- The worker is not the one that the registry names for its conversation, and never will be. -/
def IsGone (t : Traffic Work) (c : Conversation) (id : Nat) : Prop :=
  ∃ w, Dispatcher.Gone t.dispatcher id w (t.dispatcher.entriesOf id) ∧ w.conversation = c

theorem IsGone.unnamed {c : Conversation} (gone : IsGone t c id) :
    t.dispatcher.registry.get? c ≠ some id := by
  obtain ⟨w, gone, rfl⟩ := gone
  exact gone.unnamed

theorem IsGone.later {c : Conversation} (gone : IsGone (after schedule n) c id) (le : n ≤ m) :
    IsGone (after schedule m) c id := by
  obtain ⟨w, gone, same⟩ := gone
  obtain ⟨_, gone⟩ := (changes_after schedule le).gone_stays (sound_after schedule n).consistent gone
  exact ⟨w, ⟨gone.found, gone.unnamed, rfl⟩, same⟩

/-- It is the worker in the registry that refuses, and it was killed. -/
theorem Refusal.killed (refusal : Refusal schedule n ticket message id) :
    (after schedule n).dispatcher.registry.get? message.conversation = some id ∧
      ∃ w, (after schedule n).dispatcher.worker? id = some w ∧
        w.conversation = message.conversation ∧ w.phase.isKilled = true := by
  obtain ⟨seeking, refused⟩ := refusal
  obtain ⟨stage, found, fares⟩ := fares_after seeking
  rw [refused] at found
  cases found
  cases fares with
  | refused now id sends closed after =>
      exact ⟨(Dispatcher.refused_of_place closed).1, (sound_after schedule n).killed_of_place closed⟩

/-- The worker is gone once the caller has taken it out that it refused. -/
theorem gone_of_return (refused : (after schedule n).callers[ticket]? = some ⟨message, .refused id⟩)
    (discards : schedule n = .discard ticket) :
    (after schedule (n + 1)).callers[ticket]? = some ⟨message, .seeking⟩ ∧
      IsGone (after schedule (n + 1)) message.conversation id := by
  obtain ⟨w, found, same, killed⟩ := (sound_after schedule n).refused refused
  have stays := (sound_after schedule n).killed_step (schedule n) found killed
  rw [← after_succ] at stays
  obtain ⟨stage, found', fares⟩ := fares_after refused
  cases fares with
  | stays _ _ waits => exact absurd discards (waits id rfl)
  | returns _ _ after =>
      rw [← after_succ] at after
      refine ⟨found', w, ⟨stays, ?_, rfl⟩, same⟩
      rw [after, same]
      exact Dispatcher.unnamed_discard _ _ _

/-- After a refusal, the caller remembers the worker until it has taken it out; then it is gone. -/
theorem Refusal.refused_or_gone (refusal : Refusal schedule n ticket message id) (lt : n < m) :
    (after schedule m).callers[ticket]? = some ⟨message, .refused id⟩ ∨
      IsGone (after schedule m) message.conversation id := by
  induction m, lt using Nat.le_induction with
  | base => exact .inl refusal.2
  | succ m _ ih =>
      rcases ih with refused | gone
      · by_cases discards : schedule m = .discard ticket
        · exact .inr (gone_of_return refused discards).2
        · obtain ⟨stage, found, fares⟩ := fares_after refused
          cases fares with
          | stays => exact .inl found
          | returns _ is _ => exact absurd is discards
      · exact .inr (gone.later (Nat.le_succ m))

/-- A worker does not refuse the same caller twice. -/
theorem Refusal.not_again {message' : Message} (refusal : Refusal schedule n ticket message id)
    (again : Refusal schedule m ticket message' id) : ¬ n < m := by
  intro lt
  obtain ⟨stage, found⟩ := caller_after refusal.1 (Nat.le_of_lt lt)
  rw [again.1] at found
  cases found
  rcases refusal.refused_or_gone lt with refused | gone
  · rw [again.1] at refused
    cases refused
  · exact gone.unnamed again.killed.1

/-! ### The end of the attempts -/

/-- What holds of a run until something happens still holds when it does. -/
theorem holds_until {P happens : Nat → Prop} (keeps : ∀ k, P k → ¬ happens k → P (k + 1))
    (holds : P n) (le : n ≤ m) (later : happens m) : ∃ k ≥ n, P k ∧ happens k := by
  induction le using Nat.decreasingInduction with
  | self => exact ⟨m, Nat.le_refl m, holds, later⟩
  | of_succ k _ ih =>
      by_cases now : happens k
      · exact ⟨k, Nat.le_refl k, holds, now⟩
      · obtain ⟨k', le, found⟩ := ih (keeps k holds now)
        exact ⟨k', by omega, found⟩

/-- A caller that tries comes to its next attempt. -/
theorem Fair.attempt (fair : Fair schedule ticket)
    (seeking : (after schedule n).callers[ticket]? = some ⟨message, .seeking⟩) :
    ∃ m ≥ n, (after schedule m).callers[ticket]? = some ⟨message, .seeking⟩ ∧
      ∃ now, schedule m = .send now ticket := by
  obtain ⟨m, le, sends⟩ := fair.tries seeking
  refine holds_until (fun k seeking rests => ?_) seeking le sends
  obtain ⟨stage, found, fares⟩ := fares_after seeking
  cases fares with
  | stays => exact found
  | served now _ sends _ _ => exact absurd ⟨now, sends⟩ rests
  | refused now _ sends _ _ => exact absurd ⟨now, sends⟩ rests

/-- A caller that was refused comes to take the worker out; it tries again, and the worker is gone. -/
theorem Fair.return (fair : Fair schedule ticket)
    (refused : (after schedule n).callers[ticket]? = some ⟨message, .refused id⟩) :
    ∃ m > n, (after schedule m).callers[ticket]? = some ⟨message, .seeking⟩ ∧
      IsGone (after schedule m) message.conversation id := by
  obtain ⟨m, le, discards⟩ := fair.returns refused
  obtain ⟨k, le, refused, discards⟩ : ∃ k ≥ n,
      (after schedule k).callers[ticket]? = some ⟨message, .refused id⟩ ∧
        schedule k = .discard ticket := by
    refine holds_until (fun k refused rests => ?_) refused le discards
    obtain ⟨stage, found, fares⟩ := fares_after refused
    cases fares with
    | stays => exact found
    | returns _ discards _ => exact absurd discards rests
  exact ⟨k + 1, by omega, gone_of_return refused discards⟩

/-- At this step, the message of a caller is put into a mailbox. -/
structure Placed (schedule : Nat → Event Work) (n ticket : Nat) (message : Message) : Prop where
  sought : (after schedule n).callers[ticket]? = some ⟨message, .seeking⟩
  served : (after schedule (n + 1)).callers[ticket]? = some ⟨message, .served⟩
  puts : ∃ id, Dispatcher.Puts (after schedule n).dispatcher (after schedule (n + 1)).dispatcher id
    ⟨ticket, message⟩

/-- An attempt puts the message into a mailbox, or the caller is refused. -/
theorem placed_or_refused (seeking : (after schedule n).callers[ticket]? = some ⟨message, .seeking⟩)
    {now : Nat} (sends : schedule n = .send now ticket) :
    Placed schedule n ticket message ∨ ∃ id, Refusal schedule n ticket message id := by
  obtain ⟨stage, found, fares⟩ := fares_after seeking
  cases fares with
  | stays _ seeks _ => exact absurd sends (seeks rfl now)
  | refused _ id _ _ _ => exact .inr ⟨id, seeking, found⟩
  | served now d _ placed after =>
      rw [← after_succ] at after
      subst after
      exact .inl ⟨seeking, found, (sound_after schedule n).consistent.puts_of_place placed⟩

/-- Each refusal leaves fewer workers that can still refuse the caller: those that are ever killed and
not gone yet. So there is an attempt that succeeds. -/
theorem Fair.placed (fair : Fair schedule ticket) (ids : List Nat)
    (mortal : ∀ k id w, (after schedule k).dispatcher.worker? id = some w →
      w.conversation = message.conversation → w.phase.isKilled = true →
        id ∈ ids ∨ IsGone (after schedule n) message.conversation id)
    (seeking : (after schedule n).callers[ticket]? = some ⟨message, .seeking⟩) :
    ∃ m ≥ n, Placed schedule m ticket message := by
  induction length : ids.length using Nat.strongRecOn generalizing ids n with
  | ind size ih =>
      obtain ⟨m, le, seeking, now, sends⟩ := fair.attempt seeking
      rcases placed_or_refused seeking sends with placed | ⟨id, refusal⟩
      · exact ⟨m, le, placed⟩
      · obtain ⟨registered, w, found, same, killed⟩ := refusal.killed
        have mem : id ∈ ids := by
          rcases mortal m id w found same killed with mem | gone
          · exact mem
          · exact absurd registered (gone.later le).unnamed
        obtain ⟨m', lt, seeking, gone⟩ := fair.return refusal.2
        have fewer : (ids.erase id).length < size := by
          have := List.length_pos_of_mem mem
          rw [List.length_erase_of_mem mem]
          omega
        obtain ⟨k, le', placed⟩ := ih _ fewer (ids.erase id) (fun k id' w' found' same' killed' => by
          by_cases this_one : id' = id
          · exact .inr (this_one ▸ gone)
          · rcases mortal k id' w' found' same' killed' with mem | gone
            · exact .inl ((List.mem_erase_of_ne this_one).mpr mem)
            · exact .inr (gone.later (by omega))) seeking rfl
        exact ⟨k, by omega, placed⟩

/-- The message has been put into one mailbox, once, from the time on at which it was. -/
theorem Placed.count_accepted (placed : Placed schedule m ticket message) (k : Nat) :
    ((after schedule k).dispatcher.accepted message.conversation).count ⟨ticket, message⟩ =
      if m < k then 1 else 0 := by
  have told := accepted_iff_served ((List.range k).map schedule) message.conversation ⟨ticket, message⟩
  have once := accepted_nodup ((List.range k).map schedule) message.conversation
  split
  · rename_i later
    exact List.count_eq_one_of_mem once (told.mpr ⟨served_after placed.served later, rfl⟩)
  · rename_i earlier
    refine List.count_eq_zero_of_not_mem fun mem => ?_
    have served := served_after (told.mp mem).1 (Nat.le_of_not_lt earlier)
    rw [placed.sought] at served
    cases served

end Traffic

open Traffic in
/-- Whatever callers and workers do and in whatever order: a caller is refused by killed workers of
its conversation only, and by each of them once; taking a worker out of the registry takes out no
worker but one that was killed. A caller that is not stopped for ever, in a run in which only finitely
many workers of its conversation are killed, is served: at one step its message is put behind the
others in one mailbox, and it is put nowhere before or after. -/
theorem restart_after_kills (schedule : Nat → Event Work) :
    let t := after schedule
    (∀ n ticket message id, Refusal schedule n ticket message id →
      ∃ w, (t n).dispatcher.worker? id = some w ∧ w.conversation = message.conversation ∧
        w.phase.isKilled = true) ∧
    (∀ n m ticket message message' id, Refusal schedule n ticket message id →
      Refusal schedule m ticket message' id → n = m) ∧
    (∀ n ticket, schedule n = .discard ticket →
      ∀ c id, (t n).dispatcher.registry.get? c = some id →
        (t (n + 1)).dispatcher.registry.get? c = some id ∨
        ∃ w, (t n).dispatcher.worker? id = some w ∧ w.conversation = c ∧ w.phase.isKilled = true) ∧
    ∀ n message, schedule n = .call message →
      let ticket := (t n).callers.length
      Fair schedule ticket → FinitelyKilled schedule message.conversation →
      ∃ m > n, (∃ id, Dispatcher.Puts (t m).dispatcher (t (m + 1)).dispatcher id ⟨ticket, message⟩) ∧
        (∀ k > m, (t k).callers[ticket]? = some ⟨message, .served⟩) ∧
        ∀ k, ((t k).dispatcher.accepted message.conversation).count ⟨ticket, message⟩ =
          if m < k then 1 else 0 := by
  intro t
  refine ⟨?_, ?_, ?_, ?_⟩
  · intro n ticket message id refusal
    exact refusal.killed.2
  · intro n m ticket message message' id refusal again
    have := refusal.not_again again
    have := again.not_again refusal
    omega
  · intro n ticket discards c id registered
    simp only [t, after_succ, discards]
    exact (sound_after schedule n).registry_discard ticket registered
  · intro n message calls ticket fair finitelyKilled
    obtain ⟨ids, mortal⟩ := finitelyKilled
    have seeking : (t (n + 1)).callers[ticket]? = some ⟨message, .seeking⟩ := by
      simp only [t, after_succ, calls]
      exact (getElem?_concat _ _ _).trans (if_pos rfl)
    obtain ⟨m, le, placed⟩ := fair.placed ids (fun k id w found same killed =>
      .inl (mortal k id w found same killed)) seeking
    exact ⟨m, le, placed.puts, fun k later => served_after placed.served later,
      placed.count_accepted⟩

/-- Two callers come upon the same killed worker. One takes it out and starts another; what the other
one does then leaves the new worker in the registry, and puts its message there. -/
theorem restart_after_kills_raced :
    let message (text : String) : Message :=
      ⟨text, ⟨7, none, none, none⟩, ⟨1, "private"⟩, text, .epoch⟩
    let schedule (n : Nat) : Event Unit := List.getD
      [.call (message "a"), .send 0 0, .start 0 fun _ => (), .kill 0, .call (message "b"),
        .call (message "c"), .send 1 1, .send 1 2, .discard 1, .send 1 1, .discard 2, .send 1 2]
      n (.retire 5)
    let t := Traffic.after schedule
    Traffic.Refusal schedule 6 1 (message "b") 0 ∧ Traffic.Refusal schedule 7 2 (message "c") 0 ∧
      (t 11).dispatcher.registry.get? ⟨1, 7⟩ = some 1 ∧
      ∃ m > 5, ∃ id, Dispatcher.Puts (t m).dispatcher (t (m + 1)).dispatcher id ⟨2, message "c"⟩ := by
  intro message schedule t
  have idle : ∀ k ≥ 12, schedule k = .retire 5 := by
    intro k le
    simp only [schedule, List.getD_eq_getElem?_getD]
    rw [List.getElem?_eq_none le, Option.getD_none]
  have workers : (t 12).dispatcher.workers.length = 2 := by decide
  have served : (t 12).callers[2]? = some ⟨message "c", .served⟩ := by decide
  have still (n : Nat) (le : 12 ≤ n) : t n = t 12 := by
    have absent : (Traffic.after schedule 12).dispatcher.workers.length ≤ 5 := by decide
    exact Traffic.after_of_idle idle (Traffic.step_retire_absent absent) le
  have seeking : (t 11).callers[2]? = some ⟨message "c", .seeking⟩ := by decide
  have fair : Traffic.Fair schedule 2 := by
    constructor
    · intro n text seeking
      by_cases early : n ≤ 11
      · exact ⟨11, early, 1, rfl⟩
      · rw [show Traffic.after schedule n = t 12 from still n (by omega), served] at seeking
        cases seeking
    · intro n text id refused
      by_cases early : n ≤ 10
      · exact ⟨10, early, rfl⟩
      · by_cases last : n = 11
        · subst last
          rw [show (Traffic.after schedule 11).callers[2]? = _ from seeking] at refused
          cases refused
        · rw [show Traffic.after schedule n = t 12 from still n (by omega), served] at refused
          cases refused
  have killed : Traffic.FinitelyKilled schedule ⟨1, 7⟩ := by
    refine ⟨[0], fun n id w found same killed => ?_⟩
    have later : (t 12).dispatcher.worker? id = some w := by
      by_cases early : n ≤ 12
      · exact (Traffic.changes_after schedule early).closed_stays found
          (Traffic.isOpen_of_isKilled killed)
      · rw [← still n (by omega)]
        exact found
    have alive : ∀ i < 2, i ≠ 0 → ((t 12).dispatcher.worker? i).any (·.phase.isKilled) = false := by
      decide
    have bound := (List.getElem?_eq_some_iff.mp later).1
    by_cases first : id = 0
    · exact List.mem_singleton.mpr first
    · have := alive id (by omega) first
      rw [later, Option.any_some, killed] at this
      cases this
  obtain ⟨m, later, puts, _⟩ :=
    (restart_after_kills schedule).2.2.2 5 (message "c") rfl fair killed
  exact ⟨⟨by decide, by decide⟩, ⟨by decide, by decide⟩, by decide, m, later, puts⟩

end Registrar
