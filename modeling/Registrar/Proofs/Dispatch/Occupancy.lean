import Registrar.Proofs.Dispatch.Logbook

/-!
Which conversations are in the registry.

When everyone has done what can be done at a time, the registry can be read off the log: it names the
worker that is at work on a message of a conversation, the one that has been idle for less than the
idle timeout, and the one that was killed if no message has been put into a mailbox since.

* `ClockedTraffic.chronicled_run`: what the log tells about the workers, at every time.
* `ClockedTraffic.Chronicled.registered_iff`: the registry of a quiescent traffic.
* `ClockedTraffic.Chronicled.retired`: who is retired has nothing to do, and has waited for long.
-/

namespace Registrar

variable {Work : Type}

namespace ClockedTraffic

variable {s : ClockedTraffic Work} {timeout : Nat}

/-! ### What is known at every time -/

/-- Some caller of a conversation has not put its message into a mailbox yet. -/
def Awaited (callers : List Caller) (c : Conversation) : Prop :=
  ∃ (ticket : Nat) (caller : Caller), callers[ticket]? = some caller ∧
    caller.message.conversation = c ∧ caller.stage ≠ .served

structure Chronicled (s : ClockedTraffic Work) : Prop where
  sound : s.traffic.Sound
  /-- The log tells of workers that there are. -/
  known : ∀ e ∈ s.log, (s.traffic.dispatcher.worker? e.2.worker).isSome = true
  /-- An idle worker has been waiting since the time of which the log tells. -/
  rests {id since : Nat} {w : Worker Work} : s.traffic.dispatcher.worker? id = some w →
    w.phase = .idle since → restsSince id s.log = some since
  /-- Whoever was killed according to the log was killed. -/
  killed {t id : Nat} {job : Job} : (t, .lost id job) ∈ s.log →
    ∃ w, s.traffic.dispatcher.worker? id = some w ∧ w.phase.isKilled = true
  /-- A worker that was killed is in the registry only until the next message is put into a
  mailbox. -/
  orphaned {c : Conversation} {id : Nat} {w : Worker Work} :
    s.traffic.dispatcher.registry.get? c = some id → s.traffic.dispatcher.worker? id = some w →
      w.phase.isKilled = true → Orphaned c id s.log
  /-- It is there until then, or there is a caller about. -/
  kept {c : Conversation} {id : Nat} : Orphaned c id s.log →
    s.traffic.dispatcher.registry.get? c = some id ∨ Awaited s.traffic.callers c

/-! ### Callers -/

section Callers

variable {t : Traffic Work} {c : Conversation} {id : Nat}

/-- A caller that goes on to another stage is about if it has not been served. -/
theorem Awaited.set {callers : List Caller} {ticket : Nat} {before after : Caller}
    (awaited : Awaited callers c) (found : callers[ticket]? = some before)
    (same : after.message = before.message) (unserved : after.stage ≠ .served) :
    Awaited (callers.set ticket after) c := by
  obtain ⟨i, caller, there, own, waits⟩ := awaited
  refine ⟨i, if i = ticket then after else caller, ?_, ?_⟩
  · rw [getElem?_set_of_some found]
    split
    · rfl
    · exact there
  · split
    · rename_i this_one
      rw [this_one, found] at there
      obtain rfl := Option.some.inj there
      exact ⟨(congrArg Message.conversation same).trans own, unserved⟩
    · exact ⟨own, waits⟩

/-- A caller is about until its message is put into a mailbox. -/
theorem awaited_step (e : Event Work) (awaited : Awaited t.callers c) :
    Awaited (t.step e).callers c ∨
      ∃ entry ∈ added t.dispatcher.journal (t.step e).dispatcher.journal, entry.Admits c := by
  cases e with
  | call message =>
      obtain ⟨ticket, caller, there, own, waits⟩ := awaited
      refine .inl ⟨ticket, caller, ?_, own, waits⟩
      have bound := (List.getElem?_eq_some_iff.mp there).1
      exact (List.getElem?_append_left bound).trans there
  | send now ticket =>
      simp only [Traffic.step]
      rcases Traffic.send_cases t now ticket with same | ⟨message, d, found, placed, after⟩ |
        ⟨message, id, found, _, after⟩
      · rw [same]
        exact .inl awaited
      · rw [after]
        obtain ⟨i, caller, there, own, waits⟩ := awaited
        by_cases this_one : i = ticket
        · rw [this_one, found] at there
          obtain rfl := Option.some.inj there
          right
          rw [← own]
          exact admits_of_place placed
        · refine .inl ⟨i, caller, ?_, own, waits⟩
          rw [getElem?_set_of_some found, if_neg this_one]
          exact there
      · rw [after]
        exact .inl (awaited.set found rfl fun no => by cases no)
  | discard ticket =>
      simp only [Traffic.step]
      rcases Traffic.discard_cases t ticket with same | ⟨message, id, found, after⟩
      · rw [same]
        exact .inl awaited
      · rw [after]
        exact .inl (awaited.set found rfl fun no => by cases no)
  | start id begin =>
      rw [Traffic.callers_step_start]
      exact .inl awaited
  | progress | finish | kill | retire => exact .inl awaited

/-- A killed worker is taken out of the registry by a caller, who is about afterwards. -/
theorem registered_step (e : Event Work) {w : Worker Work}
    (named : t.dispatcher.registry.get? c = some id) (found : t.dispatcher.worker? id = some w)
    (killed : w.phase.isKilled = true) :
    (t.step e).dispatcher.registry.get? c = some id ∨ Awaited (t.step e).callers c := by
  cases e with
  | call message => exact .inl named
  | send now ticket =>
      simp only [Traffic.step]
      rcases Traffic.send_cases t now ticket with same | ⟨message, d, _, placed, after⟩ |
        ⟨_, _, _, _, after⟩
      · rw [same]
        exact .inl named
      · rw [after]
        rcases Dispatcher.place_cases placed with ⟨_, _, _, _, _, rfl⟩ | ⟨absent, rfl⟩
        · exact .inl named
        · left
          rw [Table.get?_insert, if_neg]
          · exact named
          · rintro rfl
            rw [absent] at named
            cases named
      · rw [after]
        exact .inl named
  | discard ticket =>
      simp only [Traffic.step]
      rcases Traffic.discard_cases t ticket with same | ⟨message, i, there, after⟩
      · rw [same]
        exact .inl named
      · rw [after]
        by_cases own : message.conversation = c
        · right
          refine ⟨ticket, ⟨message, .seeking⟩, ?_, own, fun no => by cases no⟩
          rw [getElem?_set_of_some there, if_pos rfl]
        · left
          rcases Dispatcher.discard_cases t.dispatcher message.conversation i with same | ⟨_, after⟩
          · simp only [same]
            exact named
          · simp only [after]
            rw [Table.get?_erase, if_neg (Ne.symm own)]
            exact named
  | start i begin =>
      left
      simp only [Traffic.step]
      split
      · rename_i started
        rw [Dispatcher.registry_start started]
        exact named
      · exact named
  | progress i work =>
      exact .inl ((congrArg (·.get? c) (Dispatcher.registry_progress ..)).trans named)
  | finish now i outcome =>
      exact .inl ((congrArg (·.get? c) (Dispatcher.registry_finish ..)).trans named)
  | kill i => exact .inl ((congrArg (·.get? c) (Dispatcher.registry_kill ..)).trans named)
  | retire i =>
      left
      simp only [Traffic.step]
      rcases Dispatcher.retire_cases t.dispatcher i with same | ⟨c', since, idle, registered, after⟩
      · rw [same]
        exact named
      · rw [after]
        simp only
        rw [Table.get?_erase, if_neg]
        · exact named
        · rintro rfl
          rw [named] at registered
          obtain rfl := Option.some.inj registered
          rw [found] at idle
          obtain rfl := Option.some.inj idle
          cases killed

end Callers

/-! ### What holds at every time -/

theorem chronicled_start : Chronicled (start : ClockedTraffic Work) where
  sound := Traffic.sound_start
  known _ mem := by cases mem
  rests found := by cases found
  killed mem := by cases mem
  orphaned named := by cases named
  kept orphaned := by cases orphaned

theorem Chronicled.take (h : Chronicled s) {e : Event Work}
    (timely : e.timely timeout s.now s.traffic.dispatcher = true) : Chronicled (s.take e) := by
  have change := h.sound.change_step e
  have consistent := h.sound.consistent
  refine ⟨h.sound.step e, known_change change h.known, ?_, ?_, ?_, ?_⟩
  · intro id since w found idle
    exact rests_change change (punctual_step timely) h.known (fun _ _ _ => h.rests) id w since found
      idle
  · intro t id job mem
    exact killed_change change consistent (fun _ _ _ => h.killed) t id job mem
  · intro c id w named found killed
    exact orphaned_change change consistent (fun _ _ _ => h.orphaned) c id w named found killed
  · intro c id orphaned
    rcases orphaned.of_append with ⟨job, mem, rfl⟩ | ⟨before, silent⟩
    · exact .inl (registered_of_lost change consistent mem)
    · rcases h.kept before with named | awaited
      · obtain ⟨t, job, mem⟩ := before.mem
        obtain ⟨w, found, killed⟩ := h.killed mem
        exact registered_step e named found killed
      · rcases awaited_step e awaited with awaited | ⟨entry, mem, admits⟩
        · exact .inr awaited
        · exact absurd admits (silent entry mem)

theorem Chronicled.step (h : Chronicled s) (happening : Happening Work) :
    Chronicled (s.step timeout happening) := by
  cases happening with
  | pass milliseconds => exact ⟨h.sound, h.known, h.rests, h.killed, h.orphaned, h.kept⟩
  | event e =>
      simp only [ClockedTraffic.step]
      split
      · rename_i timely
        exact h.take timely
      · exact h

/-- Whatever happens, the log tells about the workers. -/
theorem chronicled_run (timeout : Nat) (happenings : List (Happening Work)) :
    Chronicled (run timeout happenings) := by
  induction happenings using List.reverseRecOn with
  | nil => exact chronicled_start
  | append_singleton happenings h ih =>
      rw [run_concat]
      exact ih.step h

/-! ### When everyone waits -/

end ClockedTraffic

/-- Whether a worker has nothing to do at a time: it is not idle, or it is idle without messages, and
has not been so for the idle timeout. -/
def Worker.waits (timeout now : Nat) (w : Worker Work) : Bool :=
  match w.phase with
  | .idle since => w.mailbox.isEmpty && now < since + timeout
  | _ => true

def Phase.isBusy : Phase Work → Bool
  | busy _ _ => true
  | _ => false

def Phase.isIdle : Phase Work → Bool
  | idle _ => true
  | _ => false

theorem Phase.isOpen_of_isBusy {phase : Phase Work} (busy : phase.isBusy = true) :
    phase.isOpen = true := by
  cases phase <;> first | rfl | cases busy

theorem Phase.isOpen_of_isIdle {phase : Phase Work} (idle : phase.isIdle = true) :
    phase.isOpen = true := by
  cases phase <;> first | rfl | cases idle

namespace ClockedTraffic

variable {s : ClockedTraffic Work} {timeout : Nat} {c : Conversation} {id : Nat}

/-- All messages are in mailboxes, and all that can be done at the time has been done, but for what
handlers do. -/
structure Quiescent (timeout : Nat) (s : ClockedTraffic Work) : Prop where
  callers : ∀ caller ∈ s.traffic.callers, caller.stage = .served
  workers : ∀ w ∈ s.traffic.dispatcher.workers, w.waits timeout s.now = true

def AtWork (s : ClockedTraffic Work) (c : Conversation) (id : Nat) : Prop :=
  ∃ w ∈ s.traffic.dispatcher.worker? id, w.conversation = c ∧ w.phase.isBusy = true

/-- A worker of the conversation is idle, without messages, and has been so for less than the idle
timeout. -/
def AtRest (timeout : Nat) (s : ClockedTraffic Work) (c : Conversation) (id : Nat) : Prop :=
  ∃ w ∈ s.traffic.dispatcher.worker? id, w.conversation = c ∧ w.phase.isIdle = true ∧
    w.mailbox = [] ∧ ∃ since ∈ restsSince id s.log, s.now < since + timeout

instance : Decidable (s.AtWork c id) :=
  inferInstanceAs (Decidable (∃ w ∈ s.traffic.dispatcher.worker? id, _))

instance : Decidable (s.AtRest timeout c id) :=
  inferInstanceAs (Decidable (∃ w ∈ s.traffic.dispatcher.worker? id, _))

/-- The registry when everyone waits. -/
theorem Chronicled.registered_iff (h : Chronicled s) (quiescent : s.Quiescent timeout) :
    s.traffic.dispatcher.registry.get? c = some id ↔
      s.AtWork c id ∨ s.AtRest timeout c id ∨ Orphaned c id s.log := by
  constructor
  · intro named
    obtain ⟨w, found, rfl, state⟩ := h.sound.consistent.named named
    have waits := quiescent.workers w (List.mem_of_getElem? found)
    obtain ⟨c, mailbox, phase⟩ := w
    cases phase with
    | busy job work => exact .inl ⟨_, found, rfl, rfl⟩
    | idle since =>
        obtain ⟨empty, early⟩ : mailbox = [] ∧ s.now < since + timeout := by
          simpa [Worker.waits] using waits
        subst empty
        exact .inr (.inl ⟨_, found, rfl, rfl, rfl, since, h.rests found rfl, early⟩)
    | retired => rcases state with no | no <;> cases no
    | killed => exact .inr (.inr (h.orphaned named found rfl))
  · rintro (⟨w, found, rfl, busy⟩ | ⟨w, found, rfl, idle, -⟩ | orphaned)
    · exact h.sound.consistent.registered_of_open found (Phase.isOpen_of_isBusy busy)
    · exact h.sound.consistent.registered_of_open found (Phase.isOpen_of_isIdle idle)
    · refine (h.kept orphaned).resolve_right ?_
      rintro ⟨ticket, caller, there, -, waits⟩
      exact waits (quiescent.callers caller (List.mem_of_getElem? there))

/-- Whoever has messages to handle, or is at work on one, is in the registry, at every time. -/
theorem Chronicled.registered_of_pending (h : Chronicled s) {w : Worker Work}
    (found : s.traffic.dispatcher.worker? id = some w) (pending : w.pending ≠ []) :
    s.traffic.dispatcher.registry.get? w.conversation = some id := by
  refine h.sound.consistent.registered_of_open found ?_
  cases isOpen : w.phase.isOpen with
  | true => rfl
  | false => exact absurd (h.sound.consistent.pending_of_closed found isOpen) pending

/-- A worker that retires has no messages, and has been idle for the idle timeout. -/
theorem Chronicled.retired (h : Chronicled s)
    (gone : (s.step timeout (.event (.retire id))).traffic.dispatcher.registry.get? c ≠
      s.traffic.dispatcher.registry.get? c) :
    ∃ since, s.traffic.dispatcher.worker? id = some ⟨c, [], .idle since⟩ ∧
      restsSince id s.log = some since ∧ since + timeout ≤ s.now := by
  simp only [ClockedTraffic.step] at gone
  split at gone
  · rename_i timely
    simp only [ClockedTraffic.take, Traffic.step] at gone
    rcases Dispatcher.retire_cases s.traffic.dispatcher id with same |
      ⟨c', since, found, registered, after⟩
    · rw [same] at gone
      exact absurd rfl gone
    · rw [after] at gone
      simp only [Table.get?_erase] at gone
      split at gone
      · rename_i this_one
        subst this_one
        simp only [Event.timely, found, decide_eq_true_eq] at timely
        exact ⟨since, found, h.rests found rfl, timely⟩
      · exact absurd rfl gone
  · exact absurd rfl gone

/-- The conversations in the registry, each once. -/
theorem active_eq (d : Dispatcher Work) :
    ∃ keys : List Conversation, keys.Nodup ∧ d.active = keys.length ∧
      ∀ c, c ∈ keys ↔ ∃ id, d.registry.get? c = some id := by
  refine ⟨d.registry.keys, d.registry.nodup, ?_, fun c => ?_⟩
  · exact (List.length_map ..).symm
  · rw [Table.mem_keys_iff, Option.isSome_iff_exists]

/-- The registry is empty if nobody was killed, nobody is at work, and everyone who has been waiting
has been so for the idle timeout. -/
theorem Chronicled.active_eq_zero (h : Chronicled s) (quiescent : s.Quiescent timeout)
    (unharmed : ∀ t id job, (t, .lost id job) ∉ s.log) (idle : ∀ c id, ¬ s.AtWork c id)
    (quiet : ∀ id since, restsSince id s.log = some since → since + timeout ≤ s.now) :
    s.traffic.dispatcher.active = 0 := by
  obtain ⟨keys, -, count, mem_keys⟩ := active_eq s.traffic.dispatcher
  rw [count, List.length_eq_zero_iff, List.eq_nil_iff_forall_not_mem]
  intro c mem
  obtain ⟨id, named⟩ := (mem_keys c).mp mem
  rcases (h.registered_iff quiescent).mp named with busy | ⟨_, _, _, _, _, since, rests, early⟩ |
    orphaned
  · exact idle c id busy
  · exact Nat.not_lt.mpr (quiet id since rests) early
  · obtain ⟨t, job, mem⟩ := orphaned.mem
    exact unharmed t id job mem

end ClockedTraffic

end Registrar
