import Registrar.Proofs.Dispatch.Exclusion
import Registrar.Proofs.Dispatch.Journal

/-!
Traffic on a clock, and a log of it.

A traffic leaves open when its events happen. Here they happen at times on a clock, and a worker may
retire only when it has been idle for the idle timeout. What is written into the journal is kept
together with the time, so that the log tells when a worker was started, when it was done with its
last message, and over which message it was killed.

What is told of a worker is told by `restsSince` and `Orphaned`. Each step of the dispatcher keeps the
log in agreement with the workers and the registry.

* `ClockedTraffic.rests_change`: since when a worker has been idle.
* `ClockedTraffic.killed_change`, `ClockedTraffic.orphaned_change`: who was killed, and which
  conversation still has a killed worker in the registry.
-/

namespace Registrar

variable {Work : Type}

/-! ### What a log tells -/

/-- An entry of a journal and the time at which it was written. -/
abbrev Logged := Nat × Entry

/-- Since when a worker has been waiting for a message, if it is: since it was done with its last
message or, before its first, since it got that message, for which it was started. -/
def restsSince (id : Nat) : List Logged → Option Nat
  | [] => none
  | (t, .handled i _ _) :: log => if i = id then some t else restsSince id log
  | (t, .accepted i _) :: log => if i = id then (restsSince id log).or (some t) else restsSince id log
  | (_, .lost _ _) :: log => restsSince id log

/-- The entry tells that a message of a conversation was put into a mailbox. -/
def Entry.Admits (c : Conversation) : Entry → Prop
  | accepted _ job => job.message.conversation = c
  | _ => False

/-- The entry tells that a worker was killed with a message of a conversation in its hands or in its
mailbox. -/
def Entry.Loses (c : Conversation) (id : Nat) : Entry → Prop
  | lost i job => i = id ∧ job.message.conversation = c
  | _ => False

/-- A worker was killed with a message of a conversation, and no message of the conversation was put
into a mailbox since. The latest entry comes first. -/
inductive Orphaned (c : Conversation) (id : Nat) : List Logged → Prop where
  | lost {e : Logged} {log : List Logged} (loses : e.2.Loses c id) : Orphaned c id (e :: log)
  | since {e : Logged} {log : List Logged} (silent : ¬ e.2.Admits c) (before : Orphaned c id log) :
      Orphaned c id (e :: log)

instance (c : Conversation) : DecidablePred (Entry.Admits c)
  | .accepted _ job => inferInstanceAs (Decidable (job.message.conversation = c))
  | .handled .. | .lost .. => inferInstanceAs (Decidable False)

instance (c : Conversation) (id : Nat) : DecidablePred (Entry.Loses c id)
  | .lost i job => inferInstanceAs (Decidable (i = id ∧ job.message.conversation = c))
  | .handled .. | .accepted .. => inferInstanceAs (Decidable False)

theorem orphaned_cons_iff {c : Conversation} {id : Nat} {e : Logged} {log : List Logged} :
    Orphaned c id (e :: log) ↔ e.2.Loses c id ∨ ¬ e.2.Admits c ∧ Orphaned c id log := by
  constructor
  · rintro (loses | ⟨silent, before⟩)
    · exact .inl loses
    · exact .inr ⟨silent, before⟩
  · rintro (loses | ⟨silent, before⟩)
    · exact .lost loses
    · exact .since silent before

instance Orphaned.decidable (c : Conversation) (id : Nat) : DecidablePred (Orphaned c id)
  | [] => isFalse (by rintro ⟨⟩)
  | e :: log =>
    have := Orphaned.decidable c id log
    decidable_of_iff (e.2.Loses c id ∨ ¬ e.2.Admits c ∧ Orphaned c id log) orphaned_cons_iff.symm

section Log

variable {log : List Logged} {written : List Entry} {id now : Nat} {c : Conversation}

def logged (now : Nat) (written : List Entry) : List Logged := written.map (now, ·)

theorem restsSince_cons_of_ne {e : Logged} (other : e.2.worker ≠ id) :
    restsSince id (e :: log) = restsSince id log := by
  obtain ⟨t, e⟩ := e
  cases e with
  | accepted | handled => exact if_neg other
  | lost => rfl

theorem restsSince_eq_none (others : ∀ e ∈ log, e.2.worker ≠ id) : restsSince id log = none := by
  induction log with
  | nil => rfl
  | cons e log ih =>
      obtain ⟨other, others⟩ := List.forall_mem_cons.mp others
      rw [restsSince_cons_of_ne other, ih others]

theorem restsSince_append_of_ne (others : ∀ e ∈ written, e.worker ≠ id) :
    restsSince id (logged now written ++ log) = restsSince id log := by
  induction written with
  | nil => rfl
  | cons e written ih =>
      obtain ⟨other, others⟩ := List.forall_mem_cons.mp others
      exact (restsSince_cons_of_ne other).trans (ih others)

/-- A worker that gets one more message was started before. -/
theorem restsSince_accepted {since : Nat} (rests : restsSince id log = some since) (job : Job) :
    restsSince id ((now, .accepted id job) :: log) = some since := by
  rw [restsSince, if_pos rfl, rests, Option.some_or]

/-- The killing is among the entries that are added, or came before, and nothing is admitted. -/
theorem Orphaned.of_append (orphaned : Orphaned c id (logged now written ++ log)) :
    (∃ job, .lost id job ∈ written ∧ job.message.conversation = c) ∨
      Orphaned c id log ∧ ∀ e ∈ written, ¬ e.Admits c := by
  induction written with
  | nil => exact .inr ⟨orphaned, fun _ mem => by cases mem⟩
  | cons e written ih =>
      rcases orphaned_cons_iff.mp orphaned with loses | ⟨silent, before⟩
      · cases e with
        | lost i job =>
            obtain ⟨rfl, own⟩ := loses
            exact .inl ⟨job, List.mem_cons_self, own⟩
        | accepted | handled => cases loses
      · rcases ih before with ⟨job, mem, own⟩ | ⟨before, silent'⟩
        · exact .inl ⟨job, List.mem_cons_of_mem _ mem, own⟩
        · exact .inr ⟨before, List.forall_mem_cons.mpr ⟨silent, silent'⟩⟩

/-- The log tells of the killing. -/
theorem Orphaned.mem (orphaned : Orphaned c id log) : ∃ t job, (t, .lost id job) ∈ log := by
  induction log with
  | nil => cases orphaned
  | cons e log ih =>
      obtain ⟨t, e⟩ := e
      rcases orphaned_cons_iff.mp orphaned with loses | ⟨-, before⟩
      · cases e with
        | lost i job =>
            obtain ⟨rfl, -⟩ := loses
            exact ⟨t, job, List.mem_cons_self⟩
        | accepted | handled => cases loses
      · obtain ⟨t', job, mem⟩ := ih before
        exact ⟨t', job, List.mem_cons_of_mem _ mem⟩

theorem Orphaned.append (orphaned : Orphaned c id log) (silent : ∀ e ∈ written, ¬ e.Admits c) :
    Orphaned c id (logged now written ++ log) := by
  induction written with
  | nil => exact orphaned
  | cons e written ih =>
      obtain ⟨here, silent⟩ := List.forall_mem_cons.mp silent
      exact .since here (ih silent)

end Log

/-! ### Traffic on a clock -/

/-- A traffic, the time, and what was written into its journal when, the latest first. -/
structure ClockedTraffic (Work : Type) where
  now : Nat
  traffic : Traffic Work
  log : List Logged

/-- Whether the time has come for an event, on a clock that shows `now`: what is done now is done with
this time, and a worker retires when it has been idle for the idle timeout. -/
def Event.timely (timeout now : Nat) (d : Dispatcher Work) : Event Work → Bool
  | .send t _ => t = now
  | .finish t _ _ => t = now
  | .retire id =>
    match d.worker? id with
    | some ⟨_, _, .idle since⟩ => since + timeout ≤ now
    | _ => false
  | _ => true

namespace ClockedTraffic

/-- Something that can happen next. -/
inductive Happening (Work : Type) where
  | event (e : Event Work)
  /-- Time passes. -/
  | pass (milliseconds : Nat)

def start : ClockedTraffic Work := ⟨0, .start, []⟩

def added (before after : List Entry) : List Entry := after.take (after.length - before.length)

def take (s : ClockedTraffic Work) (e : Event Work) : ClockedTraffic Work :=
  let t := s.traffic.step e
  ⟨s.now, t, logged s.now (added s.traffic.dispatcher.journal t.dispatcher.journal) ++ s.log⟩

/-- What happens next; nothing does if the time for it has not come. -/
def step (timeout : Nat) (s : ClockedTraffic Work) : Happening Work → ClockedTraffic Work
  | .event e => if e.timely timeout s.now s.traffic.dispatcher then s.take e else s
  | .pass milliseconds => { s with now := s.now + milliseconds }

def run (timeout : Nat) (happenings : List (Happening Work)) : ClockedTraffic Work :=
  happenings.foldl (step timeout) start

theorem run_concat (timeout : Nat) (happenings : List (Happening Work)) (h : Happening Work) :
    run timeout (happenings ++ [h]) = (run timeout happenings).step timeout h := by
  rw [run, List.foldl_append]
  rfl

theorem added_eq {before after written : List Entry} (same : after = written ++ before) :
    added before after = written := by
  rw [added, same, List.length_append, Nat.add_sub_cancel, List.take_left]

section Change

open Dispatcher

variable {d d' : Dispatcher Work} {log : List Logged}

/-- The workers that begin to wait begin now. -/
def Punctual (now : Nat) (d d' : Dispatcher Work) : Prop :=
  ∀ id w since, d'.worker? id = some w → w.phase = .idle since →
    since = now ∨ ∃ v, d.worker? id = some v ∧ v.phase = .idle since

theorem Punctual.of_same {now : Nat} (same : ∀ id, d'.worker? id = d.worker? id) :
    Punctual now d d' :=
  fun id w _ found idle => .inr ⟨w, (same id).symm.trans found, idle⟩

/-- One worker has its turn. -/
theorem Punctual.of_setWorker {id now : Nat} {v w : Worker Work} (before : d.worker? id = some v)
    (after : ∀ i, d'.worker? i = (d.setWorker id w).worker? i)
    (here : ∀ since, w.phase = .idle since → since = now ∨ v.phase = .idle since) :
    Punctual now d d' := by
  intro i u since found idle
  rw [after, worker?_setWorker before] at found
  split at found
  · rename_i this_one
    subst this_one
    obtain rfl := Option.some.inj found
    exact (here since idle).imp_right fun idle => ⟨v, before, idle⟩
  · exact .inr ⟨u, found, idle⟩

theorem punctual_place {now : Nat} {job : Job} (placed : d.place now job = .ok d') :
    Punctual now d d' := by
  rcases place_cases placed with ⟨id, w, _, before, _, rfl⟩ | ⟨_, rfl⟩
  · exact .of_setWorker before (fun _ => rfl) fun _ idle => .inr idle
  · intro i u since found idle
    have after := (getElem?_concat d.workers _ i).symm.trans found
    split at after
    · obtain rfl := Option.some.inj after
      exact .inl (Phase.idle.inj idle).symm
    · exact .inr ⟨u, after, idle⟩

/-- An event for which the time has come makes workers wait from now on. -/
theorem punctual_step {t : Traffic Work} {e : Event Work} {timeout now : Nat}
    (timely : e.timely timeout now t.dispatcher = true) :
    Punctual now t.dispatcher (t.step e).dispatcher := by
  have stays : Punctual now t.dispatcher t.dispatcher := .of_same fun _ => rfl
  cases e with
  | call message => exact stays
  | send time ticket =>
      obtain rfl : time = now := of_decide_eq_true timely
      simp only [Traffic.step]
      rcases Traffic.send_cases t time ticket with same | ⟨_, d, _, placed, after⟩ |
        ⟨_, _, _, _, after⟩
      · rw [same]
        exact stays
      · rw [after]
        exact punctual_place placed
      · rw [after]
        exact stays
  | discard ticket =>
      refine .of_same fun id => ?_
      rcases Traffic.discard_cases t ticket with same | ⟨message, i, _, after⟩
      · exact congrArg (·.dispatcher.worker? id) same
      · refine (congrArg (·.dispatcher.worker? id) after).trans ?_
        rcases Dispatcher.discard_cases t.dispatcher message.conversation i with same | ⟨_, after⟩
        · exact congrArg (·.worker? id) same
        · exact congrArg (·.worker? id) after
  | start id begin =>
      simp only [Traffic.step]
      split
      · rename_i started
        obtain ⟨c, rest, since, before, rfl⟩ := start_cases started
        exact .of_setWorker before (fun _ => rfl) fun _ idle => by cases idle
      · exact stays
  | progress id work =>
      simp only [Traffic.step]
      rcases progress_cases t.dispatcher id work with same | ⟨c, mailbox, job, w, before, after⟩
      · rw [same]
        exact stays
      · rw [after]
        exact .of_setWorker before (fun _ => rfl) fun _ idle => by cases idle
  | finish time id outcome =>
      obtain rfl : time = now := of_decide_eq_true timely
      simp only [Traffic.step]
      rcases finish_cases t.dispatcher time id outcome with same |
        ⟨c, mailbox, job, w, before, after⟩
      · rw [same]
        exact stays
      · rw [after]
        exact .of_setWorker before (fun _ => rfl) fun _ idle => .inl (Phase.idle.inj idle).symm
  | kill id =>
      simp only [Traffic.step]
      rcases kill_cases t.dispatcher id with same | ⟨c, mailbox, job, w, before, after⟩
      · rw [same]
        exact stays
      · rw [after]
        exact .of_setWorker before (fun _ => rfl) fun _ idle => by cases idle
  | retire id =>
      simp only [Traffic.step]
      rcases retire_cases t.dispatcher id with same | ⟨c, since, before, _, after⟩
      · rw [same]
        exact stays
      · rw [after]
        exact .of_setWorker before (fun _ => rfl) fun _ idle => by cases idle

/-- What a turn writes into the journal, with the time. -/
theorem log_of_turn {id now : Nat} {w : Worker Work} {entry : Option Nat} {written : List Entry}
    (turn : Turn d d' id w entry written) :
    logged now (added d.journal d'.journal) ++ log = logged now written ++ log := by
  rw [added_eq turn.journal]

theorem admits_of_place {now : Nat} {job : Job} (placed : d.place now job = .ok d') :
    ∃ e ∈ added d.journal d'.journal, e.Admits job.message.conversation := by
  obtain ⟨id, same⟩ : ∃ id, d'.journal = [.accepted id job] ++ d.journal := by
    rcases place_cases placed with ⟨id, w, _, _, _, rfl⟩ | ⟨_, rfl⟩
    · exact ⟨id, rfl⟩
    · exact ⟨d.workers.length, rfl⟩
  rw [added_eq same]
  exact ⟨_, List.mem_cons_self, rfl⟩

theorem log_of_same {now : Nat} (same : d'.journal = d.journal) :
    logged now (added d.journal d'.journal) ++ log = log := by
  have nothing : d'.journal = [] ++ d.journal := same
  rw [added_eq nothing]
  rfl

/-- Whoever was idle since a time is so according to the log. -/
theorem rests_change {now : Nat} (step : Change d d') (punctual : Punctual now d d')
    (known : ∀ e ∈ log, (d.worker? e.2.worker).isSome = true)
    (rests : ∀ id w since, d.worker? id = some w → w.phase = .idle since →
      restsSince id log = some since) :
    ∀ id w since, d'.worker? id = some w → w.phase = .idle since →
      restsSince id (logged now (added d.journal d'.journal) ++ log) = some since := by
  intro i v since found idle
  cases step with
  | stay =>
      rw [log_of_same rfl]
      exact rests i v since found idle
  | discard =>
      rw [log_of_same rfl]
      exact rests i v since found idle
  | turn id w entry written deed turn =>
      rw [log_of_turn turn]
      have here := punctual i v since found idle
      rw [turn.workers] at found
      split at found
      · rename_i this_one
        obtain rfl := this_one
        obtain rfl := Option.some.inj found
        generalize before : d.worker? i = v?, d.registry.get? w.conversation = entry? at deed
        cases deed with
        | put job isOpen same => exact restsSince_accepted (rests i _ since before idle) job
        | welcome time job =>
            obtain rfl : since = now := by
              refine here.resolve_right ?_
              rintro ⟨_, was, -⟩
              rw [before] at was
              cases was
            have strange : restsSince i log = none := restsSince_eq_none fun e mem same => by
              have there := known e mem
              rw [same, before] at there
              cases there
            change (if i = i then (restsSince i log).or (some since) else _) = _
            rw [if_pos rfl, strange, Option.none_or]
        | finish c mailbox job work time outcome =>
            obtain rfl : since = now := by
              refine here.resolve_right ?_
              rintro ⟨_, was, idle⟩
              rw [before] at was
              obtain rfl := Option.some.inj was
              cases idle
            exact if_pos rfl
        | start | progress | kill | retire => cases idle
      · rename_i other
        rw [restsSince_append_of_ne fun e mem => ?_]
        · exact rests i v since found idle
        · rw [deed.worker_of_mem mem]
          exact Ne.symm other

theorem known_change {now : Nat} (step : Change d d')
    (known : ∀ e ∈ log, (d.worker? e.2.worker).isSome = true) :
    ∀ e ∈ logged now (added d.journal d'.journal) ++ log, (d'.worker? e.2.worker).isSome = true := by
  intro e mem
  cases step with
  | stay | discard =>
      rw [log_of_same rfl] at mem
      exact known e mem
  | turn id w entry written deed turn =>
      rw [log_of_turn turn] at mem
      rw [turn.workers]
      split
      · rfl
      · rename_i other
        rcases List.mem_append.mp mem with mem | mem
        · obtain ⟨e', mem', rfl⟩ := List.mem_map.mp mem
          exact absurd (deed.worker_of_mem mem') other
        · exact known e mem

theorem killed_change {now : Nat} (step : Change d d') (consistent : d.Consistent)
    (killed : ∀ t id job, (t, .lost id job) ∈ log →
      ∃ w, d.worker? id = some w ∧ w.phase.isKilled = true) :
    ∀ t id job, (t, .lost id job) ∈ logged now (added d.journal d'.journal) ++ log →
      ∃ w, d'.worker? id = some w ∧ w.phase.isKilled = true := by
  intro t i job mem
  have before (mem : (t, .lost i job) ∈ log) :
      ∃ w, d'.worker? i = some w ∧ w.phase.isKilled = true := by
    obtain ⟨w, found, was⟩ := killed t i job mem
    exact ⟨w, step.closed_stays found (Traffic.isOpen_of_isKilled was), was⟩
  cases step with
  | stay | discard =>
      rw [log_of_same rfl] at mem
      exact before mem
  | turn id w entry written deed turn =>
      rw [log_of_turn turn] at mem
      rcases List.mem_append.mp mem with mem | mem
      · obtain ⟨e, mem', same⟩ := List.mem_map.mp mem
        obtain rfl : e = .lost i job := congrArg Prod.snd same
        have this_one : i = id := deed.worker_of_mem mem'
        exact ⟨w, by rw [turn.workers, if_pos this_one],
          (deed.killed_of_lost (fun v found => consistent.own found) mem').2⟩
      · exact before mem

/-- Nothing is put into a mailbox of a conversation while another one has its turn, or by a worker
that is killed. -/
theorem silent_of_turn {id : Nat} {v? : Option (Worker Work)} {w : Worker Work}
    {entry entry' : Option Nat} {written : List Entry} {c : Conversation}
    (deed : Deed id v? entry w entry' written)
    (other : w.conversation = c → w.phase.isOpen = false) : ∀ e ∈ written, ¬ e.Admits c := by
  intro e mem admits
  cases deed with
  | put job isOpen same =>
      rw [List.mem_singleton.mp mem] at admits
      rw [other (same.symm.trans admits)] at isOpen
      cases isOpen
  | welcome now job =>
      rw [List.mem_singleton.mp mem] at admits
      cases other admits
  | finish =>
      rw [List.mem_singleton.mp mem] at admits
      exact admits
  | kill =>
      obtain ⟨job, _, rfl⟩ := List.mem_map.mp (List.mem_reverse.mp mem)
      exact admits
  | start | progress | retire => cases mem

/-- A worker that was killed has messages of its conversation on its conscience. -/
theorem orphaned_of_kill {id now : Nat} {v? : Option (Worker Work)} {w : Worker Work}
    {entry entry' : Option Nat} {written : List Entry} (deed : Deed id v? entry w entry' written)
    (own : ∀ v, v? = some v → ∀ job ∈ v.pending, job.message.conversation = v.conversation)
    (killed : w.phase.isKilled = true) :
    Orphaned w.conversation id (logged now written ++ log) := by
  cases deed with
  | put job isOpen same =>
      rw [Traffic.isOpen_of_isKilled killed] at isOpen
      cases isOpen
  | welcome | start | progress | finish | retire => cases killed
  | kill c mailbox job work =>
      -- The latest entry is about the last message of the mailbox, or about the one in hand.
      obtain ⟨last, front, same⟩ : ∃ last front, (job :: mailbox).reverse = last :: front := by
        cases reversed : (job :: mailbox).reverse with
        | nil => exact absurd reversed (by simp)
        | cons last front => exact ⟨last, front, rfl⟩
      have mem : last ∈ job :: mailbox := List.mem_reverse.mp (same ▸ List.mem_cons_self)
      rw [← List.map_reverse, same]
      exact .lost ⟨rfl, own _ rfl last mem⟩

/-- A worker that is killed stays in the registry for the time being. -/
theorem registered_of_kill {id : Nat} {v? : Option (Worker Work)} {w : Worker Work}
    {entry entry' : Option Nat} {written : List Entry} (deed : Deed id v? entry w entry' written)
    (before : v?.isSome = true → entry = some id) (killed : w.phase.isKilled = true) :
    entry' = some id := by
  cases deed with
  | put | welcome => rfl
  | start | progress | finish | kill => exact before rfl
  | retire => cases killed

theorem registered_of_lost (step : Change d d') (consistent : d.Consistent) {id : Nat} {job : Job}
    (mem : .lost id job ∈ added d.journal d'.journal) :
    d'.registry.get? job.message.conversation = some id := by
  have nothing (same : d'.journal = [] ++ d.journal) :
      d'.registry.get? job.message.conversation = some id := by
    rw [added_eq same] at mem
    cases mem
  cases step with
  | stay | discard => exact nothing rfl
  | turn i w entry written deed turn =>
      rw [added_eq turn.journal] at mem
      have this_one : id = i := deed.worker_of_mem mem
      obtain ⟨own, killed⟩ := deed.killed_of_lost (fun v found => consistent.own found) mem
      rw [this_one, ← own, turn.registry, if_pos rfl]
      exact registered_of_kill deed (consistent.alone deed) killed

theorem orphaned_change {now : Nat} (step : Change d d') (consistent : d.Consistent)
    (orphaned : ∀ c id w, d.registry.get? c = some id → d.worker? id = some w →
      w.phase.isKilled = true → Orphaned c id log) :
    ∀ c id w, d'.registry.get? c = some id → d'.worker? id = some w → w.phase.isKilled = true →
      Orphaned c id (logged now (added d.journal d'.journal) ++ log) := by
  intro c i v named found killed
  cases step with
  | stay =>
      rw [log_of_same rfl]
      exact orphaned c i v named found killed
  | discard =>
      rw [Table.get?_erase] at named
      split at named
      · cases named
      · rw [log_of_same rfl]
        exact orphaned c i v named found killed
  | turn id w entry written deed turn =>
      rw [log_of_turn turn]
      rw [turn.registry] at named
      rw [turn.workers] at found
      split at named
      · rename_i this_one
        obtain ⟨rfl, -⟩ := deed.named (consistent.alone deed) named
        rw [if_pos rfl] at found
        obtain rfl := Option.some.inj found
        rw [this_one]
        exact orphaned_of_kill deed (fun v found => consistent.own found) killed
      · rename_i other
        have different : i ≠ id := by
          rintro rfl
          obtain ⟨u, before, same, -⟩ := consistent.named named
          rw [before] at deed
          exact other (same.symm.trans deed.conversation_eq)
        rw [if_neg different] at found
        exact (orphaned c i v named found killed).append
          (silent_of_turn deed fun same => absurd same.symm other)

end Change

end ClockedTraffic

end Registrar
