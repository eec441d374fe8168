import Registrar.Proofs.Dispatch.Attendance
import Registrar.Proofs.Dispatch.Casualties

/-!
What becomes of every message when workers may be killed.

A message that was accepted is in the end handled, which its caller is told with the outcome that its
handler came to along the answers to its own requests; or its worker is killed while it has the
message, which its caller is told instead. Nothing else is ever told, and the two exclude each other.

* `attributed_run`: the exchanges that were made for a message are the course of its handler.
* `mem_concluded_iff`, `mem_losses_iff`: the messages that were handled, and those that were lost,
  are known from the moves alone.
* `every_message_accounted_for`: all of it, and what comes after a worker was killed.
-/

namespace Registrar

/-- Some worker has the message in its hands or in its mailbox. -/
def Dispatcher.Awaits {W : Type} (d : Dispatcher W) (job : Job) : Prop :=
  ∃ id w, d.worker? id = some w ∧ job ∈ w.pending

namespace Session

variable {route : Handler} {memory : Memory} {a a' : Affairs} {s : Session}

/-! ### The course of a message -/

namespace Affairs

/-- The exchanges that were made for a message, the latest first. -/
def courseOf (a : Affairs) (job : Job) : List Exchange := a.exchanges.filter (·.job = job)

def settled (a : Affairs) : List Job := a.concluded.map Prod.fst ++ a.losses

/-- Somebody is at work on the message, or it was settled. -/
def TakenUp (a : Affairs) (job : Job) : Prop :=
  (∃ id p, a.working id = some (job, p)) ∨ job ∈ a.settled

theorem courseOf_ask (a : Affairs) (id : Nat) (job : Job) (r : Request) (next : r.Answer → Work)
    (chance : Chance) (job' : Job) : (a.ask id job r next chance).courseOf job' =
      if job = job' then
        ⟨job, r, (chance.answer (Memory.perform chance.now) a.memory r).1⟩ :: a.courseOf job'
      else a.courseOf job' := by
  simp only [courseOf, ask, List.filter_cons, decide_eq_true_eq]

/-- When a worker is set free, whoever was at work still is, unless it was this one. -/
theorem working_free (a : Affairs) {id i : Nat} {job job' : Job} {p p' : Work}
    (working : a.working id = some (job, p)) (working' : a.working i = some (job', p')) :
    (a.assign id none).working i = some (job', p') ∨ job' = job := by
  rw [a.working_assign]
  split
  · rename_i this_one
    rw [this_one, working] at working'
    cases working'
    exact .inr rfl
  · exact .inl working'

end Affairs

/-- A message that was taken up is not left. -/
theorem Effect.takenUp {move : Move} (effect : Effect route a move a') {job : Job}
    (takenUp : a.TakenUp job) : a'.TakenUp job := by
  cases effect with
  | none | forgetState | forgetScratch => exact takenUp
  | @start id job' free =>
      refine takenUp.imp_left fun ⟨i, p, working⟩ => ⟨i, p, ?_⟩
      rw [a.working_assign, if_neg fun this_one => ?_]
      · exact working
      · rw [this_one, free] at working
        cases working
  | @ask id job' r next chance working' =>
      refine takenUp.imp_left fun ⟨i, p, working⟩ => ?_
      by_cases this_one : i = id
      · rw [this_one, working'] at working
        cases working
        exact ⟨id, _, (a.working_ask ..).trans (if_pos rfl)⟩
      · exact ⟨i, p, (a.working_ask ..).trans ((if_neg this_one).trans working)⟩
  | finish working' =>
      rcases takenUp with ⟨i, p, working⟩ | settled
      · rcases a.working_free working' working with still | rfl
        · exact .inl ⟨i, p, still⟩
        · exact .inr List.mem_cons_self
      · exact .inr (List.mem_cons_of_mem _ settled)
  | kill _ mailbox working' =>
      rcases takenUp with ⟨i, p, working⟩ | settled
      · rcases a.working_free working' working with still | rfl
        · exact .inl ⟨i, p, still⟩
        · exact .inr (List.mem_append_right _ (List.mem_append_left _ (by simp)))
      · rcases List.mem_append.mp settled with handled | lost
        · exact .inr (List.mem_append_left _ handled)
        · exact .inr (List.mem_append_right _ (List.mem_append_right _ lost))

/-- The exchanges that were made for a message at work are the course of its handler, from its
beginning, and none were made for a message that was not taken up. -/
structure Attributed (route : Handler) (a : Affairs) : Prop where
  course {id : Nat} {job : Job} {p : Work} : a.working id = some (job, p) →
    (route job.message).run.Comes job (a.courseOf job) p
  takenUp {e : Exchange} : e ∈ a.exchanges → a.TakenUp e.job

/-- A message that somebody is at work on has not been settled. -/
def Affairs.Undivided (a : Affairs) : Prop :=
  ∀ id job p, a.working id = some (job, p) → job ∉ a.settled

/-- Nothing has been asked for a message that is taken up only now. -/
theorem Attributed.courseOf_eq_nil (h : Attributed route a) {id : Nat} {job : Job}
    (free : a.working id = none) {p : Work} (unique : (a.assign id (some (job, p))).Unique)
    (undivided : (a.assign id (some (job, p))).Undivided) : a.courseOf job = [] := by
  have begun := a.working_assign_self id (some (job, p))
  refine List.filter_eq_nil_iff.mpr fun e mem same => ?_
  rw [← of_decide_eq_true same] at begun unique undivided
  rcases h.takenUp mem with ⟨i, p', working⟩ | settled
  · -- somebody at work on it would be this worker, which was free
    have other : i ≠ id := fun this_one => by
      rw [this_one, free] at working
      cases working
    have still : (a.assign id (some (e.job, p))).working i = some (e.job, p') := by
      rw [a.working_assign, if_neg other]
      exact working
    exact other (unique _ _ _ _ _ _ still begun rfl)
  · exact undivided _ _ _ begun settled

theorem Attributed.effect (h : Attributed route a) {move : Move} (effect : Effect route a move a')
    (unique : a.Unique) (unique' : a'.Unique) (undivided : a'.Undivided) :
    Attributed route a' := by
  refine ⟨fun {i job' p'} working' => ?_, fun {e} mem => ?_⟩
  · cases effect with
    | none | forgetState | forgetScratch => exact h.course working'
    | @start id job free =>
        rw [a.working_assign] at working'
        split at working'
        · cases working'
          change (route job'.message).run.Comes job' (a.courseOf job') _
          rw [h.courseOf_eq_nil free unique' undivided]
          exact .begin
        · exact h.course working'
    | @ask id job r next chance working =>
        rw [a.courseOf_ask]
        rw [a.working_ask] at working'
        split at working'
        · cases working'
          rw [if_pos rfl]
          exact (h.course working).ask _
        · rename_i other
          rw [if_neg fun same => ?_]
          · exact h.course working'
          · exact other (unique _ _ _ _ _ _ working' working (by rw [same]))
    | finish | kill => exact h.course (Affairs.working_of_free working').1
  · rcases effect.exchanges_cases with same | ⟨id, job, r, next, answer, working, exchanges⟩
    · exact effect.takenUp (h.takenUp (same ▸ mem))
    · rw [exchanges] at mem
      rcases List.mem_cons.mp mem with rfl | mem
      · exact effect.takenUp (.inl ⟨id, _, working⟩)
      · exact effect.takenUp (h.takenUp mem)

theorem undivided_run (route : Handler) (memory : Memory) (moves : List Move) :
    (run route memory moves).affairs.Undivided := by
  intro id job p working settled
  obtain ⟨events, same⟩ := traffic_run route memory moves
  obtain ⟨c, mailbox, found⟩ := Dispatcher.working?_eq_some.mp working
  have settled' : job ∈ (run route memory moves).traffic.dispatcher.settlements := settled
  rw [same] at found settled'
  exact Traffic.not_pending_of_settled settled' found List.mem_cons_self

theorem attributed_run (route : Handler) (memory : Memory) (moves : List Move) :
    Attributed route (run route memory moves).affairs := by
  induction moves using List.reverseRecOn with
  | nil =>
      refine ⟨fun working => ?_, fun mem => ?_⟩
      · cases working
      · cases mem
  | append_singleton moves move ih =>
      have effect := effect_step route (run route memory moves) move
      rw [← run_concat] at effect
      exact ih.effect effect (unique_run route memory moves) (unique_run route memory _)
        (undivided_run route memory _)

/-! ### What has happened so far -/

/-- At one of the moves it happened that `P before move`, for the moves before it. -/
def Happened (P : List Move → Move → Prop) (moves : List Move) : Prop :=
  ∃ before move rest, moves = before ++ move :: rest ∧ P before move

variable {P : List Move → Move → Prop}

theorem not_happened_nil : ¬ Happened P [] := by
  rintro ⟨before, move, rest, split, _⟩
  exact absurd split.symm (List.append_ne_nil_of_right_ne_nil _ (List.cons_ne_nil _ _))

theorem Happened.append {moves : List Move} (happened : Happened P moves) (more : List Move) :
    Happened P (moves ++ more) := by
  obtain ⟨before, move, rest, rfl, here⟩ := happened
  exact ⟨before, move, rest ++ more, by rw [List.append_assoc, List.cons_append], here⟩

theorem happened_concat {moves : List Move} {move : Move} :
    Happened P (moves ++ [move]) ↔ Happened P moves ∨ P moves move := by
  constructor
  · rintro ⟨before, move', rest, split, here⟩
    rcases List.eq_nil_or_concat rest with rfl | ⟨rest', last, rfl⟩
    · obtain ⟨rfl, same⟩ := List.append_inj' split rfl
      cases same
      exact .inr here
    · rw [List.concat_eq_append, ← List.cons_append, ← List.append_assoc] at split
      exact .inl ⟨before, move', rest', (List.append_inj' split rfl).1, here⟩
  · rintro (happened | here)
    · exact happened.append [move]
    · exact ⟨moves, move, [], rfl, here⟩

/-- What comes about at single moves and lasts is so exactly if it has come about at one of them. -/
theorem holds_iff_happened {holds : List Move → Prop} (nothing : ¬ holds [])
    (once : ∀ moves move, holds (moves ++ [move]) ↔ holds moves ∨ P moves move)
    (moves : List Move) : holds moves ↔ Happened P moves := by
  induction moves using List.reverseRecOn with
  | nil => exact iff_of_false nothing not_happened_nil
  | append_singleton moves move ih => rw [once, happened_concat, ih]

/-- The handler of the message that a worker has in its hands has come to this outcome, along the
answers that were given for this message. -/
def Ends (route : Handler) (s : Session) (id : Nat) (job : Job) (outcome : Outcome) : Prop :=
  ∃ p ending, s.working? id = some (job, p) ∧
    (route job.message).run.Comes job (s.affairs.courseOf job) p ∧
      p.ending? = some ending ∧ EventLoop.outcomeOf job.message ending = some outcome

structure Kills (route : Handler) (s : Session) (move : Move) (id : Nat) (w : Worker Work) :
    Prop where
  found : s.traffic.dispatcher.worker? id = some w
  alive : w.phase.isKilled = false
  killed : ∃ w', (s.step route move).traffic.dispatcher.worker? id = some w' ∧
    w'.phase.isKilled = true

/-- The handler of the message came to an outcome, and its worker was done with it. -/
def Returned (route : Handler) (memory : Memory) (moves : List Move) (job : Job)
    (outcome : Outcome) : Prop :=
  Happened (fun before move => ∃ now id, move = .conclude now id ∧
    Ends route (run route memory before) id job outcome) moves

/-- The worker that had accepted the message was killed with the message in its hands or in its
mailbox. -/
def Casualty (route : Handler) (memory : Memory) (moves : List Move) (job : Job) : Prop :=
  Happened (fun before move => ∃ id w, Kills route (run route memory before) move id w ∧
    .accepted id job ∈ (run route memory before).traffic.dispatcher.journal ∧ job ∈ w.pending) moves

/-! ### Moves are steps of the dispatcher -/

theorem change_step (route : Handler) (memory : Memory) (moves : List Move) (move : Move) :
    Dispatcher.Change (run route memory moves).traffic.dispatcher
      (run route memory (moves ++ [move])).traffic.dispatcher := by
  obtain ⟨events, same⟩ := traffic_run route memory moves
  rw [run_concat]
  rcases traffic_step route (run route memory moves) move with stays | ⟨e, goes⟩
  · rw [stays]
    exact .stay
  · rw [goes, same]
    exact (Traffic.sound_run events).change_step e

theorem run_append (route : Handler) (memory : Memory) (moves more : List Move) :
    run route memory (moves ++ more) = more.foldl (step route) (run route memory moves) :=
  List.foldl_append

theorem changes_run (route : Handler) (memory : Memory) (moves more : List Move) :
    Dispatcher.Changes (run route memory moves).traffic.dispatcher
      (run route memory (moves ++ more)).traffic.dispatcher := by
  induction more using List.reverseRecOn with
  | nil => rw [List.append_nil]
  | append_singleton more move ih =>
      rw [← List.append_assoc]
      exact ih.tail (change_step route memory _ move)

/-! ### Messages that were handled -/

theorem Effect.concluded_cases {move : Move} (effect : Effect route a move a') :
    a'.concluded = a.concluded ∨ ∃ now id job p ending outcome, move = .conclude now id ∧
      a.working id = some (job, p) ∧ p.ending? = some ending ∧
        EventLoop.outcomeOf job.message ending = some outcome ∧
          a'.concluded = (job, outcome) :: a.concluded := by
  cases effect with
  | none | start | ask | kill | forgetState | forgetScratch => exact .inl rfl
  | finish working ended outcome_eq =>
      exact .inr ⟨_, _, _, _, _, _, rfl, working, ended, outcome_eq, rfl⟩

/-- The messages that were handled are those whose handlers came to an outcome. -/
theorem mem_concluded_iff (route : Handler) (memory : Memory) (moves : List Move) (job : Job)
    (outcome : Outcome) : (job, outcome) ∈ (run route memory moves).affairs.concluded ↔
      Returned route memory moves job outcome := by
  refine @holds_iff_happened _
    (fun moves => (job, outcome) ∈ (run route memory moves).affairs.concluded)
    (fun mem => ?_) (fun moves move => ?_) moves
  · cases mem
  have effect := effect_step route (run route memory moves) move
  rw [run_concat]
  constructor
  · intro mem
    rcases effect.concluded_cases with same | ⟨now, id, job', p, ending, outcome', rfl, working,
      ended, outcome_eq, concluded⟩
    · exact .inl (same ▸ mem)
    · rw [concluded] at mem
      rcases List.mem_cons.mp mem with this_one | before
      · cases this_one
        exact .inr ⟨now, id, rfl, p, ending, working,
          (attributed_run route memory moves).course working, ended, outcome_eq⟩
      · exact .inl before
  · rintro (before | ⟨now, id, rfl, p, ending, working, _, ended, outcome_eq⟩)
    · rcases effect.concluded_cases with same | ⟨_, _, _, _, _, _, _, _, _, _, concluded⟩
      · exact same ▸ before
      · exact concluded ▸ List.mem_cons_of_mem _ before
    · have new := Dispatcher.newWork_finish working now outcome
      rw [step_conclude route working ended now, outcome_eq]
      change (job, outcome) ∈ Dispatcher.concluded (Dispatcher.finish now id outcome _)
      rw [new.concluded]
      exact List.mem_cons_self

/-! ### Messages that were lost -/

theorem receipted_run (route : Handler) (memory : Memory) (moves : List Move) :
    (run route memory moves).traffic.dispatcher.Receipted := by
  obtain ⟨events, same⟩ := traffic_run route memory moves
  rw [same]
  exact Traffic.receipted_run events

/-- The messages that were lost are those that killed workers had. -/
theorem mem_losses_iff (route : Handler) (memory : Memory) (moves : List Move) (job : Job) :
    job ∈ (run route memory moves).traffic.dispatcher.losses ↔ Casualty route memory moves job := by
  refine @holds_iff_happened _
    (fun moves => job ∈ (run route memory moves).traffic.dispatcher.losses)
    (fun mem => ?_) (fun moves move => ?_) moves
  · cases mem
  have step := change_step route memory moves move
  have h := consistent_run route memory moves
  rw [run_concat] at step ⊢
  rw [Dispatcher.mem_losses, Dispatcher.mem_losses]
  constructor
  · rintro ⟨id, mem⟩
    rcases step.of_lost h mem with before | ⟨w, w', found, alive, mem', found', killed⟩
    · exact .inl ⟨id, before⟩
    · exact .inr ⟨id, w, ⟨found, alive, w', found', killed⟩,
        receipted_run route memory moves id w found job mem', mem'⟩
  · rintro (⟨id, before⟩ | ⟨id, w, ⟨found, alive, w', found', killed⟩, _, mem⟩)
    · exact ⟨id, step.journal_suffix.mem before⟩
    · obtain ⟨_, _, journal, _⟩ := step.of_killed h found alive found' killed
      refine ⟨id, journal ▸ List.mem_append_left _ ?_⟩
      exact List.mem_reverse.mpr (List.mem_map_of_mem mem)

/-! ### After a worker was killed -/

/-- Whoever breaks a worker down asks nothing. -/
theorem Effect.same_of_losses {move : Move} (effect : Effect route a move a')
    (lost : a'.losses ≠ a.losses) : a'.memory = a.memory ∧ a'.exchanges = a.exchanges := by
  cases effect with
  | none | start | ask | finish | forgetState | forgetScratch => exact absurd rfl lost
  | kill => exact ⟨rfl, rfl⟩

/-- A caller that comes, or takes a step, breaks no worker down. -/
theorem callers_of_losses {move : Move}
    (lost : (s.step route move).traffic.dispatcher.losses ≠ s.traffic.dispatcher.losses) :
    (s.step route move).traffic.callers = s.traffic.callers := by
  cases move with
  | call => exact absurd rfl lost
  | send now ticket =>
      simp only [step, happen, Traffic.step] at lost ⊢
      rcases Traffic.send_cases s.traffic now ticket with same | ⟨_, d, _, placed, after⟩ |
        ⟨_, id, _, _, after⟩
      · rw [same]
      · rw [after] at lost
        exact absurd (Dispatcher.sameWork_place placed).losses lost
      · rw [after] at lost
        exact absurd rfl lost
  | discard ticket =>
      simp only [step, happen, Traffic.step] at lost ⊢
      rcases Traffic.discard_cases s.traffic ticket with same | ⟨_, id, _, after⟩
      · rw [same]
      · rw [after] at lost
        exact absurd (Dispatcher.sameWork_discard _ _ _).losses lost
  | start id => exact s.traffic.callers_step_start id _
  | ask id chance =>
      simp only [step]
      split <;> rfl
  | conclude now id =>
      simp only [step]
      split
      · split <;> rfl
      · rfl
  | kill | retire | forgetState | forgetScratch => rfl

open Dispatcher in
/-- What comes of killing worker `id`, which was `w`: the messages that it had are lost, nobody else
notices, and whatever happens later, messages of its conversation come to workers that did not exist
before. -/
structure Aftermath (route : Handler) (s : Session) (move : Move) (id : Nat) (w : Worker Work) :
    Prop where
  lost : (s.step route move).traffic.dispatcher.journal =
    (w.pending.map (Entry.lost id)).reverse ++ s.traffic.dispatcher.journal
  elsewhere : SameElsewhere w.conversation s.traffic.dispatcher
    (s.step route move).traffic.dispatcher
  callers : (s.step route move).traffic.callers = s.traffic.callers
  store : (s.step route move).memory = s.memory
  asked : (s.step route move).exchanges = s.exchanges
  /-- What is accepted for the conversation later, a new worker accepts. -/
  afresh (more : List Move) : ∃ written,
    (more.foldl (step route) (s.step route move)).traffic.dispatcher.journal =
        written ++ (s.step route move).traffic.dispatcher.journal ∧
      ∀ e ∈ written, Entry.Afresh s.traffic.dispatcher w.conversation e
  /-- And what is queued for it is accepted. -/
  queues (more : List Move) (now : Nat) (job : Job) : job.message.conversation = w.conversation →
    let d := (more.foldl (step route) (s.step route move)).traffic.dispatcher
    ∃ i, s.traffic.dispatcher.worker? i = none ∧ Placed job d (d.enqueue now job) i

open Dispatcher in
theorem Kills.aftermath {moves : List Move} {move : Move} {id : Nat} {w : Worker Work}
    (kills : Kills route (run route memory moves) move id w) :
    Aftermath route (run route memory moves) move id w := by
  obtain ⟨w', found', killed⟩ := kills.killed
  have h := consistent_run route memory moves
  have step := change_step route memory moves move
  have consistent (more : List Move) := consistent_run route memory (moves ++ [move] ++ more)
  have changes := changes_run route memory (moves ++ [move])
  simp only [run_append _ _ (moves ++ [move]), run_concat] at step consistent changes
  obtain ⟨isOpen, busy, journal, elsewhere⟩ :=
    step.of_killed h kills.found kills.alive found' killed
  have lost : ((run route memory moves).step route move).traffic.dispatcher.losses ≠
      (run route memory moves).traffic.dispatcher.losses := by
    rw [losses, journal, List.filterMap_append, (filterMap_lost id w.pending).2]
    exact fun same => busy (List.reverse_eq_nil_iff.mp (List.append_left_eq_self.mp same))
  have succeeded : Succeeded (run route memory moves).traffic.dispatcher
      ((run route memory moves).step route move).traffic.dispatcher id w := by
    refine ⟨kills.found, isOpen, .single step, fun v found => ?_⟩
    rw [found'] at found
    cases found
    exact Traffic.isOpen_of_isKilled killed
  have later (more : List Move) := succeeded.afresh h (consistent []) (changes more)
  obtain ⟨store, asked⟩ :=
    (effect_step route (run route memory moves) move).same_of_losses lost
  refine ⟨journal, elsewhere, callers_of_losses lost, store, asked, fun more => (later more).2.2,
    fun more now job same => ?_⟩
  obtain ⟨i, placed⟩ := (consistent more).placed_enqueue now job
  exact ⟨i, (later more).1.fresh h fun v found => same ▸ placed.taker v found, placed⟩

/-! ### All messages -/

variable {moves : List Move} {job : Job} {outcome : Outcome}

theorem settlements_nodup (route : Handler) (memory : Memory) (moves : List Move) :
    (run route memory moves).traffic.dispatcher.settlements.Nodup := by
  obtain ⟨events, same⟩ := traffic_run route memory moves
  rw [same]
  exact Traffic.settlements_nodup events

theorem not_awaits_of_settled
    (settled : job ∈ (run route memory moves).traffic.dispatcher.settlements) :
    ¬ (run route memory moves).traffic.dispatcher.Awaits job := by
  rintro ⟨id, w, found, mem⟩
  obtain ⟨events, same⟩ := traffic_run route memory moves
  rw [same] at settled found
  exact Traffic.not_pending_of_settled settled found mem

/-- A message that was handled was not lost. -/
theorem Returned.not_casualty (returned : Returned route memory moves job outcome) :
    ¬ Casualty route memory moves job := fun casualty =>
  (List.nodup_append.mp (settlements_nodup route memory moves)).2.2 job
    (List.mem_map_of_mem (f := Prod.fst) ((mem_concluded_iff ..).mpr returned)) job
    ((mem_losses_iff ..).mpr casualty) rfl

/-- It was handled once. -/
theorem Returned.unique (returned : Returned route memory moves job outcome) {outcome' : Outcome}
    (returned' : Returned route memory moves job outcome') : outcome' = outcome := by
  have once := (List.nodup_append.mp (settlements_nodup route memory moves)).1
  have same := List.inj_on_of_nodup_map once ((mem_concluded_iff ..).mpr returned')
    ((mem_concluded_iff ..).mpr returned) rfl
  exact congrArg Prod.snd same

end Session

open Session

/-- In every state of a session, whatever callers and workers did and whoever was killed:

* a caller is told one thing at most;
* it is told an outcome exactly if its own message was handled with this outcome, or if the outcome
  says that its worker has stopped and the worker that had accepted its message was killed before it
  was done with it;
* every message that was accepted was handled, or is such a casualty, or a worker still has it, and
  these exclude each other, a casualty for all time.

Whenever a worker is killed, the messages that it has are lost, and no others; other conversations do
not notice; and messages of its own conversation come to new workers from then on. -/
theorem every_message_accounted_for (route : Handler) (memory : Memory) (moves : List Move) :
    let s := run route memory moves
    let d := s.traffic.dispatcher
    (∀ ticket, (d.journal.filterMap (Dispatcher.Entry.answer? ticket)).length ≤ 1) ∧
    (∀ ticket outcome, d.answer? ticket = some outcome ↔
      ∃ message, s.traffic.callers[ticket]? = some ⟨message, .served⟩ ∧
        (Returned route memory moves ⟨ticket, message⟩ outcome ∨
          outcome = .error (Dispatcher.stopped message) ∧
            Casualty route memory moves ⟨ticket, message⟩)) ∧
    (∀ job ∈ d.admissions, (∃ outcome, Returned route memory moves job outcome) ∨
      Casualty route memory moves job ∨ d.Awaits job) ∧
    (∀ job outcome, Returned route memory moves job outcome →
      ¬ Casualty route memory moves job ∧ ¬ d.Awaits job ∧
        ∀ outcome', Returned route memory moves job outcome' → outcome' = outcome) ∧
    (∀ job, Casualty route memory moves job → ¬ d.Awaits job ∧
      ∀ more outcome, ¬ Returned route memory (moves ++ more) job outcome) ∧
    ∀ move id w, Kills route s move id w → Aftermath route s move id w := by
  intro s d
  obtain ⟨events, same⟩ := traffic_run route memory moves
  refine ⟨fun ticket => ?_, fun ticket outcome => ?_, fun job admitted => ?_,
    fun job outcome returned => ⟨returned.not_casualty, not_awaits_of_settled ?_, fun outcome' =>
      returned.unique⟩, fun job casualty => ⟨not_awaits_of_settled ?_, fun more outcome returned =>
      returned.not_casualty (casualty.append more)⟩, fun move id w kills => kills.aftermath⟩
  · simp only [d, s, same]
    exact Traffic.one_answer events ticket
  · simp only [d, s, ← mem_concluded_iff, ← mem_losses_iff]
    rw [show (run route memory moves).affairs.concluded =
      (run route memory moves).traffic.dispatcher.concluded from rfl, same]
    exact Traffic.answer?_eq_some_iff events ticket outcome
  · simp only [d, s, same] at admitted
    have fate := Traffic.settled_or_pending admitted
    rw [← same] at fate
    rcases fate with settled | pending
    · rcases List.mem_append.mp settled with handled | lost
      · obtain ⟨⟨_, outcome⟩, mem, rfl⟩ := List.mem_map.mp handled
        exact .inl ⟨outcome, (mem_concluded_iff ..).mp mem⟩
      · exact .inr (.inl ((mem_losses_iff ..).mp lost))
    · exact .inr (.inr pending)
  · exact Dispatcher.settled_of_concluded ((mem_concluded_iff ..).mpr returned)
  · exact List.mem_append_right _ ((mem_losses_iff ..).mpr casualty)

/-- The handler of the first message takes its worker down, and the message behind it is lost, too. A
third one is handled by a new worker. -/
example :
    let message (text : String) : Message :=
      ⟨text, ⟨7, none, none, none⟩, ⟨1, "private"⟩, text, .epoch⟩
    let route : Handler := fun m => if m.id = "a" then Handling.crash else pure ()
    let d := (run route .empty
      [.call (message "a"), .call (message "b"), .send 0 0, .send 0 1, .start 0, .conclude 0 0,
        .call (message "c"), .send 1 2, .discard 2, .send 1 2, .start 1,
        .conclude 2 1]).traffic.dispatcher
    (d.answer? 0, d.answer? 1, d.answer? 2, d.registry.get? ⟨1, 7⟩) =
      (some (.error (Dispatcher.stopped (message "a"))),
        some (.error (Dispatcher.stopped (message "b"))), some (.ok ()), some 1) := by
  rfl

end Registrar
