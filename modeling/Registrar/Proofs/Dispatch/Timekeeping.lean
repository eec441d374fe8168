import Registrar.Proofs.Dispatch.Clockwork
import Registrar.Proofs.Dispatch.Occupancy

/-!
A dispatcher on a clock keeps the time.

An `EventLoop` is one way in which a traffic on a clock can go: it puts messages into mailboxes, lets
workers go on, and lets them retire when the idle timeout is over, and never before. Whenever nobody
in it can go on, everyone waits in that traffic; so what is known of the registry then is known of the
loop.

* `EventLoop.paces_paced`: each step of a loop is taken by a traffic on a clock.
* `EventLoop.orderly_of_deals`: an idle worker that has messages can go on, and one whose idle timeout
  is over has retired, whatever is asked of a loop.
* `EventLoop.occupancy`: which conversations are in the registry.
-/

namespace Registrar

namespace EventLoop

variable {σ : Type} {setting : Setting σ} {m m' : EventLoop σ}

/-! ### Step by step -/

/-- The traffic on a clock has come as far as the loop, it is as late, and all messages are in
mailboxes. -/
structure InStep (m : EventLoop σ) (s : ClockedTraffic Work) : Prop where
  agrees : Agrees m s.traffic
  now : s.now = m.now
  served : ∀ caller ∈ s.traffic.callers, caller.stage = .served

/-- Wherever a traffic on a clock is where the first loop is, it can come to where the second is. -/
def Paced (setting : Setting σ) (m m' : EventLoop σ) : Prop :=
  ∀ s, InStep m s → ∃ happenings : List (ClockedTraffic.Happening Work),
    InStep m' (happenings.foldl (ClockedTraffic.step setting.idleTimeout) s)

/-- A single event does it, if the time for it has come. -/
theorem paced_of_event (e : Event Work)
    (timely : e.timely setting.idleTimeout m.now m.dispatcher = true)
    (dispatcher : ∀ t : Traffic Work, t.dispatcher = m.dispatcher →
      (t.step e).dispatcher = m'.dispatcher)
    (callers : ∀ t : Traffic Work, (t.step e).callers = t.callers)
    (tickets : m'.nextTicket = m.nextTicket) (now : m'.now = m.now) : Paced setting m m' := by
  intro s inStep
  have taken : s.step setting.idleTimeout (.event e) = s.take e := by
    rw [ClockedTraffic.step, inStep.now, inStep.agrees.dispatcher, if_pos timely]
  refine ⟨[.event e], ?_⟩
  rw [List.foldl_cons, List.foldl_nil, taken]
  refine ⟨⟨dispatcher s.traffic inStep.agrees.dispatcher, ?_⟩, inStep.now.trans now.symm, ?_⟩
  · exact (congrArg List.length (callers s.traffic)).trans (inStep.agrees.tickets.trans tickets.symm)
  · intro caller mem
    exact inStep.served caller (callers s.traffic ▸ mem)

theorem paced_runJob (setting : Setting σ) (id : Nat) (job : Job) (work : Work) (m : EventLoop σ) :
    Paced setting m (m.runJob setting id job work).2 := by
  have ran := ran_runJob setting id job work m
  rcases ran.dispatcher with ⟨_, outcome, after⟩ | ⟨_, after | ⟨rest, after⟩⟩
  · refine paced_of_event (.finish m.now id outcome) (decide_eq_true rfl) (fun t same => ?_)
      (fun _ => rfl) ran.tickets ran.now
    rw [after, ← same]
    rfl
  · refine paced_of_event (.kill id) rfl (fun t same => ?_) (fun _ => rfl) ran.tickets ran.now
    rw [after, ← same]
    rfl
  · refine paced_of_event (.progress id rest) rfl (fun t same => ?_) (fun _ => rfl) ran.tickets
      ran.now
    rw [after, ← same]
    rfl

/-- A message is put into a mailbox. -/
theorem paced_enqueue (setting : Setting σ) (message : Message) (m : EventLoop σ) :
    Paced setting m (m.enqueue message).2 := by
  intro s inStep
  let ticket := s.traffic.callers.length
  refine ⟨[.event (.call message), .event (.send m.now ticket), .event (.discard ticket),
    .event (.send m.now ticket)], ?_⟩
  have timely : (decide (m.now = s.now)) = true := decide_eq_true inStep.now.symm
  simp only [List.foldl_cons, List.foldl_nil, ClockedTraffic.step, Event.timely,
    ClockedTraffic.take, timely, if_true]
  have queued := Traffic.enqueue_eq s.traffic m.now message
  refine ⟨⟨?_, ?_⟩, inStep.now, ?_⟩
  · rw [queued, inStep.agrees.dispatcher, inStep.agrees.tickets]
    rfl
  · rw [queued, List.length_append, inStep.agrees.tickets]
    rfl
  · intro caller mem
    rw [queued] at mem
    rcases List.mem_append.mp mem with mem | mem
    · exact inStep.served caller mem
    · rw [List.mem_singleton.mp mem]

/-- A worker retires, if its time has come; if it has messages, nothing is done. -/
theorem paced_retire {id : Nat}
    (due : ∀ c since, m.dispatcher.worker? id = some ⟨c, [], .idle since⟩ →
      since + setting.idleTimeout ≤ m.now) :
    Paced setting m { m with dispatcher := m.dispatcher.retire id } := by
  rcases Dispatcher.retire_cases m.dispatcher id with same | ⟨c, since, found, _, _⟩
  · intro s inStep
    exact ⟨[], ⟨inStep.agrees.dispatcher.trans same.symm, inStep.agrees.tickets⟩, inStep.now,
      inStep.served⟩
  · refine paced_of_event (.retire id) ?_ (fun t same => congrArg (Dispatcher.retire id) same)
      (fun _ => rfl) rfl rfl
    simp only [Event.timely, found]
    exact decide_eq_true (due c since found)

/-- Each step of a loop is one that a traffic on a clock can take. -/
theorem paces_paced (setting : Setting σ) : Paces setting (Paced setting) where
  of_same dispatcher _ tickets now s inStep :=
    ⟨[], ⟨inStep.agrees.dispatcher.trans dispatcher.symm,
      inStep.agrees.tickets.trans tickets.symm⟩, inStep.now.trans now.symm, inStep.served⟩
  trans first second s inStep := by
    obtain ⟨happenings, inStep'⟩ := first s inStep
    obtain ⟨more, inStep''⟩ := second _ inStep'
    exact ⟨happenings ++ more, by rwa [List.foldl_append]⟩
  enqueue := paced_enqueue setting
  start {m id job d} started := by
    refine paced_of_event (.start id fun message => (setting.route message).run) rfl ?_
      (fun t => t.callers_step_start id _) rfl rfl
    intro t same
    simp only [Traffic.step, same, started]
  runJob _ := paced_runJob setting _ _ _ _
  retire := paced_retire
  clock {m t} later s inStep := by
    refine ⟨[.pass (t - m.now)], ⟨inStep.agrees.dispatcher, inStep.agrees.tickets⟩, ?_,
      inStep.served⟩
    change s.now + (t - m.now) = t
    rw [inStep.now]
    omega

/-! ### Whoever can go on does -/

/-- An idle worker has no messages. -/
def Drained (id : Nat) (m : EventLoop σ) : Prop :=
  ∀ c mailbox since, m.dispatcher.worker? id = some ⟨c, mailbox, .idle since⟩ → mailbox = []

/-- Only this worker has gone on, and it has not become able to go on any further. -/
structure Moved (id : Nat) (m m' : EventLoop σ) : Prop where
  others {i : Nat} : i ≠ id → m'.dispatcher.worker? i = m.dispatcher.worker? i
  ready : m'.ready = m.ready

theorem Moved.refl (id : Nat) (m : EventLoop σ) : Moved id m m := ⟨fun _ => rfl, rfl⟩

theorem Moved.trans {id : Nat} {m m' m'' : EventLoop σ} (first : Moved id m m')
    (second : Moved id m' m'') : Moved id m m'' :=
  ⟨fun other => (second.others other).trans (first.others other), second.ready.trans first.ready⟩

theorem Moved.drained {id i : Nat} (moved : Moved id m m') (other : i ≠ id)
    (drained : Drained i m) : Drained i m' := by
  intro c mailbox since found
  exact drained c mailbox since ((moved.others other).symm.trans found)

/-- One worker is replaced. -/
theorem Moved.of_setWorker {id : Nat} {v : Worker Work} (found : m.dispatcher.worker? id = some v)
    (w : Worker Work) (m' : EventLoop σ)
    (after : m'.dispatcher.workers = (m.dispatcher.setWorker id w).workers)
    (ready : m'.ready = m.ready) : Moved id m m' ∧ m'.dispatcher.worker? id = some w := by
  have workers (i : Nat) : m'.dispatcher.worker? i = if i = id then some w else
      m.dispatcher.worker? i :=
    (congrArg (·[i]?) after).trans (Dispatcher.worker?_setWorker found w i)
  exact ⟨⟨fun other => (workers _).trans (if_neg other), ready⟩, (workers id).trans (if_pos rfl)⟩

section Running

variable {id : Nat} {c : Conversation} {mailbox : List Job} {job : Job} {work : Work}

theorem drained_of_active {w : Worker Work} (found : m.dispatcher.worker? id = some w)
    (active : ∀ since, w.phase ≠ .idle since) : Drained id m := by
  intro c mailbox since idle
  cases found.symm.trans idle
  exact absurd rfl (active since)

/-- A worker at work gets done with its message and is idle, or it is at work still or killed. -/
theorem moved_runJob (setting : Setting σ)
    (found : m.dispatcher.worker? id = some ⟨c, mailbox, .busy job work⟩) :
    Moved id m (m.runJob setting id job work).2 ∧
      ((m.runJob setting id job work).1 = true →
        (m.runJob setting id job work).2.dispatcher.worker? id = some ⟨c, mailbox, .idle m.now⟩) ∧
      ((m.runJob setting id job work).1 = false → Drained id (m.runJob setting id job work).2) := by
  have ran := ran_runJob setting id job work m
  have replaced (w : Worker Work) (after : (m.runJob setting id job work).2.dispatcher.workers =
      (m.dispatcher.setWorker id w).workers) := Moved.of_setWorker found w _ after ran.ready
  rcases ran.dispatcher with ⟨done, outcome, after⟩ | ⟨still, after | ⟨rest, after⟩⟩
  · obtain ⟨moved, idle⟩ := replaced ⟨c, mailbox, .idle m.now⟩ (by
      simp only [after, Dispatcher.finish, found])
    refine ⟨moved, fun _ => idle, fun no => ?_⟩
    cases done.symm.trans no
  · obtain ⟨moved, dead⟩ := replaced ⟨c, [], .killed⟩ (by
      simp only [after, Dispatcher.kill, found])
    refine ⟨moved, fun no => ?_, fun _ => drained_of_active dead fun _ no => by cases no⟩
    cases still.symm.trans no
  · obtain ⟨moved, busy⟩ := replaced ⟨c, mailbox, .busy job rest⟩ (by
      simp only [after, Dispatcher.progress, found])
    refine ⟨moved, fun no => ?_, fun _ => drained_of_active busy fun _ no => by cases no⟩
    cases still.symm.trans no

/-- A worker that does not start has no messages, if it is idle. -/
theorem drained_of_start {begin : Message → Work} (none : m.dispatcher.start id begin = none) :
    Drained id m := by
  intro c mailbox since found
  cases mailbox with
  | nil => rfl
  | cons job rest =>
      simp only [Dispatcher.start, found] at none
      cases none

/-- A worker that may take as many messages as it has takes them all, or is at work or killed. -/
theorem moved_takeMessages (setting : Setting σ) (id n : Nat) (m : EventLoop σ) :
    Moved id m (m.takeMessages setting id n) ∧
      ((∀ c mailbox since, m.dispatcher.worker? id = some ⟨c, mailbox, .idle since⟩ →
        mailbox.length ≤ n) → Drained id (m.takeMessages setting id n)) := by
  induction n generalizing m with
  | zero =>
      refine ⟨.refl id m, fun few c mailbox since found => ?_⟩
      exact List.length_eq_zero_iff.mp (Nat.le_zero.mp (few c mailbox since found))
  | succ n ih =>
      unfold EventLoop.takeMessages
      split
      · rename_i none
        exact ⟨.refl id m, fun _ => drained_of_start none⟩
      · rename_i job d started
        obtain ⟨c, rest, since, found, after⟩ := Dispatcher.start_cases started
        obtain ⟨begins, busy⟩ := Moved.of_setWorker found _ { m with dispatcher := d }
          (congrArg Dispatcher.workers after) rfl
        obtain ⟨moved, idle, drained⟩ := moved_runJob setting busy
        split
        · rename_i m' ran
          rw [ran] at moved idle
          obtain ⟨takes, all⟩ := ih m'
          refine ⟨(begins.trans moved).trans takes, fun few => all ?_⟩
          intro c' mailbox' since' found'
          cases (idle rfl).symm.trans found'
          exact Nat.le_of_succ_le_succ (few c (job :: rest) since found)
        · rename_i m' ran
          rw [ran] at moved drained
          exact ⟨begins.trans moved, fun _ => drained rfl⟩

/-- A worker that has had its turn is at work, killed or without messages. -/
theorem moved_runWorker (setting : Setting σ) (m : EventLoop σ) (id : Nat) :
    Moved id m (m.runWorker setting id) ∧ Drained id (m.runWorker setting id) := by
  unfold EventLoop.runWorker
  split
  · rename_i c mailbox job work found
    obtain ⟨moved, idle, drained⟩ := moved_runJob setting found
    split
    · rename_i m' ran
      rw [ran] at moved idle
      obtain ⟨takes, all⟩ := moved_takeMessages setting id mailbox.length m'
      refine ⟨moved.trans takes, all fun c' mailbox' since' found' => ?_⟩
      cases (idle rfl).symm.trans found'
      exact Nat.le_refl _
    · rename_i m' ran
      rw [ran] at moved drained
      exact ⟨moved, drained rfl⟩
  · rename_i c mailbox since found
    obtain ⟨takes, all⟩ := moved_takeMessages setting id mailbox.length m
    refine ⟨takes, all fun c' mailbox' since' found' => ?_⟩
    cases found.symm.trans found'
    exact Nat.le_refl _
  · rename_i never
    exact ⟨.refl id m, fun c mailbox since found => absurd found (never c mailbox since)⟩

/-- When all who can go on have had their turn, no idle worker has messages. -/
theorem drained_foldl (ids : List Nat) (m : EventLoop σ) {i : Nat}
    (mem : i ∈ ids ∨ Drained i m) : Drained i (ids.foldl (runWorker setting) m) := by
  induction ids generalizing m with
  | nil => exact mem.resolve_left List.not_mem_nil
  | cons id ids ih =>
      have runs := moved_runWorker setting m id
      refine ih _ ?_
      by_cases this_one : i = id
      · exact .inr (this_one ▸ runs.2)
      · refine mem.imp (fun mem => ?_) (runs.1.drained this_one)
        exact (List.mem_cons.mp mem).resolve_left this_one

theorem ready_foldl (ids : List Nat) (m : EventLoop σ) :
    (ids.foldl (runWorker setting) m).ready = m.ready := by
  induction ids generalizing m with
  | nil => rfl
  | cons id ids ih => exact (ih _).trans (moved_runWorker setting m id).1.ready

end Running

/-! ### What a message does -/

/-- A message goes to the end of a mailbox, which was there before or is that of a new worker. -/
theorem enqueue_turn (d : Dispatcher Work) (now : Nat) (job : Job) :
    ∃ id c mailbox phase,
      (d.enqueue now job).registry.get? job.message.conversation = some id ∧
        (d.enqueue now job).worker? id = some ⟨c, mailbox ++ [job], phase⟩ ∧
        (mailbox ≠ [] → d.worker? id = some ⟨c, mailbox, phase⟩) ∧
        ∀ i, i ≠ id → (d.enqueue now job).worker? i = d.worker? i := by
  obtain ⟨d₀, same, placed⟩ : ∃ d₀ : Dispatcher Work, (∀ i, d₀.worker? i = d.worker? i) ∧
      d₀.place now job = .ok (d.enqueue now job) := by
    rcases d.enqueue_cases now job with placed | ⟨id, _, placed⟩
    · exact ⟨d, fun _ => rfl, placed⟩
    · refine ⟨_, fun i => ?_, placed⟩
      rcases d.discard_cases job.message.conversation id with same | ⟨_, after⟩
      · rw [same]
      · rw [after]
        rfl
  rcases Dispatcher.place_cases placed with ⟨id, w, registered, found, _, after⟩ | ⟨_, after⟩
  · have workers (i : Nat) : (d.enqueue now job).worker? i = _ :=
      (congrArg (·.worker? i) after).trans (Dispatcher.worker?_setWorker found _ i)
    refine ⟨id, w.conversation, w.mailbox, w.phase, ?_, ?_, fun _ => ?_, fun i other => ?_⟩
    · rw [after]
      exact registered
    · rw [workers, if_pos rfl]
    · rw [← same, found]
    · rw [workers, if_neg other, same]
  · have workers (i : Nat) : (d.enqueue now job).worker? i = _ :=
      (congrArg (·.worker? i) after).trans (getElem?_concat d₀.workers _ i)
    refine ⟨d₀.workers.length, job.message.conversation, [], .idle now, ?_, ?_, fun some => ?_,
      fun i other => ?_⟩
    · rw [after, Table.get?_insert, if_pos rfl]
    · rw [workers, if_pos rfl, List.nil_append]
    · exact absurd rfl some
    · rw [workers, if_neg other]
      exact same i

/-! ### Whoever can go on does, and whoever's time has come retires -/

/-- An idle worker that has messages can go on. -/
def Alert (m : EventLoop σ) : Prop := ∀ id, Drained id m ∨ id ∈ m.ready

/-- No worker has been idle without messages for the idle timeout. -/
def Fresh (setting : Setting σ) (m : EventLoop σ) : Prop :=
  ∀ id c since, m.dispatcher.worker? id = some ⟨c, [], .idle since⟩ →
    m.now < since + setting.idleTimeout

/-- Some traffic on a clock has come as far as the loop. -/
def Recorded (setting : Setting σ) (m : EventLoop σ) : Prop :=
  ∃ happenings, InStep m (ClockedTraffic.run setting.idleTimeout happenings)

/-- What a loop is like between any two things that are asked of it. -/
structure Orderly (setting : Setting σ) (m : EventLoop σ) : Prop where
  recorded : Recorded setting m
  alert : Alert m
  fresh : Fresh setting m

theorem Recorded.paced (recorded : Recorded setting m) (paced : Paced setting m m') :
    Recorded setting m' := by
  obtain ⟨happenings, inStep⟩ := recorded
  obtain ⟨more, inStep'⟩ := paced _ inStep
  exact ⟨happenings ++ more, by rwa [ClockedTraffic.run, List.foldl_append]⟩

theorem Recorded.consistent (recorded : Recorded setting m) : m.dispatcher.Consistent := by
  obtain ⟨happenings, inStep⟩ := recorded
  rw [← inStep.agrees.dispatcher]
  exact (ClockedTraffic.chronicled_run setting.idleTimeout happenings).sound.consistent

theorem orderly_start (setting : Setting σ) (surroundings : σ) :
    Orderly setting (start surroundings) where
  recorded := ⟨[], ⟨rfl, rfl⟩, rfl, fun _ mem => by cases mem⟩
  alert _ := .inl fun _ _ _ found => by cases found
  fresh _ _ _ found := by cases found

/-- Whoever is idle after some workers were told to retire was so before, and was not told if nothing
waited for it. -/
theorem idle_of_retireAll {d : Dispatcher Work} (consistent : d.Consistent) (ids : List Nat)
    {i since : Nat} {c : Conversation} {mailbox : List Job}
    (found : (ids.foldl (fun d id => d.retire id) d).worker? i =
      some ⟨c, mailbox, .idle since⟩) :
    d.worker? i = some ⟨c, mailbox, .idle since⟩ ∧ (mailbox = [] → i ∉ ids) := by
  induction ids generalizing d with
  | nil => exact ⟨found, fun _ => List.not_mem_nil⟩
  | cons id ids ih =>
      obtain ⟨after, later⟩ := ih ((Dispatcher.change_retire id).consistent consistent) found
      have before := Dispatcher.idle_of_retire after
      refine ⟨before, fun empty mem => ?_⟩
      subst empty
      rcases List.mem_cons.mp mem with rfl | mem
      · have retired : (d.retire i).worker? i = some ⟨c, [], .retired⟩ := by
          simp only [Dispatcher.retire, before, consistent.registered_of_open before rfl, if_true]
          exact (Dispatcher.worker?_setWorker before _ i).trans (if_pos rfl)
        cases after.symm.trans retired
      · exact later rfl mem

/-- Whoever has not retired is not due. -/
theorem fresh_retireIdle (consistent : m.dispatcher.Consistent) :
    Fresh setting (m.retireIdle setting) := by
  intro id c since found
  obtain ⟨before, stays⟩ := idle_of_retireAll consistent _ found
  refine Nat.not_le.mp fun due => stays rfl (List.mem_map.mpr ⟨(⟨c, [], .idle since⟩, id), ?_, rfl⟩)
  refine List.mem_filter.mpr ⟨List.mem_zipIdx_iff_getElem?.mpr before, ?_⟩
  exact decide_eq_true due

/-- When everyone who can go on has done so, nobody can, and nobody is due. -/
theorem orderly_settle (recorded : Recorded setting m) (alert : Alert m) :
    Orderly setting (m.settle setting) ∧ (m.settle setting).ready = [] := by
  have works := (paces_paced setting).toWorks
  have wakes : Paced setting m { m with ready := [] } := works.of_same rfl rfl rfl rfl
  have runs := works.foldl works.runWorker m.ready { m with ready := [] }
  have consistent := (recorded.paced (works.trans wakes runs)).consistent
  have ready : (m.settle setting).ready = [] := ready_foldl m.ready { m with ready := [] }
  refine ⟨⟨recorded.paced (works.settle m), fun id => .inl ?_, fresh_retireIdle consistent⟩, ready⟩
  intro c mailbox since found
  have before := (idle_of_retireAll consistent _ found).1
  exact drained_foldl m.ready { m with ready := [] } ((alert id).symm) c mailbox since before

/-- A message wakes the worker that was waiting for it. -/
theorem Orderly.enqueue (orderly : Orderly setting m) (message : Message) :
    Orderly setting (m.enqueue message).2 := by
  obtain ⟨id, c, mailbox, phase, registered, here, before, others⟩ :=
    enqueue_turn m.dispatcher m.now ⟨m.nextTicket, message⟩
  refine ⟨orderly.recorded.paced (paced_enqueue setting message m), fun i => ?_, ?_⟩
  · by_cases this_one : i = id
    · subst this_one
      cases phase with
      | idle since =>
          refine .inr (List.mem_append.mpr ?_)
          cases mailbox with
          | nil =>
              right
              simp only [registered, here, List.nil_append, List.mem_singleton]
          | cons job rest =>
              refine .inl ((orderly.alert i).resolve_left fun drained => ?_)
              cases drained _ _ _ (before fun no => by cases no)
      | busy | retired | killed =>
          refine .inl fun _ _ _ found => ?_
          cases here.symm.trans found
    · refine (orderly.alert i).imp (fun drained c mailbox since found => ?_)
        (fun mem => List.mem_append_left _ mem)
      exact drained c mailbox since ((others i this_one).symm.trans found)
  · intro i c' since found
    by_cases this_one : i = id
    · subst this_one
      have empty := congrArg Worker.mailbox (Option.some.inj (here.symm.trans found))
      simp at empty
    · exact orderly.fresh i c' since ((others i this_one).symm.trans found)

theorem Orderly.dispatch (orderly : Orderly setting m) (update : Update) :
    Orderly setting (m.dispatch update) := by
  unfold EventLoop.dispatch
  split
  · exact orderly.enqueue _
  · exact orderly

theorem Orderly.dispatchAll (orderly : Orderly setting m) (updates : List Update) :
    Orderly setting (m.dispatchAll setting updates) := by
  have queued : Orderly setting (updates.foldl EventLoop.dispatch m) := by
    induction updates generalizing m with
    | nil => exact orderly
    | cons update updates ih => exact ih (orderly.dispatch update)
  exact (orderly_settle queued.recorded queued.alert).1

/-- The clock goes on, and those whose pauses are over can go on. -/
theorem Orderly.moveTo (orderly : Orderly setting m) {t : Nat} (later : m.now ≤ t) :
    Orderly setting (m.moveTo setting t) := by
  have paces := paces_paced setting
  have clock : Paced setting m { m with now := t } := paces.clock later
  refine (orderly_settle (orderly.recorded.paced (paces.trans clock ?_)) fun id => ?_).1
  · exact paces.of_same rfl rfl rfl rfl
  · exact (orderly.alert id).imp_right (List.mem_append_left _)

theorem Orderly.waitFor (orderly : Orderly setting m) (holds : EventLoop σ → Bool)
    {limit now : Nat} (here : m.now = now) (ahead : now ≤ limit) :
    Orderly setting (m.waitFor setting holds limit now) := by
  fun_induction EventLoop.waitFor setting holds limit now m with
  | case1 now m _ => exact orderly
  | case2 now m _ t _ bounds ih =>
      have later : m.now ≤ t := here ▸ Nat.le_of_lt bounds.1
      exact ih (orderly.moveTo later) (now_settle _) bounds.2
  | case3 now m _ t _ _ => exact orderly.moveTo (here ▸ ahead)
  | case4 now m _ _ => exact orderly.moveTo (here ▸ ahead)

theorem Orderly.deal (orderly : Orderly setting m) (deal : Deal setting m m') :
    Orderly setting m' := by
  have paces := paces_paced setting
  cases deal with
  | dispatch update => exact orderly.dispatch update
  | dispatchAll updates => exact orderly.dispatchAll updates
  | spawn message =>
      have queued := orderly.enqueue message
      have calls : Paced setting (m.enqueue message).2 { (m.enqueue message).2 with
          callers := (m.enqueue message).2.callers ++ [(m.enqueue message).1] } :=
        paces.of_same rfl rfl rfl rfl
      exact (orderly_settle (queued.recorded.paced calls) queued.alert).1
  | handle message =>
      have queued := orderly.enqueue message
      exact (orderly_settle queued.recorded queued.alert).1.waitFor _ rfl (Nat.le_add_right _ _)
  | openGate permits =>
      have opens : Paced setting m { m with
          ready := m.ready ++ m.atGate.take permits
          atGate := m.atGate.drop permits
          permits := m.permits + (permits - m.atGate.length) } := paces.of_same rfl rfl rfl rfl
      refine (orderly_settle (orderly.recorded.paced opens) fun id => ?_).1
      exact (orderly.alert id).imp_right (List.mem_append_left _)
  | elapse milliseconds => exact orderly.waitFor _ rfl (Nat.le_add_right _ _)

/-- Whatever is asked of a loop, and however often. -/
theorem orderly_of_deals {surroundings : σ} (deals : Deals setting (start surroundings) m) :
    Orderly setting m := by
  induction deals with
  | refl => exact orderly_start setting surroundings
  | tail _ deal ih => exact ih.deal deal

/-- When nobody can go on in a loop, everyone waits. -/
theorem Orderly.quiescent (orderly : Orderly setting m) {s : ClockedTraffic Work}
    (inStep : InStep m s) (ready : m.ready = []) : s.Quiescent setting.idleTimeout where
  callers := inStep.served
  workers w mem := by
    obtain ⟨id, found⟩ := List.mem_iff_getElem?.mp mem
    have found : m.dispatcher.worker? id = some w := inStep.agrees.dispatcher ▸ found
    have nobody : id ∉ m.ready := by
      rw [ready]
      exact List.not_mem_nil
    have drained := (orderly.alert id).resolve_right nobody
    obtain ⟨c, mailbox, phase⟩ := w
    cases phase with
    | idle since =>
        obtain rfl := drained c mailbox since found
        have early := orderly.fresh id c since found
        rw [← inStep.now] at early
        simpa [Worker.waits] using early
    | busy | retired | killed => rfl

/-! ### The registry -/

/-- Which conversations are in the registry. In a traffic on a clock, a worker that is at work or has
messages stays there, and one that retires has been idle without messages for the idle timeout. When
everyone waits, those are there whose worker is at work, whose worker has been idle for less than the
idle timeout, and whose worker was killed if no message of theirs has been put into a mailbox since;
so nobody is there if nobody was killed and everybody has been idle for the idle timeout. Every loop is
such a traffic, in which everyone waits when nobody can go on. -/
theorem occupancy (timeout : Nat) :
    (∀ happenings : List (ClockedTraffic.Happening Work),
      let s := ClockedTraffic.run timeout happenings
      let d := s.traffic.dispatcher
      (∀ id w, d.worker? id = some w → w.pending ≠ [] →
        d.registry.get? w.conversation = some id) ∧
      (∀ c id, (s.step timeout (.event (.retire id))).traffic.dispatcher.registry.get? c ≠
          d.registry.get? c →
        ∃ since, d.worker? id = some ⟨c, [], .idle since⟩ ∧ restsSince id s.log = some since ∧
          since + timeout ≤ s.now) ∧
      (s.Quiescent timeout →
        (∃ keys : List Conversation, keys.Nodup ∧ d.active = keys.length ∧
          ∀ c, c ∈ keys ↔ ∃ id, d.registry.get? c = some id) ∧
        (∀ c id, d.registry.get? c = some id ↔
          s.AtWork c id ∨ s.AtRest timeout c id ∨ Orphaned c id s.log) ∧
        ((∀ t id job, (t, .lost id job) ∉ s.log) → (∀ c id, ¬ s.AtWork c id) →
          (∀ id since, restsSince id s.log = some since → since + timeout ≤ s.now) →
          d.active = 0))) ∧
    ∀ {σ : Type} (setting : Setting σ) (surroundings : σ) (m : EventLoop σ),
      setting.idleTimeout = timeout → Deals setting (start surroundings) m →
        ∃ happenings, (ClockedTraffic.run timeout happenings).traffic.dispatcher = m.dispatcher ∧
          (ClockedTraffic.run timeout happenings).now = m.now ∧
          (m.ready = [] → (ClockedTraffic.run timeout happenings).Quiescent timeout) := by
  refine ⟨fun happenings => ?_, ?_⟩
  · have told := ClockedTraffic.chronicled_run timeout happenings
    refine ⟨fun id w => told.registered_of_pending, fun c id => told.retired, fun quiescent => ?_⟩
    exact ⟨ClockedTraffic.active_eq _, fun c id => told.registered_iff quiescent,
      told.active_eq_zero quiescent⟩
  · rintro σ setting surroundings m rfl deals
    have orderly := orderly_of_deals deals
    obtain ⟨happenings, inStep⟩ := orderly.recorded
    exact ⟨happenings, inStep.agrees.dispatcher, inStep.now, orderly.quiescent inStep⟩

/-- One worker is at work, one is done, one was killed, and half of the idle timeout has passed: all
three conversations are in the registry. A loop that was given a message comes to rest. -/
theorem occupancy_three_conversations :
    let message (chat : Int64) : Message :=
      ⟨"m", ⟨7, none, none, none⟩, ⟨chat, "private"⟩, "text", .epoch⟩
    let begins (chat : Int64) (id : Nat) : List (ClockedTraffic.Happening Work) :=
      [.event (.call (message chat)), .event (.send 0 id),
        .event (.start id fun _ => .done (.ok ()))]
    let s := ClockedTraffic.run 10 (begins 1 0 ++ begins 2 1 ++ begins 3 2 ++
      [.event (.finish 0 1 (.ok ())), .event (.kill 2), .pass 5])
    let setting : Setting Rehearsal := ⟨Rehearsal.answer, fun _ => pure (), 10⟩
    let m := (start (Rehearsal.start .epoch "")).spawn setting (message 1)
    s.Quiescent 10 ∧ s.traffic.dispatcher.registry.get? ⟨1, 7⟩ = some 0 ∧
      s.traffic.dispatcher.registry.get? ⟨2, 7⟩ = some 1 ∧
      s.traffic.dispatcher.registry.get? ⟨3, 7⟩ = some 2 ∧
      ∃ happenings, (ClockedTraffic.run 10 happenings).traffic.dispatcher = m.dispatcher ∧
        (ClockedTraffic.run 10 happenings).Quiescent 10 := by
  intro message begins s setting m
  have quiescent : s.Quiescent 10 := ⟨by decide +kernel, by decide +kernel⟩
  have working : s.AtWork ⟨1, 7⟩ 0 := by decide +kernel
  have waiting : s.AtRest 10 ⟨2, 7⟩ 1 := by decide +kernel
  have orphaned : Orphaned ⟨3, 7⟩ 2 s.log := by decide +kernel
  have registered := (((occupancy 10).1 _).2.2 quiescent).2.1
  have deals : Deals setting (start (Rehearsal.start .epoch "")) m := .single (.spawn (message 1))
  obtain ⟨happenings, same, -, rests⟩ := (occupancy 10).2 setting _ m rfl deals
  refine ⟨quiescent, ?_, ?_, ?_, happenings, same, rests rfl⟩
  · exact (registered ⟨1, 7⟩ 0).mpr (.inl working)
  · exact (registered ⟨2, 7⟩ 1).mpr (.inr (.inl waiting))
  · exact (registered ⟨3, 7⟩ 2).mpr (.inr (.inr orphaned))

end EventLoop

end Registrar
