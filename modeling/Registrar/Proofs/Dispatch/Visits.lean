import Registrar.Proofs.Dispatch.Clockwork

/-!
Messages that come one at a time to a dispatcher on a clock.

Between two messages everyone is idle (`EventLoop.Settled`): a message finds its worker asleep or not
there, is taken up at once, and is done with before anything else happens, provided that no handler
waits (`Setting.Prompt`). What comes of a message is then what its program comes to when it is run by
itself.

* `Settled.elapse`: while nobody comes, time passes without doing anything to the surroundings.
* `Settled.visit`: a message has the outcome of its program, and leaves the surroundings of it.
* `Settled.after_keeps`: what every program keeps up, whenever it is run, holds after all messages.
-/

namespace Registrar

/-! ### Handlers that do not wait -/

namespace Program

variable {α σ : Type}

/-- The program runs to its end without waiting, and leaves its worker alive. -/
def Prompt : Program α → Prop
  | done _ => True
  | panic => True
  | crash => False
  | ask r next => ¬ r.Waits ∧ ∀ a, (next a).Prompt

/-- A prompt program is run in one go. -/
theorem Prompt.advance {p : Program α} (prompt : p.Prompt)
    (answer : σ → (r : Request) → r.Answer × σ) (scene : Scene σ) :
    p.advance answer scene = (.ended (p.run answer scene.surroundings).1,
      { scene with surroundings := (p.run answer scene.surroundings).2 }) := by
  induction p generalizing scene with
  | done | panic => rfl
  | crash => cases prompt
  | ask r next ih =>
      obtain ⟨busy, rest⟩ := prompt
      cases r with
      | pause | permit | note => exact absurd trivial busy
      | _ => exact ih _ (rest _) _

theorem Prompt.run_ne_crash {p : Program α} (prompt : p.Prompt)
    (answer : σ → (r : Request) → r.Answer × σ) (s : σ) : (p.run answer s).1 ≠ .crash := by
  induction p generalizing s with
  | done | panic => nofun
  | crash => cases prompt
  | ask r next ih => exact ih _ (prompt.2 _) _

end Program

/-- Every message is handled without waiting. -/
def Setting.Prompt {σ : Type} (setting : Setting σ) : Prop :=
  ∀ message, (setting.route message).run.Prompt

namespace EventLoop

variable {σ : Type} {setting : Setting σ} {m : EventLoop σ}

/-- Lets some time pass, and then brings a message. -/
def visit (setting : Setting σ) (m : EventLoop σ) (v : Nat × Message) : Option Outcome × EventLoop σ :=
  (m.elapse setting v.1).handle setting v.2

def after (setting : Setting σ) (m : EventLoop σ) (visits : List (Nat × Message)) : EventLoop σ :=
  visits.foldl (fun m v => (m.visit setting v).2) m

end EventLoop

namespace Dispatcher

variable {W : Type} {d : Dispatcher W}

/-- Every registered worker is idle, and nothing waits for it. -/
def Quiet (d : Dispatcher W) : Prop :=
  ∀ c id, d.registry.get? c = some id → ∃ since, d.worker? id = some ⟨c, [], .idle since⟩

theorem Quiet.retire (quiet : d.Quiet) (id : Nat) : (d.retire id).Quiet := by
  rcases d.retire_cases id with same | ⟨c, since, found, registered, after⟩
  · rw [same]
    exact quiet
  · intro c' id' registered'
    rw [after] at registered' ⊢
    simp only [Table.get?_erase] at registered'
    split at registered'
    · cases registered'
    · rename_i other
      obtain ⟨since', found'⟩ := quiet c' id' registered'
      have apart : id' ≠ id := by
        rintro rfl
        rw [found] at found'
        cases found'
        exact other rfl
      exact ⟨since', by
        change (d.setWorker id _).worker? id' = _
        rw [worker?_setWorker found, if_neg apart, found']⟩

theorem Quiet.retireAll (quiet : d.Quiet) (ids : List Nat) :
    (ids.foldl (fun d id => d.retire id) d).Quiet := by
  induction ids generalizing d with
  | nil => exact quiet
  | cons id ids ih => exact ih (quiet.retire id)

theorem journal_retireAll (d : Dispatcher W) (ids : List Nat) :
    (ids.foldl (fun d id => d.retire id) d).journal = d.journal := by
  induction ids generalizing d with
  | nil => rfl
  | cons id ids ih =>
      rw [List.foldl_cons, ih]
      rcases d.retire_cases id with same | ⟨_, _, _, _, after⟩
      · rw [same]
      · rw [after]
        rfl

/-- A registered worker has one message before it, and all others are quiet. -/
structure Called (d : Dispatcher W) (id : Nat) (job : Job) : Prop where
  registered : d.registry.get? job.message.conversation = some id
  waiting : ∃ since, d.worker? id = some ⟨job.message.conversation, [job], .idle since⟩
  others {c : Conversation} {id' : Nat} : d.registry.get? c = some id' →
    c ≠ job.message.conversation → ∃ since, d.worker? id' = some ⟨c, [], .idle since⟩

/-- A message that comes to a quiet dispatcher is put into the mailbox of an idle worker. -/
theorem Quiet.enqueue (quiet : d.Quiet) (now : Nat) (job : Job) :
    ∃ id, (d.enqueue now job).Called id job := by
  have placed : d.place now job = .ok (d.enqueue now job) := by
    rcases d.enqueue_cases now job with placed | ⟨id, refused, _⟩
    · exact placed
    · obtain ⟨registered, closed⟩ := refused_of_place refused
      obtain ⟨since, found⟩ := quiet _ _ registered
      cases closed _ found
  generalize d.enqueue now job = d' at placed ⊢
  rcases place_cases placed with ⟨id, w, registered, found, _, rfl⟩ | ⟨absent, rfl⟩
  · obtain ⟨since, idle⟩ := quiet _ _ registered
    obtain rfl := Option.some.inj (found.symm.trans idle)
    refine ⟨id, registered, ⟨since, ?_⟩, fun {c id'} registered' other => ?_⟩
    · change (d.setWorker id _).worker? id = _
      rw [worker?_setWorker found, if_pos rfl]
      rfl
    · obtain ⟨since', found'⟩ := quiet c id' registered'
      have apart : id' ≠ id := by
        rintro rfl
        exact other (congrArg Worker.conversation (Option.some.inj (found'.symm.trans found)))
      refine ⟨since', ?_⟩
      change (d.setWorker id _).worker? id' = _
      rw [worker?_setWorker found, if_neg apart, found']
  · refine ⟨d.workers.length, ?_, ⟨now, ?_⟩, fun {c id'} registered' other => ?_⟩
    · rw [Table.get?_insert, if_pos rfl]
    · exact List.getElem?_concat_length
    · rw [Table.get?_insert, if_neg other] at registered'
      obtain ⟨since', found'⟩ := quiet c id' registered'
      have bound : id' < d.workers.length := (List.getElem?_eq_some_iff.mp found').1
      refine ⟨since', ?_⟩
      rw [worker?, List.getElem?_append_left bound]
      exact found'

/-- Once the message is done with, all workers are quiet. -/
theorem Called.quiet {id : Nat} {job : Job} (called : d.Called id job) {d' : Dispatcher W} (now : Nat)
    (registry : d'.registry = d.registry) (workers : ∀ i, d'.worker? i =
      if i = id then some ⟨job.message.conversation, [], .idle now⟩ else d.worker? i) : d'.Quiet := by
  intro c id' registered
  rw [registry] at registered
  rw [workers]
  by_cases this_one : c = job.message.conversation
  · subst this_one
    cases registered.symm.trans called.registered
    exact ⟨now, if_pos rfl⟩
  · obtain ⟨since, found⟩ := called.others registered this_one
    obtain ⟨_, waiting⟩ := called.waiting
    have apart : id' ≠ id := by
      rintro rfl
      cases found.symm.trans waiting
    exact ⟨since, by rw [if_neg apart, found]⟩

end Dispatcher

namespace EventLoop

variable {σ : Type} {setting : Setting σ} {m : EventLoop σ}

/-- Nobody is at work, and nothing waits for anyone. -/
structure Settled (m : EventLoop σ) : Prop where
  ready : m.ready = []
  sleeping : m.sleeping = []
  quiet : m.dispatcher.Quiet

theorem settled_start (surroundings : σ) : (start surroundings).Settled :=
  ⟨rfl, rfl, fun _ _ found => by cases found⟩

/-! ### Time passes -/

theorem Settled.settle (h : m.Settled) : (m.settle setting).Settled ∧
    (m.settle setting).surroundings = m.surroundings ∧ (m.settle setting).now = m.now := by
  obtain ⟨ready, sleeping, quiet⟩ := h
  simp only [EventLoop.settle, ready, List.foldl_nil]
  exact ⟨⟨rfl, sleeping, quiet.retireAll _⟩, rfl, rfl⟩

theorem Settled.moveTo (h : m.Settled) (t : Nat) : (m.moveTo setting t).Settled ∧
    (m.moveTo setting t).surroundings = m.surroundings ∧ (m.moveTo setting t).now = t := by
  obtain ⟨ready, sleeping, quiet⟩ := h
  unfold EventLoop.moveTo
  simp only [ready, sleeping, List.filter_nil, List.mergeSort_nil, List.map_nil, List.append_nil]
  exact Settled.settle ⟨rfl, rfl, quiet⟩

theorem Settled.waitFor (h : m.Settled) {limit now : Nat} (here : m.now = now) (ahead : now ≤ limit) :
    let m' := m.waitFor setting (fun _ => false) limit now
    m'.Settled ∧ m'.surroundings = m.surroundings ∧ m'.now = limit := by
  fun_induction EventLoop.waitFor setting (fun _ => false) limit now m with
  | case1 now m met => cases met
  | case2 now m _ t _ bounds ih =>
      obtain ⟨settled, surroundings, moved⟩ := h.moveTo t
      obtain ⟨settled', surroundings', moved'⟩ := ih settled moved bounds.2
      exact ⟨settled', surroundings'.trans surroundings, moved'⟩
  | case3 now m _ t _ _ => exact h.moveTo limit
  | case4 now m _ _ => exact h.moveTo limit

/-- Time passes without doing anything to the surroundings. -/
theorem Settled.elapse (h : m.Settled) (ms : Nat) : (m.elapse setting ms).Settled ∧
    (m.elapse setting ms).surroundings = m.surroundings ∧
      (m.elapse setting ms).now = m.now + ms :=
  h.waitFor rfl (Nat.le_add_right _ _)

/-! ### A message comes -/

/-- A worker that has one message before it takes it up, and is done with it in one go. -/
theorem runWorker_called (prompt : setting.Prompt) {id : Nat} {job : Job}
    (called : m.dispatcher.Called id job) :
    let run := (setting.route job.message).run.run (setting.answer m.now) m.surroundings
    ∃ outcome d, outcomeOf job.message run.1 = some outcome ∧ d.Quiet ∧
      d.journal = .handled id job outcome :: m.dispatcher.journal ∧
        m.runWorker setting id = { m with dispatcher := d, surroundings := run.2 } := by
  intro run
  obtain ⟨since, waiting⟩ := called.waiting
  obtain ⟨outcome, ended⟩ : ∃ outcome, outcomeOf job.message run.1 = some outcome := by
    have survives := (prompt job.message).run_ne_crash (setting.answer m.now) m.surroundings
    cases ending : run.1 with
    | done outcome => exact ⟨outcome, rfl⟩
    | panic => exact ⟨_, rfl⟩
    | crash => exact absurd ending survives
  let busy := m.dispatcher.setWorker id
    ⟨job.message.conversation, [], .busy job (setting.route job.message).run⟩
  have started : m.dispatcher.start id (fun message => (setting.route message).run) =
      some (job, busy) := by
    simp only [Dispatcher.start, waiting, busy]
  have working : busy.worker? id =
      some ⟨job.message.conversation, [], .busy job (setting.route job.message).run⟩ := by
    rw [Dispatcher.worker?_setWorker waiting, if_pos rfl]
  have finished : busy.finish m.now id outcome =
      { busy.setWorker id ⟨job.message.conversation, [], .idle m.now⟩ with
        journal := .handled id job outcome :: m.dispatcher.journal } := by
    simp only [Dispatcher.finish, working]
    rfl
  refine ⟨outcome, busy.finish m.now id outcome, ended, called.quiet m.now ?_ fun i => ?_, ?_, ?_⟩
  · rw [finished]
    rfl
  · rw [finished]
    change (busy.setWorker id _).worker? i = _
    rw [Dispatcher.setWorker_setWorker, Dispatcher.worker?_setWorker waiting]
  · rw [finished]
  · simp only [runWorker, waiting, List.length_singleton, takeMessages, started, runJob, runProgram,
      (prompt job.message).advance, List.map_nil, List.nil_append]
    rw [show outcomeOf job.message _ = some outcome from ended]

/-- A message is taken up at once, and is done with before anything else happens. -/
theorem Settled.handle (h : m.Settled) (prompt : setting.Prompt) (message : Message) :
    let run := (setting.route message).run.run (setting.answer m.now) m.surroundings
    ∃ outcome, outcomeOf message run.1 = some outcome ∧
      (m.handle setting message).1 = some outcome ∧ (m.handle setting message).2.Settled ∧
        (m.handle setting message).2.surroundings = run.2 ∧
          (m.handle setting message).2.now = m.now := by
  intro run
  obtain ⟨ready, sleeping, quiet⟩ := h
  obtain ⟨id, called⟩ := quiet.enqueue m.now ⟨m.nextTicket, message⟩
  obtain ⟨since, waiting⟩ := called.waiting
  let m₁ := (m.enqueue message).2
  have woken : m₁.ready = [id] := by
    simp only [m₁, EventLoop.enqueue, called.registered, waiting, ready, List.nil_append]
  obtain ⟨outcome, d, ended, quiet', journal, ran⟩ :=
    runWorker_called (m := { m₁ with ready := [] }) prompt called
  let m₂ := m₁.settle setting
  have settles : m₂ = (EventLoop.tellCallers m₁.dispatcher.journal.length
      { m₁ with ready := [], dispatcher := d, surroundings := run.2 }).retireIdle setting := by
    simp only [m₂, EventLoop.settle, woken, List.foldl_cons, List.foldl_nil, ran]
    rfl
  have answered : m₂.dispatcher.answer? m.nextTicket = some outcome := by
    rw [settles, Dispatcher.answer?]
    simp only [retireIdle, tellCallers, Dispatcher.journal_retireAll, journal]
    rw [List.findSome?_cons]
    simp [Dispatcher.Entry.answer?]
  have settled : m₂.Settled := by
    rw [settles]
    exact ⟨rfl, sleeping, quiet'.retireAll _⟩
  have waits : (m.handle setting message) = (some outcome, m₂) := by
    unfold EventLoop.handle
    change (Dispatcher.answer? (EventLoop.waitFor setting _ _ _ m₂).dispatcher m.nextTicket,
      EventLoop.waitFor setting _ _ _ m₂) = _
    rw [EventLoop.waitFor, if_pos (by rw [answered]; rfl), answered]
  rw [waits]
  exact ⟨outcome, ended, rfl, settled, by rw [settles]; rfl, by rw [settles]; rfl⟩

/-- A message comes some time later. -/
theorem Settled.visit (h : m.Settled) (prompt : setting.Prompt) (v : Nat × Message) :
    let run := (setting.route v.2).run.run (setting.answer (m.now + v.1)) m.surroundings
    ∃ outcome, outcomeOf v.2 run.1 = some outcome ∧
      (m.visit setting v).1 = some outcome ∧ (m.visit setting v).2.Settled ∧
        (m.visit setting v).2.surroundings = run.2 ∧
          (m.visit setting v).2.now = m.now + v.1 := by
  obtain ⟨settled, surroundings, now⟩ := h.elapse v.1
  have handled := settled.handle prompt v.2
  rw [surroundings, now] at handled
  exact handled

theorem Settled.after (h : m.Settled) (prompt : setting.Prompt) (visits : List (Nat × Message)) :
    (m.after setting visits).Settled ∧ m.now ≤ (m.after setting visits).now := by
  induction visits generalizing m with
  | nil => exact ⟨h, Nat.le_refl _⟩
  | cons v visits ih =>
      obtain ⟨_, _, _, settled, _, now⟩ := h.visit prompt v
      obtain ⟨settled', later⟩ := ih settled
      exact ⟨settled', Nat.le_trans (by omega) later⟩

/-- What every message keeps up, whenever it comes, holds after all of them. -/
theorem Settled.after_keeps (h : m.Settled) (prompt : setting.Prompt)
    (visits : List (Nat × Message)) {P : σ → Prop} (here : P m.surroundings)
    (keeps : ∀ v ∈ visits, ∀ now s, now ≤ (m.after setting visits).now → P s →
      P ((setting.route v.2).run.run (setting.answer now) s).2) :
    P (m.after setting visits).surroundings := by
  induction visits generalizing m with
  | nil => exact here
  | cons v visits ih =>
      obtain ⟨_, _, _, settled, surroundings, now⟩ := h.visit prompt v
      have later := (settled.after prompt visits).2
      refine ih settled ?_ fun v' mem => keeps v' (List.mem_cons_of_mem v mem)
      rw [surroundings]
      exact keeps v List.mem_cons_self _ _ (now ▸ later) here

end EventLoop

end Registrar
