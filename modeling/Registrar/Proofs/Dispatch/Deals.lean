import Registrar.Dispatch.EventLoop
import Registrar.Proofs.Dispatch.Change

/-!
What can be asked of a dispatcher on a clock, and what holds of all that it does.

A `Deal` is something that a caller asks of an `EventLoop`. Whatever it is, the loop gets there in
small steps: a message is queued, an idle worker takes one, a worker runs until it has to wait, an
idle worker retires because its time has come, the clock goes on. `Works` says of a relation between
states of a loop that it holds across each of these steps but the last and can be put together, and
`Paces` that it holds also when the clock goes on.

* `ran_runJob`: all that a worker can do until it has to wait.
* `Paces.deals`: such a relation holds across every run of deals.

A program that runs outside any worker, `EventLoop.perform`, is not a deal: it comes between the
messages of a conversation, where no handler can.
-/

namespace Registrar

namespace EventLoop

variable {σ : Type} {setting : Setting σ} {m m' m'' : EventLoop σ}
  {R : EventLoop σ → EventLoop σ → Prop}

/-- What can be asked of a loop. -/
inductive Deal (setting : Setting σ) (m : EventLoop σ) : EventLoop σ → Prop where
  | dispatch (update : Update) : Deal setting m (m.dispatch update)
  | dispatchAll (updates : List Update) : Deal setting m (m.dispatchAll setting updates)
  | spawn (message : Message) : Deal setting m (m.spawn setting message)
  | handle (message : Message) : Deal setting m (m.handle setting message).2
  | openGate (permits : Nat) : Deal setting m (m.openGate setting permits)
  | elapse (milliseconds : Nat) : Deal setting m (m.elapse setting milliseconds)

abbrev Deals (setting : Setting σ) : EventLoop σ → EventLoop σ → Prop :=
  Relation.ReflTransGen (Deal setting)

/-- Worker `id` has run until it had to wait, and has got done with its message or not. -/
structure Ran (id : Nat) (m : EventLoop σ) (finished : Bool) (m' : EventLoop σ) : Prop where
  now : m'.now = m.now
  ready : m'.ready = m.ready
  tickets : m'.nextTicket = m.nextTicket
  /-- It is done with its message, or was killed by it, or has still to do something about it. -/
  dispatcher :
    (finished = true ∧ ∃ outcome, m'.dispatcher = m.dispatcher.finish m.now id outcome) ∨
      finished = false ∧ (m'.dispatcher = m.dispatcher.kill id ∨
        ∃ rest, m'.dispatcher = m.dispatcher.progress id rest)

theorem ran_runJob (setting : Setting σ) (id : Nat) (job : Job) (work : Work) (m : EventLoop σ) :
    Ran id m (m.runJob setting id job work).1 (m.runJob setting id job work).2 := by
  unfold runJob runProgram
  generalize work.advance (setting.answer m.now) ⟨m.surroundings, m.permits, []⟩ = stopped
  obtain ⟨stop, scene⟩ := stopped
  cases stop with
  | ended ending =>
      dsimp only
      cases outcomeOf job.message ending with
      | some outcome => exact ⟨rfl, rfl, rfl, .inl ⟨rfl, outcome, rfl⟩⟩
      | none => exact ⟨rfl, rfl, rfl, .inr ⟨rfl, .inl rfl⟩⟩
  | asleep ms rest | atGate rest => exact ⟨rfl, rfl, rfl, .inr ⟨rfl, .inr ⟨rest, rfl⟩⟩⟩

/-- The relation holds across each step that a loop takes while its clock stands still, and runs
through. A worker retires only when its time has come. -/
structure Works (setting : Setting σ) (R : EventLoop σ → EventLoop σ → Prop) : Prop where
  of_same {m m' : EventLoop σ} : m'.dispatcher = m.dispatcher → m'.surroundings = m.surroundings →
    m'.nextTicket = m.nextTicket → m'.now = m.now → R m m'
  trans {m m' m'' : EventLoop σ} : R m m' → R m' m'' → R m m''
  enqueue (message : Message) (m : EventLoop σ) : R m (m.enqueue message).2
  start {m : EventLoop σ} {id : Nat} {job : Job} {d : Dispatcher Work} :
    m.dispatcher.start id (fun message => (setting.route message).run) = some (job, d) →
      R m { m with dispatcher := d }
  runJob {m : EventLoop σ} {id : Nat} {c : Conversation} {mailbox : List Job} {job : Job}
    {work : Work} : m.dispatcher.worker? id = some ⟨c, mailbox, .busy job work⟩ →
      R m (m.runJob setting id job work).2
  retire {m : EventLoop σ} {id : Nat} :
    (∀ c since, m.dispatcher.worker? id = some ⟨c, [], .idle since⟩ →
      since + setting.idleTimeout ≤ m.now) →
      R m { m with dispatcher := m.dispatcher.retire id }

/-- The relation holds also when the clock goes on. -/
structure Paces (setting : Setting σ) (R : EventLoop σ → EventLoop σ → Prop) : Prop
    extends Works setting R where
  clock {m : EventLoop σ} {t : Nat} : m.now ≤ t → R m { m with now := t }

/-! ### While the clock stands still -/

namespace Works

variable (works : Works setting R)

include works

theorem refl (m : EventLoop σ) : R m m := works.of_same rfl rfl rfl rfl

theorem foldl {α : Type} {f : EventLoop σ → α → EventLoop σ} (each : ∀ m a, R m (f m a))
    (l : List α) (m : EventLoop σ) : R m (l.foldl f m) := by
  induction l generalizing m with
  | nil => exact works.refl m
  | cons a l ih => exact works.trans (each m a) (ih (f m a))

theorem takeMessages (id n : Nat) (m : EventLoop σ) : R m (m.takeMessages setting id n) := by
  induction n generalizing m with
  | zero => exact works.refl m
  | succ n ih =>
      unfold EventLoop.takeMessages
      split
      · exact works.refl m
      · rename_i job d started
        obtain ⟨c, rest, busy⟩ := Dispatcher.worker?_of_start started
        have begins := works.start started
        have runs := works.runJob (m := { m with dispatcher := d }) busy
        split
        · rename_i m' ran
          rw [ran] at runs
          exact works.trans (works.trans begins runs) (ih m')
        · rename_i m' ran
          rw [ran] at runs
          exact works.trans begins runs

theorem runWorker (m : EventLoop σ) (id : Nat) : R m (m.runWorker setting id) := by
  unfold EventLoop.runWorker
  split
  · rename_i c mailbox job work found
    have runs := works.runJob found
    split
    · rename_i m' ran
      rw [ran] at runs
      exact works.trans runs (works.takeMessages id mailbox.length m')
    · rename_i m' ran
      rw [ran] at runs
      exact runs
  · exact works.takeMessages id _ m
  · exact works.refl m

/-- Workers whose time has come retire one after another; none of them makes another one idle. -/
theorem retireAll (ids : List Nat) (m : EventLoop σ)
    (due : ∀ id ∈ ids, ∀ c since, m.dispatcher.worker? id = some ⟨c, [], .idle since⟩ →
      since + setting.idleTimeout ≤ m.now) :
    R m { m with dispatcher := ids.foldl (fun d id => d.retire id) m.dispatcher } := by
  induction ids generalizing m with
  | nil => exact works.refl m
  | cons id ids ih =>
      refine works.trans (works.retire (due id List.mem_cons_self)) (ih _ ?_)
      intro i mem c since found
      exact due i (List.mem_cons_of_mem _ mem) c since (Dispatcher.idle_of_retire found)

/-- The time of those who are chosen to retire has come. -/
theorem retireIdle (m : EventLoop σ) : R m (m.retireIdle setting) := by
  refine works.retireAll _ m fun id mem c since found => ?_
  obtain ⟨⟨w, i⟩, chosen, rfl⟩ := List.mem_map.mp mem
  obtain ⟨listed, due⟩ := List.mem_filter.mp chosen
  have there := List.mem_zipIdx_iff_getElem?.mp listed
  obtain rfl := Option.some.inj (there.symm.trans found)
  simpa [retirement?] using due

theorem settle (m : EventLoop σ) : R m (m.settle setting) := by
  have wakes : R m { m with ready := [] } := works.of_same rfl rfl rfl rfl
  have runs := works.foldl works.runWorker m.ready { m with ready := [] }
  have tells : ∀ m' : EventLoop σ, R m' (m'.tellCallers m.dispatcher.journal.length) :=
    fun m' => works.of_same rfl rfl rfl rfl
  exact works.trans (works.trans (works.trans wakes runs) (tells _)) (works.retireIdle _)

theorem dispatch (m : EventLoop σ) (update : Update) : R m (m.dispatch update) := by
  unfold EventLoop.dispatch
  split
  · exact works.enqueue _ m
  · exact works.refl m

end Works

/-- The clock stands still meanwhile. -/
theorem works_now (setting : Setting σ) : Works setting fun m m' => m'.now = m.now where
  of_same _ _ _ same := same
  trans first second := second.trans first
  enqueue _ _ := rfl
  start _ := rfl
  runJob _ := (ran_runJob ..).now
  retire _ := rfl

theorem now_settle (m : EventLoop σ) : (m.settle setting).now = m.now :=
  (works_now setting).settle m

/-! ### While time passes -/

namespace Paces

variable (paces : Paces setting R)

include paces

theorem moveTo {t : Nat} (m : EventLoop σ) (later : m.now ≤ t) : R m (m.moveTo setting t) := by
  unfold EventLoop.moveTo
  extract_lets awake m'
  have wakes : R { m with now := t } m' := paces.of_same rfl rfl rfl rfl
  exact paces.trans (paces.trans (paces.clock later) wakes) (paces.settle m')

theorem waitFor (holds : EventLoop σ → Bool) {limit now : Nat} (m : EventLoop σ)
    (here : m.now = now) (ahead : now ≤ limit) : R m (m.waitFor setting holds limit now) := by
  fun_induction EventLoop.waitFor setting holds limit now m with
  | case1 now m _ => exact paces.refl m
  | case2 now m _ t _ bounds ih =>
      have later : m.now ≤ t := here ▸ Nat.le_of_lt bounds.1
      exact paces.trans (paces.moveTo m later) (ih (now_settle _) bounds.2)
  | case3 now m _ t _ _ => exact paces.moveTo m (here ▸ ahead)
  | case4 now m _ _ => exact paces.moveTo m (here ▸ ahead)

/-! ### Deals -/

theorem deal (deal : Deal setting m m') : R m m' := by
  cases deal with
  | dispatch update => exact paces.dispatch m update
  | dispatchAll updates =>
      exact paces.trans (paces.foldl paces.dispatch updates m) (paces.settle _)
  | spawn message =>
      have calls : R (m.enqueue message).2 { (m.enqueue message).2 with
          callers := (m.enqueue message).2.callers ++ [(m.enqueue message).1] } :=
        paces.of_same rfl rfl rfl rfl
      exact paces.trans (paces.trans (paces.enqueue message m) calls) (paces.settle _)
  | handle message =>
      exact paces.trans (paces.trans (paces.enqueue message m) (paces.settle _))
        (paces.waitFor _ _ rfl (Nat.le_add_right _ _))
  | openGate permits =>
      have opens : R m { m with
          ready := m.ready ++ m.atGate.take permits
          atGate := m.atGate.drop permits
          permits := m.permits + (permits - m.atGate.length) } := paces.of_same rfl rfl rfl rfl
      exact paces.trans opens (paces.settle _)
  | elapse milliseconds => exact paces.waitFor _ m rfl (Nat.le_add_right _ _)

/-- Whatever is asked of a loop, and however often. -/
theorem deals (deals : Deals setting m m') : R m m' := by
  induction deals with
  | refl => exact paces.refl _
  | tail _ deal ih => exact paces.trans ih (paces.deal deal)

end Paces

end EventLoop

end Registrar
