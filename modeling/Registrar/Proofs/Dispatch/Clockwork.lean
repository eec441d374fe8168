import Registrar.Bot.Installation
import Registrar.Handler.Rehearsal
import Registrar.Proofs.Dispatch.Deals
import Registrar.Proofs.Dispatch.Session

/-!
A dispatcher on a clock takes the steps of a traffic, and of a session.

An `EventLoop` decides by the clock who goes on when; a traffic and a session leave that open. Hence
what is proved of every traffic and of every session holds of every loop.

For a session, the surroundings have to be `Grounded`: they keep a store in memory, and answer as
some `Chance` does, after some records have been evicted. The surroundings to try handlers in are so
(`grounded_rehearsal`), and so is the bot put together with a store in memory
(`grounded_installation`).

* `EventLoop.traffic_of_deals`: the dispatcher of a loop is that of a traffic, in any surroundings.
* `EventLoop.session_of_deals`: in surroundings that are grounded, a loop has the dispatcher and the
  store of a session.
-/

namespace Registrar

/-! ### A step that was taken halfway -/

namespace Dispatcher

variable {W : Type} {d : Dispatcher W} {id : Nat}

theorem setWorker_setWorker (d : Dispatcher W) (id : Nat) (w w' : Worker W) :
    (d.setWorker id w).setWorker id w' = d.setWorker id w' := by
  simp only [setWorker, List.set_set]

theorem progress_self {job : Job} {work : W} (working : d.working? id = some (job, work)) :
    d.progress id work = d := by
  obtain ⟨c, mailbox, found⟩ := working?_eq_some.mp working
  obtain ⟨bound, here⟩ := List.getElem?_eq_some_iff.mp found
  simp only [progress, found, setWorker]
  rw [← here, List.set_getElem_self bound]

/-- What a worker at work does next does not depend on how far it has come. -/
theorem progress_progress (d : Dispatcher W) (id : Nat) (work work' : W) :
    (d.progress id work).progress id work' = d.progress id work' := by
  rcases progress_cases d id work with same | ⟨c, mailbox, job, before, found, after⟩
  · rw [same]
  · rw [after]
    simp only [progress, found, worker?_setWorker found, if_true, setWorker_setWorker]

theorem finish_progress (d : Dispatcher W) (id : Nat) (work : W) (now : Nat) (outcome : Outcome) :
    (d.progress id work).finish now id outcome = d.finish now id outcome := by
  rcases progress_cases d id work with same | ⟨c, mailbox, job, before, found, after⟩
  · rw [same]
  · rw [after]
    simp only [finish, found, worker?_setWorker found, if_true, setWorker_setWorker]

theorem kill_progress (d : Dispatcher W) (id : Nat) (work : W) :
    (d.progress id work).kill id = d.kill id := by
  rcases progress_cases d id work with same | ⟨c, mailbox, job, before, found, after⟩
  · rw [same]
  · rw [after]
    simp only [kill, found, worker?_setWorker found, if_true, setWorker_setWorker]

/-- A message finds its worker at once, or after a closed one has been taken out of the registry. -/
theorem enqueue_cases (d : Dispatcher W) (now : Nat) (job : Job) :
    d.place now job = .ok (d.enqueue now job) ∨ ∃ id, d.place now job = .error id ∧
      (d.discard job.message.conversation id).place now job = .ok (d.enqueue now job) := by
  cases placed : d.place now job with
  | ok d' =>
      refine .inl ?_
      simp only [enqueue, placed]
  | error id =>
      obtain ⟨registered, _⟩ := refused_of_place placed
      refine .inr ⟨id, rfl, ?_⟩
      cases again : (d.discard job.message.conversation id).place now job with
      | ok d' => simp only [enqueue, placed, again]
      | error id' =>
          have registered' := (refused_of_place again).1
          simp [discard, registered] at registered'

end Dispatcher

/-! ### Queueing a message -/

namespace Traffic

variable {W : Type}

theorem set_concat_length {α : Type} (l : List α) (a b : α) :
    (l ++ [a]).set l.length b = l ++ [b] := by
  rw [List.set_append_right _ _ (Nat.le_refl _), Nat.sub_self]
  rfl

/-- A caller comes and tries. If it was refused, it makes room and tries again; if it was served,
these steps do nothing. -/
theorem enqueue_eq (t : Traffic W) (now : Nat) (message : Message) :
    (((t.step (.call message)).step (.send now t.callers.length)).step
        (.discard t.callers.length)).step (.send now t.callers.length) =
      ⟨t.dispatcher.enqueue now ⟨t.callers.length, message⟩,
        t.callers ++ [⟨message, .served⟩]⟩ := by
  obtain ⟨d, callers⟩ := t
  rcases d.enqueue_cases now ⟨callers.length, message⟩ with placed | ⟨id, refused, placed⟩
  · simp only [step, send, discard, getElem?_concat, if_true, set_concat_length, placed]
  · simp only [step, send, discard, getElem?_concat, if_true, set_concat_length, refused, placed]

end Traffic

/-! ### A loop is a traffic -/

namespace EventLoop

variable {σ : Type} {setting : Setting σ} {m m' : EventLoop σ}

/-- The traffic has come as far as the loop. -/
structure Agrees (m : EventLoop σ) (t : Traffic Work) : Prop where
  dispatcher : t.dispatcher = m.dispatcher
  tickets : t.callers.length = m.nextTicket

/-- Wherever a traffic is where the first loop is, it can come to where the second is. -/
def Drives (m m' : EventLoop σ) : Prop :=
  ∀ t, Agrees m t → ∃ events : List (Event Work), Agrees m' (events.foldl Traffic.step t)

/-- A single event does it. -/
theorem drives_of_event (e : Event Work)
    (dispatcher : ∀ t : Traffic Work, t.dispatcher = m.dispatcher →
      (t.step e).dispatcher = m'.dispatcher)
    (callers : ∀ t : Traffic Work, (t.step e).callers = t.callers)
    (tickets : m'.nextTicket = m.nextTicket) : Drives m m' := fun t agrees =>
  ⟨[e], dispatcher t agrees.dispatcher, by
    rw [List.foldl_cons, List.foldl_nil, callers, agrees.tickets, tickets]⟩

theorem drives_runJob (setting : Setting σ) (id : Nat) (job : Job) (work : Work) (m : EventLoop σ) :
    Drives m (m.runJob setting id job work).2 := by
  have ran := ran_runJob setting id job work m
  rcases ran.dispatcher with ⟨_, outcome, after⟩ | ⟨_, after | ⟨rest, after⟩⟩
  · refine drives_of_event (.finish m.now id outcome) (fun t same => ?_) (fun _ => rfl) ran.tickets
    rw [after, ← same]
    rfl
  · refine drives_of_event (.kill id) (fun t same => ?_) (fun _ => rfl) ran.tickets
    rw [after, ← same]
    rfl
  · refine drives_of_event (.progress id rest) (fun t same => ?_) (fun _ => rfl) ran.tickets
    rw [after, ← same]
    rfl

theorem paces_drives (setting : Setting σ) : Paces setting Drives where
  of_same dispatcher _ tickets _ t agrees :=
    ⟨[], agrees.dispatcher.trans dispatcher.symm, agrees.tickets.trans tickets.symm⟩
  trans first second t agrees := by
    obtain ⟨events, agrees'⟩ := first t agrees
    obtain ⟨more, agrees''⟩ := second _ agrees'
    exact ⟨events ++ more, by rwa [List.foldl_append]⟩
  enqueue message m t agrees := by
    refine ⟨[.call message, .send m.now t.callers.length, .discard t.callers.length,
      .send m.now t.callers.length], ?_⟩
    simp only [List.foldl_cons, List.foldl_nil, Traffic.enqueue_eq]
    refine ⟨?_, ?_⟩
    · rw [agrees.dispatcher, agrees.tickets]
      rfl
    · rw [List.length_append, agrees.tickets]
      rfl
  start {m id job d} started := by
    refine drives_of_event (.start id fun message => (setting.route message).run) ?_
      (fun t => t.callers_step_start id _) rfl
    intro t same
    simp only [Traffic.step, same, started]
  runJob _ := drives_runJob setting _ _ _ _
  retire {m id} _ := drives_of_event (.retire id)
    (fun t same => congrArg (Dispatcher.retire id) same) (fun _ => rfl) rfl
  clock _ _ agrees := ⟨[], agrees.dispatcher, agrees.tickets⟩

/-- Whatever is asked of a loop, and whatever its surroundings are, its dispatcher is one that a
traffic has. -/
theorem traffic_of_deals {surroundings : σ} (deals : Deals setting (start surroundings) m) :
    ∃ events, (Traffic.run events).dispatcher = m.dispatcher := by
  obtain ⟨events, agrees⟩ := (paces_drives setting).deals deals Traffic.start ⟨rfl, rfl⟩
  exact ⟨events, agrees.dispatcher⟩

end EventLoop

/-! ### Surroundings that keep a store -/

/-- Whoever makes this request asks nobody, and only waits. -/
def Request.Waits : Request → Prop
  | pause _ => True
  | permit => True
  | note _ => True
  | _ => False

/-- Surroundings `w` keep a store `m` after exchanges `past`, the latest first: `keeps w m past`. -/
structure Setting.Grounded {σ : Type} (setting : Setting σ)
    (keeps : σ → Memory → List Exchange → Prop) : Prop where
  /-- Whatever they are asked, it is some chance that answers, after some records were evicted. -/
  answers (now : Nat) {w : σ} {m : Memory} {past : List Exchange} (job : Job) (r : Request) :
    keeps w m past → ∃ (m' : Memory) (chance : Chance), m.Evictions m' ∧
      (setting.answer now w r).1 = (chance.answer (Memory.perform chance.now) m' r).1 ∧
      keeps (setting.answer now w r).2 (chance.answer (Memory.perform chance.now) m' r).2
        (⟨job, r, (setting.answer now w r).1⟩ :: past)
  waits {w : σ} {m : Memory} {past : List Exchange} (job : Job) {r : Request} (answer : r.Answer) :
    r.Waits → keeps w m past → keeps w m (⟨job, r, answer⟩ :: past)

def Stop.rest {α : Type} : Stop α → Program α
  | ended (.done a) => .done a
  | ended .panic => .panic
  | ended .crash => .crash
  | asleep _ rest => rest
  | atGate rest => rest

theorem Stop.ending?_rest {α : Type} (ending : Ending α) :
    (Stop.ended ending).rest.ending? = some ending := by
  cases ending <;> rfl

/-! ### What a session can follow -/

namespace Session

variable {route : Handler} {s : Session} {id : Nat} {job : Job}

abbrev Reaches (route : Handler) : Session → Session → Prop :=
  Relation.ReflTransGen fun s s' => ∃ move, s' = s.step route move

theorem reaches_step (route : Handler) (s : Session) (move : Move) :
    Reaches route s (s.step route move) := .single ⟨move, rfl⟩

theorem run_of_reaches {memory : Memory} (reaches : Reaches route (start memory) s) :
    ∃ moves, s = run route memory moves := by
  induction reaches with
  | refl => exact ⟨[], rfl⟩
  | tail _ step ih =>
      obtain ⟨moves, rfl⟩ := ih
      obtain ⟨move, rfl⟩ := step
      exact ⟨moves ++ [move], (run_concat route memory moves move).symm⟩

theorem reaches_evictions (route : Handler) (traffic : Traffic Work) (exchanges : List Exchange)
    {m m' : Memory} (evictions : m.Evictions m') :
    Reaches route ⟨traffic, m, exchanges⟩ ⟨traffic, m', exchanges⟩ := by
  induction evictions with
  | refl => exact .refl
  | tail _ evicts ih =>
      cases evicts with
      | state c => exact ih.tail ⟨.forgetState c, rfl⟩
      | scratch c => exact ih.tail ⟨.forgetScratch c, rfl⟩

theorem step_ask (route : Handler) {r : Request} {next : r.Answer → Work}
    (working : s.working? id = some (job, .ask r next)) (chance : Chance) :
    s.step route (.ask id chance) =
      ⟨s.traffic.step (.progress id (next (chance.answer (Memory.perform chance.now) s.memory r).1)),
        (chance.answer (Memory.perform chance.now) s.memory r).2,
        ⟨job, r, (chance.answer (Memory.perform chance.now) s.memory r).1⟩ :: s.exchanges⟩ := by
  simp only [step, working]

theorem step_conclude (route : Handler) {p : Work} {ending : Ending Outcome}
    (working : s.working? id = some (job, p)) (ended : p.ending? = some ending) (now : Nat) :
    s.step route (.conclude now id) = s.happen
      (match EventLoop.outcomeOf job.message ending with
      | some outcome => .finish now id outcome
      | none => .kill id) := by
  simp only [step, working, ended, Option.map_some]
  cases EventLoop.outcomeOf job.message ending <;> rfl

/-- A caller brings a message, which comes into a mailbox. -/
theorem reaches_enqueue (route : Handler) (s : Session) (now : Nat) (message : Message) :
    Reaches route s { s with traffic :=
      ⟨s.traffic.dispatcher.enqueue now ⟨s.traffic.callers.length, message⟩,
        s.traffic.callers ++ [⟨message, .served⟩]⟩ } := by
  rw [← Traffic.enqueue_eq]
  exact (((Relation.ReflTransGen.refl.tail ⟨.call message, rfl⟩).tail ⟨.send now _, rfl⟩).tail
    ⟨.discard _, rfl⟩).tail ⟨.send now _, rfl⟩

/-- The session can come to be one whose worker has this left to do and whose store and exchanges
are as they should be, while everybody else stays where they are. -/
def Proceeds (route : Handler) (id : Nat) (rest : Work) (kept : Memory → List Exchange → Prop)
    (s : Session) : Prop :=
  ∃ s', Reaches route s s' ∧
    s'.traffic = ⟨s.traffic.dispatcher.progress id rest, s.traffic.callers⟩ ∧
    kept s'.memory s'.exchanges

variable {rest : Work} {kept : Memory → List Exchange → Prop}

theorem proceeds_now (working : s.working? id = some (job, rest))
    (here : kept s.memory s.exchanges) :
    Proceeds route id rest kept s :=
  ⟨s, .refl, by rw [Dispatcher.progress_self working], here⟩

/-- The worker makes its next request, and goes on from there. -/
theorem proceeds_ask {r : Request} {next : r.Answer → Work}
    (working : s.working? id = some (job, .ask r next)) {m : Memory}
    (evictions : s.memory.Evictions m) (chance : Chance)
    (goes : ∀ s' : Session,
      s'.working? id = some (job, next (chance.answer (Memory.perform chance.now) m r).1) →
        s'.memory = (chance.answer (Memory.perform chance.now) m r).2 →
          s'.exchanges =
              ⟨job, r, (chance.answer (Memory.perform chance.now) m r).1⟩ :: s.exchanges →
            Proceeds route id rest kept s') :
    Proceeds route id rest kept s := by
  have asks := step_ask (s := ⟨s.traffic, m, s.exchanges⟩) route working chance
  have new := Dispatcher.newWork_progress working
    (next (chance.answer (Memory.perform chance.now) m r).1)
  obtain ⟨s', reaches, traffic, here⟩ := goes
    ((⟨s.traffic, m, s.exchanges⟩ : Session).step route (.ask id chance))
    (by
      rw [asks, working?]
      exact (congrFun new.working id).trans (Function.update_self ..))
    (by rw [asks]) (by rw [asks])
  refine ⟨s', ((reaches_evictions route s.traffic s.exchanges evictions).trans
    (reaches_step route _ (.ask id chance))).trans reaches, ?_, here⟩
  rw [traffic, asks]
  simp only [Traffic.step, Dispatcher.progress_progress]

end Session

/-! ### A loop is a session -/

section Grounded

variable {σ : Type} {setting : Setting σ} {keeps : σ → Memory → List Exchange → Prop}

def Chance.still : Chance := ⟨0, none, .epoch, .ok "", .ok (), .error (.database ""), .ok ()⟩

open Session in
/-- A worker that runs until it has to wait makes its requests one after another. -/
theorem Setting.Grounded.proceeds_advance (grounded : setting.Grounded keeps) (now id : Nat)
    {job : Job} (p : Work) (scene : Scene σ) (s : Session)
    (working : s.working? id = some (job, p))
    (here : keeps scene.surroundings s.memory s.exchanges) :
    Proceeds setting.route id (p.advance (setting.answer now) scene).1.rest
      (keeps (p.advance (setting.answer now) scene).2.surroundings) s := by
  fun_induction Program.advance (setting.answer now) p scene generalizing s with
  | case1 | case2 | case3 => exact proceeds_now working here
  | case4 next scene ih | case7 next w n notes ih | case8 text next scene ih =>
      -- It need not wait: a pause of no length, a permit that is there, a note.
      refine proceeds_ask working .refl .still fun s' working' memory exchanges => ih s' working' ?_
      rw [memory, exchanges]
      exact grounded.waits job _ True.intro here
  | case5 | case6 =>
      refine proceeds_ask working .refl .still fun s' working' memory exchanges =>
        proceeds_now working' ?_
      rw [memory, exchanges]
      exact grounded.waits job _ True.intro here
  | case9 r next scene _ _ _ _ _ a w answered ih =>
      obtain ⟨m, chance, evictions, same, here'⟩ := grounded.answers now job r here
      rw [answered] at same here'
      refine proceeds_ask working evictions chance fun s' working' memory exchanges => ih s' ?_ ?_
      · rw [working', ← same]
      · rw [memory, exchanges, ← same]
        exact here'

namespace EventLoop

variable {m m' : EventLoop σ}

/-- The session has come as far as the loop. -/
structure Follows (keeps : σ → Memory → List Exchange → Prop) (m : EventLoop σ) (s : Session) :
    Prop where
  agrees : Agrees m s.traffic
  memory : keeps m.surroundings s.memory s.exchanges

/-- Wherever a session is where the first loop is, it can come to where the second is. -/
def Leads (setting : Setting σ) (keeps : σ → Memory → List Exchange → Prop) (m m' : EventLoop σ) :
    Prop :=
  ∀ s, Follows keeps m s → ∃ s', Session.Reaches setting.route s s' ∧ Follows keeps m' s'

theorem leads_runJob (grounded : setting.Grounded keeps) {id : Nat} {job : Job} {work : Work}
    (working : m.dispatcher.working? id = some (job, work)) :
    Leads setting keeps m (m.runJob setting id job work).2 := by
  intro s follows
  have working' : s.working? id = some (job, work) := by
    rw [Session.working?, follows.agrees.dispatcher, working]
  obtain ⟨s', reaches, traffic, here⟩ := grounded.proceeds_advance m.now id work
    ⟨m.surroundings, m.permits, []⟩ s working' follows.memory
  unfold runJob runProgram
  generalize work.advance (setting.answer m.now) ⟨m.surroundings, m.permits, []⟩ = stopped at *
  obtain ⟨stop, scene⟩ := stopped
  have new := Dispatcher.newWork_progress working' stop.rest
  have tickets : s'.traffic.callers.length = m.nextTicket := by
    rw [traffic]
    exact follows.agrees.tickets
  cases stop with
  | ended ending =>
      have done : s'.working? id = some (job, (Stop.ended ending).rest) := by
        rw [Session.working?, traffic, new.working, Function.update_self]
      have concludes := Session.step_conclude setting.route done
        (Stop.ending?_rest ending) m.now
      refine ⟨_, reaches.tail ⟨.conclude m.now id, rfl⟩, ?_⟩
      rw [concludes]
      dsimp only
      cases outcome : outcomeOf job.message ending with
      | some outcome =>
          refine ⟨⟨?_, tickets⟩, here⟩
          simp only [Session.happen, Traffic.step]
          rw [traffic, Dispatcher.finish_progress, follows.agrees.dispatcher]
      | none =>
          refine ⟨⟨?_, tickets⟩, here⟩
          simp only [Session.happen, Traffic.step]
          rw [traffic, Dispatcher.kill_progress, follows.agrees.dispatcher]
  | asleep ms rest | atGate rest =>
      refine ⟨s', reaches, ⟨?_, tickets⟩, here⟩
      rw [traffic, follows.agrees.dispatcher]
      rfl

theorem paces_leads (grounded : setting.Grounded keeps) :
    Paces setting (Leads setting keeps) where
  of_same {m m'} dispatcher surroundings tickets _ s follows :=
    ⟨s, .refl, ⟨follows.agrees.dispatcher.trans dispatcher.symm,
      follows.agrees.tickets.trans tickets.symm⟩, surroundings ▸ follows.memory⟩
  trans first second s follows := by
    obtain ⟨s', reaches, follows'⟩ := first s follows
    obtain ⟨s'', reaches', follows''⟩ := second s' follows'
    exact ⟨s'', reaches.trans reaches', follows''⟩
  enqueue message m s follows := by
    refine ⟨_, Session.reaches_enqueue setting.route s m.now message, ⟨?_, ?_⟩, follows.memory⟩
    · rw [follows.agrees.dispatcher, follows.agrees.tickets]
      rfl
    · rw [List.length_append, follows.agrees.tickets]
      rfl
  start {m id job d} started s follows := by
    refine ⟨_, Session.reaches_step setting.route s (.start id), ?_⟩
    simp only [Session.step, Session.happen, Traffic.step, follows.agrees.dispatcher, started]
    exact ⟨⟨rfl, follows.agrees.tickets⟩, follows.memory⟩
  runJob found := leads_runJob grounded (Dispatcher.working?_eq_some.mpr ⟨_, _, found⟩)
  retire {m id} _ s follows :=
    ⟨_, Session.reaches_step setting.route s (.retire id),
      ⟨congrArg (Dispatcher.retire id) follows.agrees.dispatcher, follows.agrees.tickets⟩,
      follows.memory⟩
  clock _ s follows :=
    ⟨s, .refl, ⟨follows.agrees.dispatcher, follows.agrees.tickets⟩, follows.memory⟩

/-- Whatever is asked of a loop whose surroundings keep a store, its dispatcher is that of a session,
and what its surroundings keep is the store and the exchanges of that session. -/
theorem session_of_deals (grounded : setting.Grounded keeps) {surroundings : σ} {memory : Memory}
    (kept : keeps surroundings memory []) (deals : Deals setting (start surroundings) m) :
    ∃ moves, (Session.run setting.route memory moves).traffic.dispatcher = m.dispatcher ∧
      keeps m.surroundings (Session.run setting.route memory moves).memory
        (Session.run setting.route memory moves).exchanges := by
  obtain ⟨s, reaches, follows⟩ :=
    (paces_leads grounded).deals deals (Session.start memory) ⟨⟨rfl, rfl⟩, kept⟩
  obtain ⟨moves, rfl⟩ := Session.run_of_reaches reaches
  exact ⟨moves, follows.agrees.dispatcher, follows.memory⟩

end EventLoop

end Grounded

/-! ### Surroundings that are at hand -/

/-- It is enough that the store is answered for, and that nobody else touches it. -/
theorem Setting.Grounded.of_store {σ : Type} {setting : Setting σ}
    {keeps : σ → Memory → List Exchange → Prop}
    (store : ∀ now w m past job call, keeps w m past →
      ∃ (m' : Memory) (chance : Chance), m.Evictions m' ∧
        (setting.answer now w (.store call)).1 =
          (chance.answer (Memory.perform chance.now) m' (.store call)).1 ∧
        keeps (setting.answer now w (.store call)).2
          (chance.answer (Memory.perform chance.now) m' (.store call)).2
          (⟨job, .store call, (setting.answer now w (.store call)).1⟩ :: past))
    (elsewhere : ∀ now w m past job r, (∀ call, r ≠ .store call) → keeps w m past →
      keeps (setting.answer now w r).2 m (⟨job, r, (setting.answer now w r).1⟩ :: past))
    (waits : ∀ w m past job r a, Request.Waits r → keeps w m past →
      keeps w m (⟨job, r, a⟩ :: past)) : setting.Grounded keeps := by
  refine ⟨fun now {w m past} job r kept => ?_, fun job => waits _ _ _ job _⟩
  have aside : (∀ call, r ≠ .store call) →
      keeps (setting.answer now w r).2 m (⟨job, r, (setting.answer now w r).1⟩ :: past) :=
    fun other => elsewhere now w m past job r other kept
  cases r with
  | store call => exact store now w m past job call kept
  | clock =>
      exact ⟨m, { Chance.still with clock := (setting.answer now w .clock).1 }, .refl, rfl,
        aside nofun⟩
  | newCode =>
      exact ⟨m, { Chance.still with code := (setting.answer now w .newCode).1 }, .refl, rfl,
        aside nofun⟩
  | deliver mail =>
      exact ⟨m, { Chance.still with mail := (setting.answer now w (.deliver mail)).1 }, .refl, rfl,
        aside nofun⟩
  | enroll login id roles =>
      exact ⟨m, { Chance.still with
        enrolment := (setting.answer now w (.enroll login id roles)).1 }, .refl, rfl, aside nofun⟩
  | send message =>
      exact ⟨m, { Chance.still with chat := (setting.answer now w (.send message)).1 }, .refl, rfl,
        aside nofun⟩
  | pause | permit | note => exact ⟨m, .still, .refl, rfl, aside nofun⟩

/-- The entry into the table of users that an exchange made, if it did. -/
def Exchange.enrolment? : Exchange → Option Enrolment
  | ⟨_, .enroll login id roles, .ok row⟩ => some ⟨login, id, roles, row⟩
  | _ => none

theorem Rehearsal.enroll_eq (s : Rehearsal) (job : Job) (login : String) (id : Option Int64)
    (roles : Roles) : (s.enroll login id roles).2.memory = s.memory ∧
      (s.enroll login id roles).2.enrolled =
        [⟨job, .enroll login id roles, (s.enroll login id roles).1⟩].filterMap
          Exchange.enrolment? ++ s.enrolled := by
  unfold enroll
  split
  · exact ⟨rfl, rfl⟩
  · dsimp only
    split <;> exact ⟨rfl, rfl⟩

/-- The surroundings to try handlers in keep a store, whatever they refuse, and tell who was
entered. -/
theorem grounded_rehearsal (route : Handler) (idleTimeout : Nat) :
    Setting.Grounded ⟨fun now s r => s.answer now r, route, idleTimeout⟩
      fun (s : Rehearsal) m past =>
        s.memory = m ∧ s.enrolled = past.filterMap Exchange.enrolment? := by
  refine .of_store ?_ ?_ ?_
  · rintro now s m past job call ⟨rfl, enrolled⟩
    refine ⟨s.memory, ⟨now, (FaultRule.judge call s.faults).1.map .backend, .epoch, .ok "", .ok (),
      .error (.database ""), .ok ()⟩, .refl, ?_⟩
    simp only [Rehearsal.answer, Rehearsal.callStore, Chance.answer]
    cases judged : FaultRule.judge call s.faults with
    | mk verdict faults =>
        cases verdict <;> exact ⟨rfl, rfl, enrolled⟩
  · rintro now s m past job r elsewhere ⟨rfl, enrolled⟩
    cases r with
    | store call => exact absurd rfl (elsewhere call)
    | enroll login id roles =>
        obtain ⟨memory, entered⟩ := s.enroll_eq job login id roles
        rw [enrolled] at entered
        exact ⟨memory, entered.trans List.filterMap_append.symm⟩
    | newCode =>
        simp only [Rehearsal.answer, Rehearsal.handOut]
        split <;> exact ⟨rfl, enrolled⟩
    | deliver | send =>
        simp only [Rehearsal.answer]
        split <;> exact ⟨rfl, enrolled⟩
    | clock | pause | permit | note =>
        simp only [Rehearsal.answer]
        exact ⟨trivial, enrolled⟩
  · rintro s m past job r a waits kept
    cases r with
    | pause | permit | note => exact kept
    | _ => cases waits

/-- The bot keeps a store if its settings ask for one in memory. -/
theorem grounded_installation (route : Handler) (idleTimeout : Nat) :
    Setting.Grounded ⟨Installation.answer, route, idleTimeout⟩
      fun (b : Installation) m _ => ∃ interval swept, b.store = .memory interval swept m := by
  refine .of_store ?_ ?_ fun _ _ _ _ _ _ _ kept => kept
  · rintro now b m past job call ⟨interval, swept, store⟩
    refine ⟨m.elapse interval swept now, { Chance.still with now := now },
      Memory.evictions_elapse interval swept now m, ?_⟩
    simp only [Installation.answer, store, BackingStore.perform, Chance.answer, Chance.still]
    exact ⟨rfl, interval, now, rfl⟩
  · rintro now b m past job r elsewhere ⟨interval, swept, store⟩
    refine ⟨interval, swept, ?_⟩
    cases r with
    | store call => exact absurd rfl (elsewhere call)
    | _ => exact store

end Registrar
