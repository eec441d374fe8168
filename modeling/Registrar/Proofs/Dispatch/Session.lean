import Registrar.Dispatch.EventLoop
import Registrar.Proofs.Dispatch.Traffic
import Registrar.Proofs.Store.Record
import Mathlib.Logic.Function.Basic

/-!
Workers at work on one store.

A session is a traffic whose workers run the programs of a handler, request by request, on a store
in memory that they share. Who takes the next step is left open, and so is what the surroundings
answer: a `Chance` says for one request what comes of it, a refusal of the store included. Between
two requests a record of the store may be evicted. `Session.run` takes the steps of any list of
moves.

* `effect_step`: what a move comes to for the messages at work, the store and the exchanges, apart
  from who waits in which mailbox.
* `traffic_run`: a session is a traffic, so that everything about traffics holds of it.
* `unique_run`: two workers are never at work for one conversation.
-/

namespace Registrar

/-- What the surroundings have ready for one request: a time, and a result for each kind. -/
structure Chance where
  now : Nat
  /-- The reason for which the store refuses a call, without effect, if it does. -/
  storeFault : Option StorageError
  clock : Instant
  code : Except BotError String
  mail : Except EmailError Unit
  enrolment : Except UsersError UserRecord
  chat : Except BotError Unit

/-- The answer to a request, and a store after it on which calls are performed in some way. -/
def Chance.answer {σ : Type} (chance : Chance)
    (perform : σ → (call : StoreCall) → call.Answer × σ) (s : σ) : (r : Request) → r.Answer × σ
  | .store call =>
    match chance.storeFault with
    | some fault => (.error fault, s)
    | none => perform s call
  | .clock => (chance.clock, s)
  | .newCode => (chance.code, s)
  | .deliver _ => (chance.mail, s)
  | .enroll _ _ _ => (chance.enrolment, s)
  | .send _ => (chance.chat, s)
  | .pause _ => ((), s)
  | .permit => ((), s)
  | .note _ => ((), s)

namespace Chance

variable {c : Conversation} {r : Request}

/-- What is asked of others than the store leaves the store alone. -/
theorem answer_elsewhere {σ : Type} (chance : Chance)
    (perform : σ → (call : StoreCall) → call.Answer × σ) (s : σ)
    (elsewhere : ∀ call, r ≠ .store call) : (chance.answer perform s r).2 = s := by
  cases r with
  | store call => exact absurd rfl (elsewhere call)
  | _ => rfl

/-- A request about one conversation is answered out of its record, as far as out of the store. -/
theorem answer_record (chance : Chance) (m : Memory)
    (own : ∀ call, r = .store call → call.conversation = c) :
    (chance.answer (Memory.perform chance.now) m r).1 =
        (chance.answer Record.perform (m.record c) r).1 ∧
      (chance.answer (Memory.perform chance.now) m r).2.record c =
        (chance.answer Record.perform (m.record c) r).2 := by
  cases r with
  | store call =>
      have same := own call rfl
      simp only [answer]
      split
      · exact ⟨rfl, rfl⟩
      · rw [Memory.answer_perform, Memory.record_perform, if_pos same.symm, same]
        exact ⟨rfl, rfl⟩
  | _ => exact ⟨rfl, rfl⟩

/-- It leaves the records of others as they are. -/
theorem record_answer_other (chance : Chance) (m : Memory)
    (own : ∀ call, r = .store call → call.conversation = c) {c' : Conversation} (other : c' ≠ c) :
    (chance.answer (Memory.perform chance.now) m r).2.record c' = m.record c' := by
  cases r with
  | store call =>
      simp only [answer]
      split
      · rfl
      · rw [Memory.record_perform, own call rfl, if_neg other]
  | _ => rfl

end Chance

/-- A request that was made for a message, and its answer. -/
structure Exchange where
  job : Job
  request : Request
  answer : request.Answer

/-- A traffic, the store that its workers share, and what they have asked, the latest first. -/
structure Session where
  traffic : Traffic Work
  memory : Memory
  exchanges : List Exchange

/-- Something that can happen next in a session. -/
inductive Move where
  /-- A caller comes. -/
  | call (message : Message)
  /-- A caller tries to put its message into a mailbox. -/
  | send (now ticket : Nat)
  /-- A caller that was refused takes the closed worker out of the registry. -/
  | discard (ticket : Nat)
  /-- An idle worker takes the next message from its mailbox. -/
  | start (worker : Nat)
  /-- A worker makes its next request. -/
  | ask (worker : Nat) (chance : Chance)
  /-- A worker whose program has ended is done with its message, or breaks down with it. -/
  | conclude (now worker : Nat)
  /-- A worker is killed in the middle of its message. -/
  | kill (worker : Nat)
  /-- The idle time of a worker is over. -/
  | retire (worker : Nat)
  /-- The state of a conversation is evicted. -/
  | forgetState (c : Conversation)
  /-- The scratch map of a conversation is evicted. -/
  | forgetScratch (c : Conversation)

def Program.ending? {α : Type} : Program α → Option (Ending α)
  | done a => some (.done a)
  | panic => some .panic
  | crash => some .crash
  | ask _ _ => none

/-- The message that a worker is at work on, and what remains to be done about it. -/
def Phase.work? {W : Type} : Phase W → Option (Job × W)
  | idle _ => none
  | busy job work => some (job, work)
  | retired => none
  | killed => none

/-- How the handling of a message ended, if an entry tells that. -/
def Entry.concluded? : Entry → Option (Job × Outcome)
  | accepted _ _ => none
  | handled _ job outcome => some (job, outcome)
  | lost _ _ => none

def Entry.lost? : Entry → Option Job
  | accepted _ _ => none
  | handled _ _ _ => none
  | lost _ job => some job

/-! ### What the operations of a dispatcher do to the messages at work -/

namespace Dispatcher

variable {W : Type} {d d' : Dispatcher W} {id : Nat} {v : Worker W}

def working? (d : Dispatcher W) (id : Nat) : Option (Job × W) := (d.worker? id).bind (·.phase.work?)

/-- The messages that were handled and their outcomes, the latest first. -/
def concluded (d : Dispatcher W) : List (Job × Outcome) := d.journal.filterMap Entry.concluded?

def losses (d : Dispatcher W) : List Job := d.journal.filterMap Entry.lost?

/-- Nobody begins, goes on or ends, and nothing is lost. -/
structure SameWork (d d' : Dispatcher W) : Prop where
  working : d'.working? = d.working?
  concluded : d'.concluded = d.concluded
  losses : d'.losses = d.losses

theorem SameWork.refl (d : Dispatcher W) : SameWork d d := ⟨rfl, rfl, rfl⟩

theorem working?_eq_some {job : Job} {work : W} :
    d.working? id = some (job, work) ↔
      ∃ c mailbox, d.worker? id = some ⟨c, mailbox, .busy job work⟩ := by
  unfold working?
  constructor
  · intro working
    obtain ⟨⟨c, mailbox, phase⟩, found, work⟩ := Option.bind_eq_some_iff.mp working
    cases phase with
    | busy job' work' =>
        cases work
        exact ⟨c, mailbox, found⟩
    | idle | retired | killed => cases work
  · rintro ⟨c, mailbox, found⟩
    rw [found]
    rfl

theorem working?_setWorker (found : d.worker? id = some v) (w : Worker W) :
    (d.setWorker id w).working? = Function.update d.working? id w.phase.work? := by
  funext i
  rw [working?, worker?_setWorker found, Function.update_apply]
  split <;> rfl

/-- A worker that is replaced by one at work on the same changes nothing. -/
theorem working?_setWorker_same (found : d.worker? id = some v) {w : Worker W}
    (same : w.phase.work? = v.phase.work?) : (d.setWorker id w).working? = d.working? := by
  rw [working?_setWorker found, same]
  refine Function.update_eq_self_iff.mpr ?_
  rw [working?, found]
  rfl

theorem sameWork_place {now : Nat} {job : Job} (placed : d.place now job = .ok d') :
    SameWork d d' := by
  rcases place_cases placed with ⟨id, w, _, found, _, rfl⟩ | ⟨_, rfl⟩
  · exact ⟨working?_setWorker_same found rfl, rfl, rfl⟩
  · refine ⟨funext fun i => ?_, rfl, rfl⟩
    simp only [working?, worker?, getElem?_concat]
    split
    · rename_i last
      rw [last, List.getElem?_eq_none (Nat.le_refl _)]
      rfl
    · rfl

theorem sameWork_discard (d : Dispatcher W) (c : Conversation) (id : Nat) :
    SameWork d (d.discard c id) := by
  rcases discard_cases d c id with same | ⟨_, after⟩
  · rw [same]
    exact .refl d
  · rw [after]
    exact ⟨rfl, rfl, rfl⟩

theorem sameWork_retire (d : Dispatcher W) (id : Nat) : SameWork d (d.retire id) := by
  rcases retire_cases d id with same | ⟨c, since, found, _, after⟩
  · rw [same]
    exact .refl d
  · rw [after]
    exact ⟨working?_setWorker_same (w := ⟨c, [], .retired⟩) found rfl, rfl, rfl⟩

/-- Worker `id` is now at work on this, or on nothing; messages were handled or lost. -/
structure NewWork (d d' : Dispatcher W) (id : Nat) (work : Option (Job × W))
    (concluded : List (Job × Outcome)) (losses : List Job) : Prop where
  working : d'.working? = Function.update d.working? id work
  concluded : d'.concluded = concluded ++ d.concluded
  losses : d'.losses = losses ++ d.losses

theorem newWork_start {begin : Message → W} {job : Job}
    (started : d.start id begin = some (job, d')) :
    d.working? id = none ∧ NewWork d d' id (some (job, begin job.message)) [] [] := by
  obtain ⟨c, rest, since, found, rfl⟩ := start_cases started
  refine ⟨?_, working?_setWorker found _, rfl, rfl⟩
  rw [working?, found]
  rfl

theorem newWork_progress {job : Job} {before : W} (working : d.working? id = some (job, before))
    (work : W) : NewWork d (d.progress id work) id (some (job, work)) [] [] := by
  obtain ⟨c, mailbox, found⟩ := working?_eq_some.mp working
  simp only [progress, found]
  exact ⟨working?_setWorker found _, rfl, rfl⟩

theorem newWork_finish {job : Job} {work : W} (working : d.working? id = some (job, work))
    (now : Nat) (outcome : Outcome) :
    NewWork d (d.finish now id outcome) id none [(job, outcome)] [] := by
  obtain ⟨c, mailbox, found⟩ := working?_eq_some.mp working
  simp only [finish, found]
  exact ⟨working?_setWorker (w := ⟨c, mailbox, .idle now⟩) found, rfl, rfl⟩

theorem filterMap_lost (id : Nat) (jobs : List Job) :
    (jobs.map (Entry.lost id)).reverse.filterMap Entry.concluded? = [] ∧
      (jobs.map (Entry.lost id)).reverse.filterMap Entry.lost? = jobs.reverse := by
  rw [List.filterMap_reverse, List.filterMap_map, List.filterMap_reverse, List.filterMap_map]
  refine ⟨by simp [Entry.concluded?], congrArg List.reverse ?_⟩
  exact List.filterMap_some

theorem newWork_kill {job : Job} {work : W} (working : d.working? id = some (job, work)) :
    ∃ mailbox, NewWork d (d.kill id) id none [] (job :: mailbox).reverse := by
  obtain ⟨c, mailbox, found⟩ := working?_eq_some.mp working
  simp only [kill, found]
  refine ⟨mailbox, working?_setWorker (w := ⟨c, [], .killed⟩) found, ?_, ?_⟩
  · rw [concluded, List.filterMap_append, (filterMap_lost id (job :: mailbox)).1]
    rfl
  · rw [losses, List.filterMap_append, (filterMap_lost id (job :: mailbox)).2]
    rfl

theorem kill_of_not_working (free : d.working? id = none) : d.kill id = d := by
  rcases kill_cases d id with same | ⟨c, mailbox, job, work, found, _⟩
  · exact same
  · rw [working?, found] at free
    cases free

end Dispatcher

/-! ### Sessions -/

namespace Session

variable {route : Handler} {s : Session}

def start (memory : Memory) : Session := ⟨.start, memory, []⟩

def working? (s : Session) (id : Nat) : Option (Job × Work) := s.traffic.dispatcher.working? id

/-- Something happens that the store has no part in. -/
def happen (s : Session) (e : Event Work) : Session := { s with traffic := s.traffic.step e }

def step (route : Handler) (s : Session) : Move → Session
  | .call message => s.happen (.call message)
  | .send now ticket => s.happen (.send now ticket)
  | .discard ticket => s.happen (.discard ticket)
  | .start id => s.happen (.start id fun message => (route message).run)
  | .ask id chance =>
    match s.working? id with
    | some (job, .ask r next) =>
      let (a, memory) := chance.answer (Memory.perform chance.now) s.memory r
      ⟨s.traffic.step (.progress id (next a)), memory, ⟨job, r, a⟩ :: s.exchanges⟩
    | _ => s
  | .conclude now id =>
    match s.working? id with
    | some (job, p) =>
      match p.ending?.map (EventLoop.outcomeOf job.message) with
      | some (some outcome) => s.happen (.finish now id outcome)
      | some none => s.happen (.kill id)
      | none => s
    | none => s
  | .kill id => s.happen (.kill id)
  | .retire id => s.happen (.retire id)
  | .forgetState c => { s with memory := s.memory.forgetState c }
  | .forgetScratch c => { s with memory := s.memory.forgetScratch c }

def run (route : Handler) (memory : Memory) (moves : List Move) : Session :=
  moves.foldl (step route) (start memory)

theorem run_concat (route : Handler) (memory : Memory) (moves : List Move) (move : Move) :
    run route memory (moves ++ [move]) = (run route memory moves).step route move :=
  List.foldl_append

/-! ### A session is a traffic -/

theorem traffic_step (route : Handler) (s : Session) (move : Move) :
    (s.step route move).traffic = s.traffic ∨
      ∃ e, (s.step route move).traffic = s.traffic.step e := by
  cases move with
  | call message => exact .inr ⟨.call message, rfl⟩
  | send now ticket => exact .inr ⟨.send now ticket, rfl⟩
  | discard ticket => exact .inr ⟨.discard ticket, rfl⟩
  | start id => exact .inr ⟨.start id fun message => (route message).run, rfl⟩
  | ask id chance =>
      simp only [step]
      split
      · rename_i r next _
        exact .inr ⟨.progress id (next (chance.answer (Memory.perform chance.now) s.memory r).1), rfl⟩
      · exact .inl rfl
  | conclude now id =>
      simp only [step]
      split
      · split
        · rename_i outcome _
          exact .inr ⟨.finish now id outcome, rfl⟩
        · exact .inr ⟨.kill id, rfl⟩
        · exact .inl rfl
      · exact .inl rfl
  | kill id => exact .inr ⟨.kill id, rfl⟩
  | retire id => exact .inr ⟨.retire id, rfl⟩
  | forgetState | forgetScratch => exact .inl rfl

/-- What a session does to its dispatcher, a traffic does. -/
theorem traffic_run (route : Handler) (memory : Memory) (moves : List Move) :
    ∃ events, (run route memory moves).traffic = Traffic.run events := by
  induction moves using List.reverseRecOn with
  | nil => exact ⟨[], rfl⟩
  | append_singleton moves move ih =>
      obtain ⟨events, same⟩ := ih
      rw [run_concat]
      rcases traffic_step route (run route memory moves) move with stays | ⟨e, goes⟩
      · exact ⟨events, stays.trans same⟩
      · refine ⟨events ++ [e], ?_⟩
        rw [goes, same, Traffic.run_concat]

theorem consistent_run (route : Handler) (memory : Memory) (moves : List Move) :
    (run route memory moves).traffic.dispatcher.Consistent := by
  obtain ⟨events, same⟩ := traffic_run route memory moves
  rw [same]
  exact (Traffic.sound_run events).consistent

/-! ### What a move comes to -/

/-- What is going on in a session, apart from who waits where: what every worker is at work on, the
store, the exchanges, and which messages were handled or lost; all lists the latest first. -/
structure Affairs where
  working : Nat → Option (Job × Work)
  memory : Memory
  exchanges : List Exchange
  concluded : List (Job × Outcome)
  losses : List Job

def affairs (s : Session) : Affairs :=
  ⟨s.working?, s.memory, s.exchanges, s.traffic.dispatcher.concluded, s.traffic.dispatcher.losses⟩

namespace Affairs

def assign (a : Affairs) (id : Nat) (work : Option (Job × Work)) : Affairs :=
  { a with working := Function.update a.working id work }

/-- Worker `id` has made a request for a message, and goes on with the answer. -/
def ask (a : Affairs) (id : Nat) (job : Job) (r : Request) (next : r.Answer → Work)
    (chance : Chance) : Affairs :=
  let answered := chance.answer (Memory.perform chance.now) a.memory r
  { a.assign id (some (job, next answered.1)) with
    memory := answered.2, exchanges := ⟨job, r, answered.1⟩ :: a.exchanges }

def finish (a : Affairs) (id : Nat) (job : Job) (outcome : Outcome) : Affairs :=
  { a.assign id none with concluded := (job, outcome) :: a.concluded }

theorem working_assign (a : Affairs) (id : Nat) (work : Option (Job × Work)) (i : Nat) :
    (a.assign id work).working i = if i = id then work else a.working i :=
  Function.update_apply _ _ _ _

theorem working_ask (a : Affairs) (id : Nat) (job : Job) (r : Request) (next : r.Answer → Work)
    (chance : Chance) (i : Nat) : (a.ask id job r next chance).working i =
      if i = id then some (job, next (chance.answer (Memory.perform chance.now) a.memory r).1)
      else a.working i := a.working_assign ..

/-- Whoever is still at work after a worker was set free is another one. -/
theorem working_of_free {a : Affairs} {id i : Nat} {work : Job × Work}
    (working : (a.assign id none).working i = some work) : a.working i = some work ∧ i ≠ id := by
  rw [a.working_assign] at working
  split at working
  · cases working
  · rename_i other
    exact ⟨working, other⟩

theorem working_assign_self (a : Affairs) (id : Nat) (work : Option (Job × Work)) :
    (a.assign id work).working id = work := Function.update_self ..

end Affairs

/-- At first nobody is at work and nothing has happened. -/
theorem affairs_start (memory : Memory) :
    (start memory).affairs = ⟨fun _ => none, memory, [], [], []⟩ := rfl

/-- Two workers are never at work for one conversation. -/
def Affairs.Unique (a : Affairs) : Prop :=
  ∀ i j job job' p p', a.working i = some (job, p) → a.working j = some (job', p') →
    job.message.conversation = job'.message.conversation → i = j

theorem unique_run (route : Handler) (memory : Memory) (moves : List Move) :
    (run route memory moves).affairs.Unique := by
  have h := consistent_run route memory moves
  have named : ∀ {i job p}, (run route memory moves).working? i = some (job, p) →
      (run route memory moves).traffic.dispatcher.registry.get? job.message.conversation =
        some i := by
    intro i job p working
    obtain ⟨c, mailbox, found⟩ := Dispatcher.working?_eq_some.mp working
    rw [h.own found job List.mem_cons_self]
    exact h.registered_of_open found rfl
  intro i j job job' p p' one other same
  have registered := named one
  rw [same, named other] at registered
  cases registered
  rfl

/-- What a move comes to. -/
inductive Effect (route : Handler) (a : Affairs) : Move → Affairs → Prop where
  | none (move : Move) : Effect route a move a
  | start {id : Nat} (job : Job) (free : a.working id = .none) :
      Effect route a (.start id) (a.assign id (some (job, (route job.message).run)))
  | ask {id : Nat} {job : Job} {r : Request} {next : r.Answer → Work} (chance : Chance)
      (working : a.working id = some (job, .ask r next)) :
      Effect route a (.ask id chance) (a.ask id job r next chance)
  | finish {now id : Nat} {job : Job} {p : Work} {ending : Ending Outcome} {outcome : Outcome}
      (working : a.working id = some (job, p)) (ended : p.ending? = some ending)
      (outcome_eq : EventLoop.outcomeOf job.message ending = some outcome) :
      Effect route a (.conclude now id) (a.finish id job outcome)
  | kill (move : Move) {id : Nat} {job : Job} {p : Work} (mailbox : List Job)
      (working : a.working id = some (job, p)) :
      Effect route a move
        { a.assign id .none with losses := (job :: mailbox).reverse ++ a.losses }
  | forgetState (c : Conversation) :
      Effect route a (.forgetState c) { a with memory := a.memory.forgetState c }
  | forgetScratch (c : Conversation) :
      Effect route a (.forgetScratch c) { a with memory := a.memory.forgetScratch c }

open Dispatcher in
theorem affairs_of_sameWork {d : Dispatcher Work} (same : SameWork s.traffic.dispatcher d)
    (callers : List Caller) :
    ({ s with traffic := ⟨d, callers⟩ } : Session).affairs = s.affairs := by
  simp only [affairs, same.concluded, same.losses]
  rw [show ({ s with traffic := ⟨d, callers⟩ } : Session).working? = s.working? from same.working]

open Dispatcher in
theorem affairs_of_newWork {d : Dispatcher Work} {id : Nat} {work : Option (Job × Work)}
    {concluded : List (Job × Outcome)} {losses : List Job}
    (new : NewWork s.traffic.dispatcher d id work concluded losses) (callers : List Caller)
    (memory : Memory) (exchanges : List Exchange) :
    (⟨⟨d, callers⟩, memory, exchanges⟩ : Session).affairs =
      ⟨Function.update s.working? id work, memory, exchanges,
        concluded ++ s.affairs.concluded, losses ++ s.affairs.losses⟩ := by
  simp only [affairs, new.concluded, new.losses]
  rw [show (⟨⟨d, callers⟩, memory, exchanges⟩ : Session).working? = _ from new.working]
  rfl

theorem effect_kill (move : Move) (id : Nat) :
    Effect route s.affairs move (s.happen (.kill id)).affairs := by
  cases working : s.working? id with
  | none =>
      rw [show s.happen (.kill id) = s by
        simp only [happen, Traffic.step, Dispatcher.kill_of_not_working working]]
      exact .none move
  | some w =>
      obtain ⟨mailbox, new⟩ := Dispatcher.newWork_kill (d := s.traffic.dispatcher) working
      rw [show (s.happen (.kill id)).affairs = _ from
        affairs_of_newWork new s.traffic.callers s.memory s.exchanges]
      exact .kill move mailbox working

/-- Every move of a session comes to one of these. -/
theorem effect_step (route : Handler) (s : Session) (move : Move) :
    Effect route s.affairs move (s.step route move).affairs := by
  cases move with
  | call message => exact .none _
  | send now ticket =>
      simp only [step, happen, Traffic.step]
      rcases Traffic.send_cases s.traffic now ticket with same | ⟨m, d, _, placed, after⟩ |
        ⟨m, id, _, _, after⟩
      · rw [same]
        exact .none _
      · rw [after, affairs_of_sameWork (Dispatcher.sameWork_place placed)]
        exact .none _
      · rw [after, affairs_of_sameWork (.refl _)]
        exact .none _
  | discard ticket =>
      simp only [step, happen, Traffic.step]
      rcases Traffic.discard_cases s.traffic ticket with same | ⟨m, id, _, after⟩
      · rw [same]
        exact .none _
      · rw [after, affairs_of_sameWork (Dispatcher.sameWork_discard _ _ _)]
        exact .none _
  | start id =>
      simp only [step, happen, Traffic.step]
      split
      · rename_i job d started
        obtain ⟨free, new⟩ := Dispatcher.newWork_start started
        rw [show ({ s with traffic := { s.traffic with dispatcher := d } } : Session).affairs = _ from
          affairs_of_newWork new s.traffic.callers s.memory s.exchanges]
        exact .start job free
      · exact .none _
  | ask id chance =>
      simp only [step]
      split
      · rename_i job r next working
        have new := Dispatcher.newWork_progress (d := s.traffic.dispatcher) working
          (next (chance.answer (Memory.perform chance.now) s.memory r).1)
        have affairs := affairs_of_newWork new s.traffic.callers
          (chance.answer (Memory.perform chance.now) s.memory r).2
          (⟨job, r, (chance.answer (Memory.perform chance.now) s.memory r).1⟩ :: s.exchanges)
        simp only [Traffic.step]
        rw [affairs]
        exact .ask chance working
      · exact .none _
  | conclude now id =>
      simp only [step]
      split
      · rename_i job p working
        split
        · rename_i outcome ended
          obtain ⟨ending, ending?, outcome_eq⟩ := Option.map_eq_some_iff.mp ended
          have new := Dispatcher.newWork_finish (d := s.traffic.dispatcher) working now outcome
          rw [show (s.happen (.finish now id outcome)).affairs = _ from
            affairs_of_newWork new s.traffic.callers s.memory s.exchanges]
          exact .finish working ending? outcome_eq
        · exact effect_kill _ id
        · exact .none _
      · exact .none _
  | kill id => exact effect_kill _ id
  | retire id =>
      rw [show (s.step route (.retire id)).affairs = _ from
        affairs_of_sameWork (Dispatcher.sameWork_retire s.traffic.dispatcher id) s.traffic.callers]
      exact .none _
  | forgetState c => exact .forgetState c
  | forgetScratch c => exact .forgetScratch c

end Session

end Registrar
