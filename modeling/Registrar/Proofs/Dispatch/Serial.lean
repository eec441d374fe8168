import Registrar.Proofs.Dispatch.Delivery
import Registrar.Proofs.Handler.Confined

/-!
Many workers at once do what one would do.

If every handler is confined to the conversation of its message, then of all that happens in a
session only what its own messages do matters to a conversation. `serve` handles messages one after
another with nobody else about; a session agrees with it, conversation by conversation.

The invariant is `Serial`. While nobody is at work for the conversation, its record is the one that
`serve` leaves; while somebody is, what remains of the program makes of the record as it is now what
the whole program makes of the record as `serve` left it. That this survives a request rests on
`Program.Confined.step`; that it survives the requests of others, on `Chance.record_answer_other`
and on there being only one worker for a conversation.

* `serializable`: outcomes and record are those of handling the messages alone, in the order in
  which they were put into mailboxes.
-/

namespace Registrar

/-- Handles messages one after another with nobody else at work. For each it tells how that ends; there
is no outcome if the worker does not survive the message. -/
def serve {σ : Type} (route : Handler) (answer : σ → (r : Request) → r.Answer × σ) :
    List Message → σ → List (Option Outcome) × σ
  | [], s => ([], s)
  | message :: rest, s =>
    let (ending, s) := (route message).run.run answer s
    let (outcomes, s) := serve route answer rest s
    (EventLoop.outcomeOf message ending :: outcomes, s)

section Serve

variable {σ : Type} {route : Handler}

theorem serve_concat (answer : σ → (r : Request) → r.Answer × σ) (messages : List Message)
    (message : Message) (s : σ) :
    serve route answer (messages ++ [message]) s =
      ((serve route answer messages s).1 ++
          [EventLoop.outcomeOf message
            ((route message).run.run answer (serve route answer messages s).2).1],
        ((route message).run.run answer (serve route answer messages s).2).2) := by
  induction messages generalizing s with
  | nil => rfl
  | cons first rest ih =>
      simp only [List.cons_append, serve]
      rw [ih]

/-- Handling the messages of one conversation depends on its record only. -/
theorem serve_record {c : Conversation} {chance chance' : Chance} (faultless : chance.Faultless)
    (faultless' : chance'.Faultless)
    (confined : ∀ message, Handling.Confined message.conversation (route message))
    (messages : List Message) (own : ∀ message ∈ messages, message.conversation = c) (m : Memory) :
    (serve route (chance.answer (Memory.perform chance.now)) messages m).1 =
        (serve route (chance'.answer Record.perform) messages (m.record c)).1 ∧
      (serve route (chance.answer (Memory.perform chance.now)) messages m).2.record c =
        (serve route (chance'.answer Record.perform) messages (m.record c)).2 := by
  induction messages generalizing m with
  | nil => exact ⟨rfl, rfl⟩
  | cons message rest ih =>
      have here : Program.Confined c (route message).run :=
        own message List.mem_cons_self ▸ confined message
      obtain ⟨ending, record⟩ := here.run_eq faultless faultless' m
      obtain ⟨outcomes, record'⟩ := ih (fun m mem => own m (List.mem_cons_of_mem _ mem))
        ((route message).run.run (chance.answer (Memory.perform chance.now)) m).2
      rw [record] at outcomes record'
      simp only [serve]
      exact ⟨by rw [ending, outcomes], record'⟩

end Serve

/-- The store does not refuse the request, and nothing of the conversation is evicted. -/
def Move.Undisturbed (c : Conversation) : Move → Prop
  | .ask _ chance => chance.Faultless
  | .forgetState c' => c' ≠ c
  | .forgetScratch c' => c' ≠ c
  | _ => True

/-- A program that has ended ends in this way, and leaves everything as it is. -/
theorem Program.run_of_ending? {α σ : Type} {p : Program α} {ending : Ending α}
    (ended : p.ending? = some ending) (answer : σ → (r : Request) → r.Answer × σ) (s : σ) :
    p.run answer s = (ending, s) := by
  cases p with
  | ask r next => cases ended
  | done | panic | crash =>
      cases ended
      rfl

namespace Session

/-- The messages of a conversation that were handled and their outcomes, the earliest first. -/
def Affairs.outcomes (a : Affairs) (c : Conversation) : List (Job × Outcome) :=
  (a.concluded.filter (·.1.message.conversation = c)).reverse

variable {route : Handler} {chance : Chance} {c : Conversation} {r₀ : Record} {a a' : Affairs}

/-- What comes of handling the messages of a conversation that were handled, one after another. -/
def served (route : Handler) (chance : Chance) (c : Conversation) (r₀ : Record) (a : Affairs) :
    List (Option Outcome) × Record :=
  serve route (chance.answer Record.perform) ((a.outcomes c).map (·.1.message)) r₀

/-- For the conversation, the session is where handling its messages one after another leads to. -/
structure Serial (route : Handler) (chance : Chance) (c : Conversation) (r₀ : Record)
    (a : Affairs) : Prop where
  confined {id : Nat} {job : Job} {p : Work} :
    a.working id = some (job, p) → p.Confined job.message.conversation
  outcomes : (served route chance c r₀ a).1 = (a.outcomes c).map (some ·.2)
  /-- Between two messages. -/
  resting : (∀ id job p, a.working id = some (job, p) → job.message.conversation ≠ c) →
    a.memory.record c = (served route chance c r₀ a).2
  /-- In the middle of a message. -/
  underway {id : Nat} {job : Job} {p : Work} : a.working id = some (job, p) →
    job.message.conversation = c →
      p.run (chance.answer Record.perform) (a.memory.record c) =
        (route job.message).run.run (chance.answer Record.perform) (served route chance c r₀ a).2

/-- What others do to the store, and what is done with a worker of others, does not matter. -/
theorem Serial.elsewhere (h : Serial route chance c r₀ a) {id : Nat} {job : Job} {p : Work}
    (working : a.working id = some (job, p)) (other : job.message.conversation ≠ c)
    {after : Option (Job × Work)} (memory : Memory) (exchanges : List Exchange)
    {concluded : List (Job × Outcome)} (losses : List Job)
    (now : ∀ job' p', after = some (job', p') → job' = job ∧
      p'.Confined job.message.conversation)
    (record : memory.record c = a.memory.record c)
    (outcomes : (concluded.filter (·.1.message.conversation = c)).reverse = a.outcomes c) :
    Serial route chance c r₀
      ⟨(a.assign id after).working, memory, exchanges, concluded, losses⟩ := by
  have same : served route chance c r₀
      ⟨(a.assign id after).working, memory, exchanges, concluded, losses⟩ =
        served route chance c r₀ a := by
    simp only [served, Affairs.outcomes]
    rw [outcomes]
    rfl
  refine ⟨fun {i job' p'} working' => ?_, ?_, fun nobody => ?_,
    fun {i job' p'} working' this_one => ?_⟩
  · rw [a.working_assign] at working'
    split at working'
    · obtain ⟨rfl, confined⟩ := now job' p' working'
      exact confined
    · exact h.confined working'
  · rw [same, h.outcomes]
    exact congrArg _ outcomes.symm
  · rw [same]
    refine record.trans (h.resting fun i job' p' working' => ?_)
    by_cases at_hand : i = id
    · rw [at_hand, working] at working'
      cases working'
      exact other
    · refine nobody i job' p' ?_
      rw [a.working_assign, if_neg at_hand]
      exact working'
  · rw [same, record]
    rw [a.working_assign] at working'
    split at working'
    · obtain ⟨rfl, _⟩ := now job' p' working'
      exact absurd this_one other
    · exact h.underway working' this_one

theorem Serial.start (h : Serial route chance c r₀ a) {id : Nat} {job : Job}
    (confined : ∀ message, Handling.Confined message.conversation (route message))
    (free : a.working id = none)
    (unique : (a.assign id (some (job, (route job.message).run))).Unique) :
    Serial route chance c r₀ (a.assign id (some (job, (route job.message).run))) := by
  have busy_other : ∀ {i job' p'}, a.working i = some (job', p') → i ≠ id := by
    rintro i job' p' working rfl
    rw [free] at working
    cases working
  have still : ∀ {i job' p'}, a.working i = some (job', p') →
      (a.assign id (some (job, (route job.message).run))).working i = some (job', p') := by
    intro i job' p' working
    rw [a.working_assign, if_neg (busy_other working)]
    exact working
  refine ⟨fun {i job' p'} working => ?_, h.outcomes, fun nobody => ?_,
    fun {i job' p'} working this_one => ?_⟩
  · rw [a.working_assign] at working
    split at working
    · cases working
      exact confined job.message
    · exact h.confined working
  · exact h.resting fun i job' p' working => nobody i job' p' (still working)
  · rw [a.working_assign] at working
    split at working
    · cases working
      have rest : a.memory.record c = (served route chance c r₀ a).2 :=
        h.resting fun j job'' p'' working' same => busy_other working'
          (unique j id job'' job p'' _ (still working') (a.working_assign_self ..)
            (same.trans this_one.symm))
      exact congrArg ((route job.message).run.run (chance.answer Record.perform)) rest
    · exact h.underway working this_one

theorem Serial.ask (h : Serial route chance c r₀ a) {id : Nat} {job : Job} {r : Request}
    {next : r.Answer → Work} {chance' : Chance} (faultless : chance.Faultless)
    (faultless' : chance'.Faultless) (unique : a.Unique)
    (working : a.working id = some (job, .ask r next)) :
    Serial route chance c r₀ (a.ask id job r next chance') := by
  have confined := h.confined working
  by_cases own : job.message.conversation = c
  · refine ⟨fun {i job' p'} working' => ?_, h.outcomes, fun nobody => ?_,
      fun {i job' p'} working' this_one => ?_⟩
    · rw [a.working_ask] at working'
      split at working'
      · cases working'
        exact confined.next _
      · exact h.confined working'
    · exact absurd own (nobody id job _ (a.working_assign_self ..))
    · rw [a.working_ask] at working'
      split at working'
      · cases working'
        rw [own] at confined
        exact (confined.step faultless' faultless a.memory).trans (h.underway working own)
      · rename_i other
        exact absurd (unique i id job' job _ _ working' working (this_one.trans own.symm)) other
  · refine h.elsewhere working own _ _ _ (fun job' p' same => ?_)
      (chance'.record_answer_other a.memory confined.own (Ne.symm own)) rfl
    cases same
    exact ⟨rfl, confined.next _⟩

theorem Serial.finish (h : Serial route chance c r₀ a) {id : Nat} {job : Job} {p : Work}
    {ending : Ending Outcome} {outcome : Outcome} (unique : a.Unique)
    (working : a.working id = some (job, p)) (ended : p.ending? = some ending)
    (outcome_eq : EventLoop.outcomeOf job.message ending = some outcome) :
    Serial route chance c r₀ (a.finish id job outcome) := by
  by_cases own : job.message.conversation = c
  · have outcomes : (a.finish id job outcome).outcomes c = a.outcomes c ++ [(job, outcome)] := by
      simp [Affairs.outcomes, Affairs.finish, own]
    have whole := h.underway working own
    rw [Program.run_of_ending? ended] at whole
    have served_eq : served route chance c r₀ (a.finish id job outcome) =
        ((served route chance c r₀ a).1 ++ [some outcome], a.memory.record c) := by
      simp only [served, outcomes, List.map_append, List.map_cons, List.map_nil]
      rw [serve_concat]
      simp only [served] at whole
      rw [← whole, outcome_eq]
    refine ⟨fun working' => h.confined (Affairs.working_of_free working').1, ?_, fun _ => ?_,
      fun {i job' p'} working' this_one => ?_⟩
    · rw [served_eq, outcomes, h.outcomes, List.map_append]
      rfl
    · rw [served_eq]
      rfl
    · obtain ⟨before, other⟩ := Affairs.working_of_free working'
      exact absurd (unique i id job' job _ _ before working (this_one.trans own.symm)) other
  · refine h.elsewhere working own _ _ _ (fun _ _ same => by cases same) rfl ?_
    simp [Affairs.outcomes, own]

/-- What is evicted of others does not matter. -/
theorem Serial.evict (h : Serial route chance c r₀ a) {memory : Memory}
    (same : memory.record c = a.memory.record c) :
    Serial route chance c r₀ { a with memory := memory } where
  confined := h.confined
  outcomes := h.outcomes
  resting nobody := same.trans (h.resting nobody)
  underway {id job p} working own := by
    rw [show ({ a with memory := memory } : Affairs).memory.record c = _ from same]
    exact h.underway working own

/-- Every move keeps the session where handling the messages one after another leads to. -/
theorem Serial.effect (h : Serial route chance c r₀ a) {move : Move}
    (effect : Effect route a move a')
    (confined : ∀ message, Handling.Confined message.conversation (route message))
    (faultless : chance.Faultless) (undisturbed : move.Undisturbed c) (unique : a.Unique)
    (unique' : a'.Unique) (unharmed : ∀ job ∈ a'.losses, job.message.conversation ≠ c) :
    Serial route chance c r₀ a' := by
  cases effect with
  | none => exact h
  | start job free => exact h.start confined free unique'
  | ask chance' working => exact h.ask faultless undisturbed unique working
  | finish working ended outcome_eq => exact h.finish unique working ended outcome_eq
  | @kill _ id job p mailbox working =>
      have other : job.message.conversation ≠ c := unharmed job (by simp)
      exact h.elsewhere working other _ _ _ (fun _ _ same => by cases same) rfl rfl
  | forgetState c' =>
      refine h.evict ?_
      rw [Memory.record_forgetState, if_neg (Ne.symm undisturbed)]
  | forgetScratch c' =>
      refine h.evict ?_
      rw [Memory.record_forgetScratch, if_neg (Ne.symm undisturbed)]

/-- What was lost stays lost. -/
theorem Effect.losses_subset {move : Move} (effect : Effect route a move a') :
    a.losses ⊆ a'.losses := by
  cases effect with
  | kill mailbox working => exact List.subset_append_right _ _
  | _ => exact List.Subset.refl _

theorem serial_run (chance : Chance) (memory : Memory) {moves : List Move}
    (confined : ∀ message, Handling.Confined message.conversation (route message))
    (faultless : chance.Faultless) (undisturbed : ∀ move ∈ moves, move.Undisturbed c)
    (unharmed : ∀ job ∈ (run route memory moves).affairs.losses, job.message.conversation ≠ c) :
    Serial route chance c (memory.record c) (run route memory moves).affairs := by
  induction moves using List.reverseRecOn with
  | nil =>
      rw [run, List.foldl_nil, affairs_start]
      exact ⟨nofun, rfl, fun _ => rfl, nofun⟩
  | append_singleton moves move ih =>
      have unique' := unique_run route memory (moves ++ [move])
      rw [run_concat] at unharmed unique' ⊢
      have effect := effect_step route (run route memory moves) move
      have before := ih (fun move mem => undisturbed move (List.mem_append_left _ mem))
        fun job mem => unharmed job (effect.losses_subset mem)
      exact before.effect effect confined faultless
        (undisturbed move (List.mem_append_right _ List.mem_cons_self))
        (unique_run route memory moves) unique' unharmed

/-! ### Sessions that have come to rest -/

/-- The messages of a conversation that were handled and their outcomes, the earliest first. -/
def outcomes (s : Session) (c : Conversation) : List (Job × Outcome) := s.affairs.outcomes c

theorem map_fst_outcomes (s : Session) (c : Conversation) :
    (s.outcomes c).map Prod.fst = s.traffic.dispatcher.handled c := by
  simp only [outcomes, affairs, Affairs.outcomes, Dispatcher.concluded, Dispatcher.handled,
    Entry.told, List.filterMap_reverse, List.filter_reverse, List.map_reverse]
  refine congrArg List.reverse ?_
  induction s.traffic.dispatcher.journal with
  | nil => rfl
  | cons e journal ih =>
      cases e with
      | accepted | lost =>
          rw [List.filterMap_cons_none rfl, List.filterMap_cons_none rfl]
          exact ih
      | handled id job outcome =>
          by_cases own : job.message.conversation = c <;>
            simpa [Entry.concluded?, Entry.handled?, own] using ih

theorem not_lost {route : Handler} {memory : Memory} {moves : List Move}
    (unharmed : (run route memory moves).traffic.dispatcher.Unharmed c) :
    ∀ job ∈ (run route memory moves).affairs.losses, job.message.conversation ≠ c := by
  obtain ⟨events, same⟩ := traffic_run route memory moves
  intro job mem
  obtain ⟨e, mem, lost⟩ := List.mem_filterMap.mp mem
  cases e with
  | accepted | handled => cases lost
  | lost id job' =>
      cases lost
      rw [same] at mem unharmed
      exact Traffic.not_lost_of_unharmed unharmed mem

/-- What was accepted was handled, once nothing is left to do. -/
theorem accepted_eq_handled {route : Handler} {memory : Memory} {moves : List Move}
    (unharmed : (run route memory moves).traffic.dispatcher.Unharmed c)
    (finished : (run route memory moves).traffic.dispatcher.pending c = []) :
    (run route memory moves).traffic.dispatcher.accepted c =
      (run route memory moves).traffic.dispatcher.handled c := by
  obtain ⟨events, same⟩ := traffic_run route memory moves
  rw [same] at unharmed finished ⊢
  rw [Traffic.balanced_run events c, Traffic.settled_eq_handled unharmed, finished,
    List.append_nil]

theorem nobody_working {route : Handler} {memory : Memory} {moves : List Move}
    (finished : (run route memory moves).traffic.dispatcher.pending c = []) {id : Nat} {job : Job}
    {p : Work} (working : (run route memory moves).affairs.working id = some (job, p)) :
    job.message.conversation ≠ c := by
  have h := consistent_run route memory moves
  obtain ⟨c', mailbox, found⟩ := Dispatcher.working?_eq_some.mp working
  have own : job.message.conversation = c' := h.own found job List.mem_cons_self
  rintro rfl
  have registered := h.registered_of_open found rfl
  rw [← own] at registered
  rw [Dispatcher.pending_eq_of_registered registered found] at finished
  cases finished

end Session

/-- Let every registered handler be confined to the conversation of its message. Then a session in
which no worker of a conversation is killed and the store neither refuses a call nor evicts anything
of it, and in which nothing of it is left to do, has done to the conversation what handling its
messages alone does, one after another in the order in which they were put into mailboxes: the
outcomes and the record are the same, whatever the rest of the store holds and whatever else the
surroundings answer. -/
theorem serializable (routes : Routes) (confined : routes.Confined) (memory : Memory)
    (moves : List Move) (c : Conversation) (undisturbed : ∀ move ∈ moves, move.Undisturbed c)
    (unharmed : (Session.run routes.handle memory moves).traffic.dispatcher.Unharmed c)
    (finished : (Session.run routes.handle memory moves).traffic.dispatcher.pending c = [])
    (alone : Chance) (faultless : alone.Faultless) (memory' : Memory)
    (same : memory'.record c = memory.record c) :
    let s := Session.run routes.handle memory moves
    let jobs := s.traffic.dispatcher.accepted c
    let sequential := serve routes.handle (alone.answer (Memory.perform alone.now))
      (jobs.map Job.message) memory'
    s.memory.record c = sequential.2.record c ∧
      (s.outcomes c).map Prod.fst = jobs ∧ (s.outcomes c).map (some ·.2) = sequential.1 := by
  intro s jobs sequential
  have handled : (s.outcomes c).map Prod.fst = jobs := by
    rw [Session.map_fst_outcomes]
    exact (Session.accepted_eq_handled unharmed finished).symm
  have messages : (s.affairs.outcomes c).map (·.1.message) = jobs.map Job.message := by
    rw [← handled, List.map_map]
    rfl
  have own : ∀ message ∈ jobs.map Job.message, message.conversation = c := by
    intro message mem
    obtain ⟨job, mem', rfl⟩ := List.mem_map.mp mem
    exact (Dispatcher.mem_accepted.mp mem').2
  have serial := Session.serial_run alone memory confined.handle faultless undisturbed
    (Session.not_lost unharmed)
  obtain ⟨outcomes, record⟩ := serve_record faultless faultless confined.handle
    (jobs.map Job.message) own memory'
  have final := serial.resting fun id job p working => Session.nobody_working finished working
  have agreed := serial.outcomes
  simp only [Session.served] at final agreed
  rw [messages, ← same] at final agreed
  exact ⟨final.trans record.symm, handled, agreed.symm.trans outcomes.symm⟩

/-- Two messages of a conversation are appended to a list, with a pause between reading and writing
it, while the worker of another conversation does the same with its own: neither text is missing. -/
theorem serializable_append :
    let message (chat : Int64) (text : String) : Message :=
      ⟨text, ⟨7, none, none, none⟩, ⟨chat, "private"⟩, text, .epoch⟩
    let calm : Chance := ⟨0, none, .epoch, .ok "", .ok (), .error (.database ""), .ok ()⟩
    let routes : Routes := ⟨.empty, StateRoutes.empty.register .default (script [.append "texts"])⟩
    let c : Conversation := ⟨1, 7⟩
    let moves : List Move :=
      [.call (message 1 "a"), .call (message 1 "b"), .call (message 2 "x"), .send 0 0, .send 0 1,
        .send 0 2, .start 0, .ask 0 calm, .ask 0 calm, .start 1, .ask 1 calm, .ask 1 calm,
        .ask 0 calm, .ask 1 calm, .ask 0 calm, .ask 1 calm, .conclude 1 0, .start 0, .ask 0 calm,
        .ask 0 calm, .ask 0 calm, .conclude 2 1, .ask 0 calm, .conclude 3 0]
    (Session.run routes.handle .empty moves).traffic.dispatcher.accepted c =
        [⟨0, message 1 "a"⟩, ⟨1, message 1 "b"⟩] ∧
      (Session.run routes.handle .empty moves).memory.record c =
        (serve routes.handle (calm.answer (Memory.perform calm.now))
          [message 1 "a", message 1 "b"] .empty).2.record c ∧
      ((Session.run routes.handle .empty moves).memory.record c).text? "texts" = some "[\"a\",\"b\"]" := by
  intro message calm routes c moves
  have faultless : calm.Faultless := ⟨rfl⟩
  have confined : routes.Confined := by
    constructor
    · intro name handler found
      cases found
    · intro state handler found m
      simp only [routes, StateRoutes.register, StateRoutes.empty, Table.get?_insert,
        Table.get?_empty] at found
      split at found
      · cases found
        exact Handling.confined_script _ m
      · cases found
  have undisturbed : ∀ move ∈ moves, move.Undisturbed c := by
    simp [moves, Move.Undisturbed, faultless]
  have accepted : (Session.run routes.handle .empty moves).traffic.dispatcher.accepted c =
      [⟨0, message 1 "a"⟩, ⟨1, message 1 "b"⟩] := by
    decide +kernel
  have unharmed : (Session.run routes.handle .empty moves).traffic.dispatcher.Unharmed c := by
    decide +kernel
  have finished : (Session.run routes.handle .empty moves).traffic.dispatcher.pending c = [] := by
    decide +kernel
  have texts : ((Session.run routes.handle .empty moves).memory.record c).text? "texts" =
      some "[\"a\",\"b\"]" := by
    decide +kernel
  have record := (serializable routes confined .empty moves c undisturbed unharmed finished calm
    faultless .empty rfl).1
  rw [accepted, List.map_cons, List.map_cons, List.map_nil] at record
  exact ⟨accepted, record, texts⟩

end Registrar
