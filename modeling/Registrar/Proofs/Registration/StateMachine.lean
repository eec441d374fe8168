import Registrar.Proofs.Dispatch.Attendance
import Registrar.Proofs.Registration.Course

/-!
The states of a registration and the moves between them.

Which moves there are is told by `Edge`; what has to have happened before one of them, and in which
order, is told by `Due`. A message moves its conversation along an edge by a call on the store that
is made exactly when it is due, and only if the call is accepted.

* `known_run`: whatever fails and whatever is evicted, no state occurs but the four of a
  registration, and each of them has a handler.
* `Lawful.moved`, `Moved.edge`: what the course of a message makes of the state.
-/

namespace Registrar

def StoreCall.newState? : StoreCall → Option State
  | .set _ state => some state
  | .delete _ => some .default
  | _ => none

/-- The state that an exchange brought about: a call that changes it was accepted. -/
def Exchange.newState? : Exchange → Option State
  | ⟨_, .store call, .ok _⟩ => call.newState?
  | _ => none

theorem Exchange.accepted_of_newState? {e : Exchange} {state : State}
    (change : e.newState? = some state) :
    ∃ call v, e = ⟨e.job, .store call, .ok v⟩ ∧ call.newState? = some state := by
  obtain ⟨job, request, answer⟩ := e
  cases request with
  | store call =>
      cases answer with
      | ok v => exact ⟨call, v, rfl, change⟩
      | error fault => cases change
  | _ => cases change

def Exchange.writtenField? : Exchange → Option String
  | ⟨_, .store (.setData _ field _), .ok _⟩ => some field
  | _ => none

def Record.reads (r : Record) : State := r.state.getD .default

theorem Record.reads_carryOut (r : Record) (e : Exchange) :
    (e.carryOut r).reads = e.newState?.getD r.reads := by
  obtain ⟨job, request, answer⟩ := e
  cases request with
  | store call =>
      cases answer with
      | ok v => cases call <;> rfl
      | error fault => rfl
  | _ => rfl

namespace Registration

def states : List State := [.default, awaitingLogin, awaitingCode, registered]

/-- The moves between the states, by the command that the message is, if it is one. -/
inductive Edge : Option String → State → State → Prop
  | register (before : State) : Edge (some "register") before awaitingLogin
  | cancel (before : State) : Edge (some "cancel") before .default
  | codeSent : Edge none awaitingLogin awaitingCode
  | sessionGone : Edge none awaitingCode .default
  | expired : Edge none awaitingCode awaitingLogin
  | complete : Edge none awaitingCode registered
  | loginGone : Edge none registered .default

/-- What the course of a message makes of the state: the last change that was accepted counts, and it
was due when it was made. -/
inductive Moved (policy : Policy) (job : Job) (before : State) (course : List Exchange) :
    State → Prop
  | stays (kept : ∀ e ∈ course, e.newState? = none) : Moved policy job before course before
  | moves {later earlier : List Exchange} {call : StoreCall} {v : call.Result} {state : State}
      (split : course = later ++ ⟨job, .store call, .ok v⟩ :: earlier)
      (due : Due policy job earlier call) (changes : call.newState? = some state)
      (last : ∀ e ∈ later, e.newState? = none) : Moved policy job before course state

variable {policy : Policy} {job : Job} {course : List Exchange}

/-- A course in which every request was proper for the message. -/
def Lawful (policy : Policy) (job : Job) (course : List Exchange) : Prop :=
  ∀ later e earlier, course = later ++ e :: earlier → e.job = job ∧ Proper policy job earlier e.request

theorem Lawful.tail {e : Exchange} (lawful : Lawful policy job (e :: course)) :
    Lawful policy job course := fun later e' earlier split =>
  lawful (e :: later) e' earlier (by rw [split]; rfl)

theorem Proper.due_of_change {call : StoreCall} {state : State}
    (proper : Proper policy job course (.store call)) (changes : call.newState? = some state) :
    Due policy job course call := by
  cases call with
  | set | delete => exact proper.fitting
  | get | getData | setData | clearData => cases changes

theorem Moved.cons {before after : State} (moved : Moved policy job before course after)
    {e : Exchange} (same : e.newState? = none) : Moved policy job before (e :: course) after := by
  cases moved with
  | stays kept => exact .stays (List.forall_mem_cons.mpr ⟨same, kept⟩)
  | @moves later earlier call v _ split due changes last =>
      exact .moves (show e :: course = (e :: later) ++ ⟨job, .store call, .ok v⟩ :: earlier by rw [split]; rfl)
        due changes (List.forall_mem_cons.mpr ⟨same, last⟩)

theorem Moved.eq_of_kept {before after : State} (moved : Moved policy job before course after)
    (kept : ∀ e ∈ course, e.newState? = none) : after = before := by
  cases moved with
  | stays => rfl
  | @moves later earlier call v _ split _ changes =>
      have none : call.newState? = none :=
        kept ⟨job, .store call, .ok v⟩ (by rw [split]; exact List.mem_append_right _ List.mem_cons_self)
      cases none.symm.trans changes

theorem Lawful.moved (lawful : Lawful policy job course) (r : Record) :
    Moved policy job r.reads course (r.replay course).reads := by
  induction course with
  | nil => exact .stays (by simp)
  | cons e course ih =>
      rw [Record.replay_cons, Record.reads_carryOut]
      cases change : e.newState? with
      | none => exact (ih lawful.tail).cons change
      | some state =>
          obtain ⟨own, proper⟩ := lawful [] e course rfl
          obtain ⟨call, v, accepted, changes⟩ := Exchange.accepted_of_newState? change
          rw [accepted] at proper
          rw [own] at accepted
          have last : ∀ e ∈ ([] : List Exchange), e.newState? = none := by simp
          exact .moves (congrArg (· :: course) accepted) (proper.due_of_change changes) changes last

/-- A state that is read is the one that the message found. -/
theorem Lawful.read_eq (lawful : Lawful policy job course) {r : Record}
    (truthful : r.Truthful course) {state : State} (read : found job state ∈ course) :
    state = r.reads := by
  obtain ⟨later, earlier, split⟩ := List.append_of_mem read
  have first : earlier = [] := (lawful later _ earlier split).2.fitting
  subst first
  have answer := truthful later job (.get job.message.conversation) state [] split
  exact (Except.ok.inj answer).symm

/-- A change that is due goes along an edge from the state that was read, if one was. -/
theorem Due.edge {call : StoreCall} {before after : State} (due : Due policy job course call)
    (changes : call.newState? = some after)
    (read : ∀ state, found job state ∈ course → state = before) :
    Edge job.message.command before after := by
  cases due with
  | register history command =>
      cases changes
      exact command ▸ .register before
  | cancel history command =>
      cases changes
      exact command ▸ .cancel before
  | codeSent history text =>
      cases changes
      rw [text, ← read awaitingLogin (by simp [history])]
      exact .codeSent
  | sessionGone history text =>
      cases changes
      rw [text, ← read awaitingCode (by simp [history])]
      exact .sessionGone
  | expired history text =>
      cases changes
      rw [text, ← read awaitingCode (by simp [history])]
      exact .expired
  | complete history text =>
      cases changes
      rw [text, ← read awaitingCode (by simp [history])]
      exact .complete
  | loginGone history text =>
      cases changes
      rw [text, ← read registered (by simp [history])]
      exact .loginGone

theorem Moved.edge {before after : State} (moved : Moved policy job before course after)
    (read : ∀ state, found job state ∈ course → state = before) :
    after = before ∨ Edge job.message.command before after := by
  cases moved with
  | stays => exact .inl rfl
  | moves split due changes =>
      refine .inr (due.edge changes fun state mem => read state ?_)
      rw [split]
      exact List.mem_append_right _ (List.mem_cons_of_mem _ mem)

/-! ### The states that occur -/

def readState? : Exchange → Option State
  | ⟨_, .store (.get _), .ok state⟩ => some state
  | _ => none

/-- Every state that is stored or was read is one of the registration. -/
structure Known (story : Story) : Prop where
  stored : story.record.reads ∈ states
  read {e : Exchange} {state : State} : e ∈ story.past → readState? e = some state → state ∈ states

/-- The terms on which no other state occurs. -/
def stateTerms : Terms where
  invariant := Known
  allows _ _ _ := True
  fades known fades := by
    refine ⟨?_, known.read⟩
    rcases fades.state with same | gone
    · rw [Record.reads, same]
      exact known.stored
    · rw [Record.reads, gone]
      exact List.mem_cons_self

/-- The states that are due are those of the registration. -/
theorem Due.mem_states {call : StoreCall} {state : State} (due : Due policy job course call)
    (changes : call.newState? = some state) : state ∈ states := by
  cases due <;> cases changes <;> decide

/-- Nothing but what the record says is read from it. -/
theorem readState?_answer {chance : Chance} {record : Record} {r : Request} {state : State}
    (read : readState? ⟨job, r, (chance.answer Record.perform record r).1⟩ = some state) :
    state = record.reads := by
  cases r with
  | store call =>
      cases call with
      | get c =>
          simp only [Chance.answer] at read
          cases refused : chance.storeFault with
          | some fault =>
              rw [refused] at read
              cases read
          | none =>
              rw [refused] at read
              exact (Option.some.inj read).symm
      | _ => cases read
  | _ => cases read

theorem Known.ask {record : Record} {past : List Exchange} (known : Known ⟨record, past⟩)
    {r : Request} (proper : Proper policy job course r) (chance : Chance) :
    Known ⟨(chance.answer Record.perform record r).2,
      ⟨job, r, (chance.answer Record.perform record r).1⟩ :: past⟩ := by
  refine ⟨?_, fun {e state} mem read => ?_⟩
  · rw [← chance.carryOut_answer job, Record.reads_carryOut]
    cases change : Exchange.newState? _ with
    | none => exact known.stored
    | some state =>
        obtain ⟨call, v, accepted, changes⟩ := Exchange.accepted_of_newState? change
        have same : r = .store call := congrArg Exchange.request accepted
        subst same
        exact (proper.due_of_change changes).mem_states changes
  · rcases List.mem_cons.mp mem with rfl | mem
    · rw [readState?_answer read]
      exact known.stored
    · exact known.read mem read

theorem rules_own (course : List Exchange) (r : Request) (allowed : (rules policy job).allows course r)
    (call : StoreCall) (same : r = .store call) :
    call.conversation = job.message.conversation := Proper.own allowed call same

/-- Whatever is evicted and whatever fails, no other state occurs. -/
theorem known_run (policy : Policy) (quizUrl : Option String) (moves : List Move)
    (c : Conversation) :
    Known ((Session.run (routes policy quizUrl).handle .empty moves).affairs.story c) := by
  have orderly : Session.Orderly (fun _ => stateTerms)
      (Session.run (routes policy quizUrl).handle .empty moves).affairs := by
    refine Session.orderly_run .empty moves (fun job story _ => ?_) fun c => ⟨?_, fun mem => ?_⟩
    · exact (along_routes policy quizUrl job).safe rules_own (fun _ _ _ _ _ => True.intro)
        (fun _ _ _ _ chance proper known => Known.ask known proper chance) story
    · exact List.mem_cons_self
    · cases mem
  exact orderly.invariant c

/-- Every state of the registration has a handler. -/
theorem handler_of_mem_states {state : State} (mem : state ∈ states) :
    ∃ handler, (stateRoutes policy).handlers.get? state = some handler := by
  simp only [states, List.mem_cons, List.not_mem_nil, or_false] at mem
  rcases mem with rfl | rfl | rfl | rfl
  · exact ⟨answerByDefault, rfl⟩
  · exact ⟨takeLogin policy, rfl⟩
  · exact ⟨takeCode policy, rfl⟩
  · exact ⟨greetRegistered, rfl⟩

/-! ### The moves between states -/

theorem minds_routes (policy : Policy) (quizUrl : Option String) (message : Message) :
    ((routes policy quizUrl).handle message).run.Minds message.conversation :=
  (along_routes policy quizUrl ⟨0, message⟩).minds rules_own

/-- A state is changed next exactly when that is due. -/
theorem asks_change_iff {p : Work} (along : p.Along job (rules policy job) course)
    {call : StoreCall} {state : State} (changes : call.newState? = some state) :
    (∃ next, p = .ask (.store call) next) ↔ Due policy job course call := by
  constructor
  · rintro ⟨next, rfl⟩
    exact along.1.due_of_change changes
  · intro due
    cases p with
    | done | panic => exact absurd due (along call)
    | crash => cases along
    | ask r next =>
        have same := along.1.due call due
        subst same
        exact ⟨next, rfl⟩

/-- A request of one message leaves the records of other conversations alone. -/
theorem record_ask_other {route : Handler} {s : Session} (minding : s.affairs.Minding) {id : Nat}
    {job : Job} {p : Work} (working : s.working? id = some (job, p)) (chance : Chance)
    {c : Conversation} (other : c ≠ job.message.conversation) :
    (s.step route (.ask id chance)).memory.record c = s.memory.record c := by
  simp only [Session.step, working]
  cases p with
  | ask r next => exact chance.record_answer_other s.memory (minding id job _ working).1 other
  | _ => rfl

/-- What a message has done to the record of its conversation by its course. -/
structure Conforming (policy : Policy) (job : Job) (course : List Exchange) (before after : Record) :
    Prop where
  own (e : Exchange) : e ∈ course → e.job = job
  /-- What the store answered is what the record said at that point. -/
  truthful : before.Truthful course
  /-- The state is read as it was before. -/
  read (state : State) : found job state ∈ course → state = before.reads
  /-- The state changes only by a call that was due and was accepted. -/
  moved : Moved policy job before.reads course after.reads
  edge : after.reads = before.reads ∨ Edge job.message.command before.reads after.reads

end Registration

end Registrar
