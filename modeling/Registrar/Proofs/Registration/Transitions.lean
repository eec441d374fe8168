import Registrar.Proofs.Handler.Fate
import Registrar.Proofs.Registration.Reachability
import Registrar.Proofs.Registration.StateMachine

/-!
The state after a message, from the record before it, the message and what the handler meets with.

`nextState` is that function: it says for every command, and for every text in every state, which state
comes next. A handler is followed once from beginning to end (`leaves_routes`), and since every course
has a fate that gives its answers, the function tells what becomes of every message in a session.

* `leaves_routes`: a handler leaves the state that `nextState` tells.
* `Lawful.distinct`: no call on the store is made twice about one message.
* `conforms`: the state machine as a whole, for every session of the bot.
-/

namespace Registrar.Registration

open Handling

/-! ### The next state -/

section Next

variable (policy : Policy) (message : Message) (fate : Fate) (r : Record)

/-- Another state, if the store accepts it. -/
def changedTo (state : State) : State :=
  if fate.accepts (.set message.conversation state) then state else r.reads

/-- Whether a code is issued: it expires at a moment that there is, the moment is stored if it matters,
and the e-mail goes out or need not. -/
def issues : Bool :=
  match fate.moments.head.addSeconds? policy.validity with
  | none => false
  | some expires =>
    (!policy.enforceExpiry || fate.accepts
        (.setData message.conversation expiryField (.string (Rfc3339.writeOffset expires)))) &&
      (!policy.blockOnEmailFailure || fate.mails.head.isOk)

/-- Whether a text is taken for a login: it is not blank, it is stored, and so is a code, which is
issued. -/
def takesLogin : Bool :=
  let c := message.conversation
  let login := Text.trim message.content
  login ≠ "" && fate.accepts (.setData c loginField (.string login)) &&
    match fate.codes.head with
    | .error _ => false
    | .ok code => fate.accepts (.setData c codeField (.string code)) && issues policy message fate

/-- Whether the code has expired, if that can be told. -/
def expired? : Option Bool :=
  if policy.enforceExpiry then
    match fate.text? r message.conversation expiryField with
    | none => none
    | some none => some false
    | some (some raw) =>
      match Rfc3339.readStrict raw with
      | .error _ => none
      | .ok expires => some (expires.before fate.moments.head)
  else some false

/-- The state after a text while a code is expected. -/
def afterEntry : State :=
  match fate.text? r message.conversation codeField,
    fate.text? r message.conversation loginField with
  | some (some code), some (some _) =>
    match expired? policy message fate r with
    | some true => changedTo message fate r awaitingLogin
    | some false =>
      if isRightCode policy code message.content && fate.enrolments.head.isOk then
        changedTo message fate r registered
      else r.reads
    | none => r.reads
  | some _, some _ => changedTo message fate r .default
  | _, _ => r.reads

def afterGreeting : State :=
  match fate.text? r message.conversation loginField with
  | some none => changedTo message fate r .default
  | _ => r.reads

def afterText : State :=
  if r.reads = awaitingLogin then
    if takesLogin policy message fate then changedTo message fate r awaitingCode else r.reads
  else if r.reads = awaitingCode then afterEntry policy message fate r
  else if r.reads = registered then afterGreeting message fate r
  else r.reads

def nextState : State :=
  match message.command with
  | some name =>
    if name = "register" then changedTo message fate r awaitingLogin
    else if name = "cancel" then
      if fate.accepts (.delete message.conversation) then .default else r.reads
    else r.reads
  | none =>
    if fate.accepts (.get message.conversation) then afterText policy message fate r else r.reads

end Next

variable {policy : Policy} {message : Message} {fate : Fate} {r : Record} {state : State}

/-! ### Handlers -/

/-- The handling leaves the record with a state that reads as this one. -/
abbrev Leaves (x : Handling Unit) (r : Record) (fate : Fate) (state : State) : Prop :=
  Brings Fate.answer x (r, fate) fun _ s => s.1.reads = state

theorem leaves_send (message : Outgoing) : Leaves (Handling.send message) r fate r.reads :=
  brings_send rfl rfl

theorem leaves_reply (message : Message) (text : String) :
    Leaves (reply message text) r fate r.reads := leaves_send _

/-- The state is changed, and then a message is sent. -/
theorem leaves_change (message : Message) (state : State) (last : Outgoing) :
    Leaves (message.conversation.setState state >>= fun _ => Handling.send last) r fate
      (changedTo message fate r state) := by
  have performed : r.perform (.set message.conversation state) =
      (.ok (), { r with state := some state }) := rfl
  apply Fate.brings_write performed
  · intro refused fault
    simp [changedTo, refused]
  · intro accepted
    rw [changedTo, if_pos accepted]
    exact leaves_send last

theorem leaves_cancel :
    Leaves (cancel message) r fate
      (if fate.accepts (.delete message.conversation) then .default else r.reads) := by
  have performed : r.perform (.delete message.conversation) = (.ok (), { r with state := none }) :=
    rfl
  apply Fate.brings_write performed
  · intro refused fault
    simp [refused]
  · intro accepted
    have cleared : ({ r with state := none } : Record).perform (.clearData message.conversation) =
        (.ok (), .empty) := rfl
    rw [if_pos accepted]
    apply Fate.brings_write cleared
    · intro _ _
      rfl
    · intro _
      exact leaves_reply _ _

theorem leaves_offerQuiz (quizUrl : Option String) :
    Leaves (offerQuiz quizUrl message) r fate r.reads := by
  unfold offerQuiz
  split
  · exact leaves_reply _ _
  · exact leaves_send _

/-! ### A login -/

/-- A scratch field is written. -/
theorem leaves_setData {field : String} {value : Json} {rest : Unit → Handling Unit}
    (refused : fate.accepts (.setData message.conversation field value) = false → r.reads = state)
    (accepted : fate.accepts (.setData message.conversation field value) = true →
      Leaves (rest ()) (r.perform (.setData message.conversation field value)).2 fate state) :
    Leaves (message.conversation.setData field value >>= rest) r fate state := by
  have performed : r.perform (.setData message.conversation field value) =
      (.ok (), (r.perform (.setData message.conversation field value)).2) := rfl
  exact Fate.brings_write performed (fun verdict _ => refused verdict) accepted

theorem leaves_mailAndExpect (login code : String) (expires : Instant) :
    Leaves (mailAndExpect policy message login code expires) r fate
      (if !policy.blockOnEmailFailure || fate.mails.head.isOk then
        changedTo message fate r awaitingCode
      else r.reads) := by
  refine Program.brings_ask rfl (Program.brings_ask rfl ?_)
  cases sent : fate.mails.head with
  | ok u =>
      change Leaves (expectCode policy message (policy.recipient login)) _ _ _
      rw [if_pos (by simp [Except.isOk, Except.toBool])]
      exact leaves_change _ _ _
  | error e =>
      change Leaves (if policy.blockOnEmailFailure then _ else _) _ _ _
      by_cases blocks : policy.blockOnEmailFailure = true
      · rw [if_pos blocks, if_neg (by simp [blocks, Except.isOk, Except.toBool])]
        exact leaves_reply _ _
      · rw [if_neg blocks, if_pos (by simp [blocks])]
        exact leaves_change _ _ _

theorem leaves_issueCode (login code : String) :
    Leaves (issueCode policy message login code) r fate
      (if issues policy message fate then changedTo message fate r awaitingCode else r.reads) := by
  rw [issueCode_eq, issues]
  cases expiry : fate.moments.head.addSeconds? policy.validity with
  | none =>
      split
      · exact brings_throw rfl
      · refine brings_clock rfl ?_
        simp only [expiry]
        rfl
  | some expires =>
      rw [if_neg (Nat.not_lt.mpr (validity_le expiry))]
      refine brings_clock rfl ?_
      simp only [expiry]
      by_cases enforced : policy.enforceExpiry = true
      · rw [if_pos enforced]
        -- The clock has gone on, but the store refuses what it refused before.
        apply leaves_setData
        · intro refused
          change fate.accepts _ = false at refused
          simp [enforced, refused]
        · intro accepted
          change fate.accepts _ = true at accepted
          simp only [enforced, accepted, Bool.not_true, Bool.false_or, Bool.true_and]
          exact leaves_mailAndExpect login code expires
      · rw [if_neg enforced]
        simp only [enforced, Bool.not_false, Bool.true_or, Bool.true_and]
        exact leaves_mailAndExpect login code expires

theorem leaves_takeLogin :
    Leaves (takeLogin policy message) r fate
      (if takesLogin policy message fate then changedTo message fate r awaitingCode else r.reads) := by
  unfold takeLogin takesLogin
  extract_lets login c
  by_cases blank : login = ""
  · rw [if_pos blank]
    simp only [blank, ne_eq, not_true_eq_false, decide_false, Bool.false_and]
    exact leaves_reply _ _
  rw [if_neg blank]
  simp only [ne_eq, blank, not_false_eq_true, decide_true, Bool.true_and]
  apply leaves_setData
  · intro refused
    simp [c, refused]
  intro accepted
  apply brings_newCode rfl
  · intro e refused
    simp [refused]
    rfl
  intro code drawn
  simp only [c, accepted, drawn, Bool.true_and]
  apply leaves_setData
  · intro refused
    change fate.accepts _ = false at refused
    simp [refused]
    rfl
  · intro stored
    change fate.accepts _ = true at stored
    simp only [stored, Bool.true_and]
    exact leaves_issueCode login code

/-! ### A code -/

theorem leaves_expireSession :
    Leaves (expireSession message) r fate (changedTo message fate r .default) := leaves_change _ _ _

theorem leaves_codeExpired {rest : Bool → Handling Unit}
    (unknown : expired? policy message fate r = none → r.reads = state)
    (known : ∀ verdict moments, expired? policy message fate r = some verdict →
      Leaves (rest verdict) r { fate with moments := moments } state) :
    Leaves (codeExpired policy message.conversation >>= rest) r fate state := by
  unfold codeExpired
  unfold expired? at unknown known
  by_cases enforced : policy.enforceExpiry = true
  · rw [if_pos enforced, bind_assoc]
    simp only [enforced, if_true] at unknown known
    apply Fate.brings_text
    · intro unread _
      exact unknown (by rw [unread])
    intro raw? read
    rw [read] at unknown known
    cases raw? with
    | none => exact known false fate.moments rfl
    | some raw =>
        cases moment : Rfc3339.readStrict raw with
        | error fault =>
            simp only [moment]
            exact brings_throw (unknown (by simp only [moment]))
        | ok expires =>
            simp only [moment, bind_assoc] at known ⊢
            exact brings_clock rfl (known _ _ rfl)
  · rw [if_neg enforced, pure_bind]
    simp only [enforced] at known
    exact known false fate.moments rfl

theorem leaves_enroll {login : String} {rest : UserRecord → Handling Unit}
    (refused : fate.enrolments.head.isOk = false → r.reads = state)
    (accepted : fate.enrolments.head.isOk = true → ∀ user,
      Leaves (rest user) r { fate with enrolments := fate.enrolments.tail } state) :
    Leaves (enroll message login >>= rest) r fate state := by
  refine Program.brings_ask rfl ?_
  cases answer : fate.enrolments.head with
  | error fault => exact refused (by rw [answer]; rfl)
  | ok user => exact accepted (by rw [answer]; rfl) user

theorem leaves_takeCode :
    Leaves (takeCode policy message) r fate (afterEntry policy message fate r) := by
  unfold takeCode
  apply Fate.brings_text
  · intro unread _
    simp [afterEntry, unread]
  intro code? readCode
  apply Fate.brings_text
  · intro unread _
    simp [afterEntry, unread]
  intro login? readLogin
  unfold afterEntry
  rw [readCode, readLogin]
  cases code? with
  | none => exact leaves_expireSession
  | some code =>
  cases login? with
  | none => exact leaves_expireSession
  | some login =>
  apply leaves_codeExpired
  · intro unknown
    simp only [unknown]
  intro verdict moments known
  simp only [known]
  cases verdict with
  | true => exact leaves_change _ _ _
  | false =>
      rw [if_neg Bool.false_ne_true]
      by_cases right : isRightCode policy code message.content = true
      · rw [if_pos right]
        simp only [right, Bool.true_and]
        apply leaves_enroll
        · intro refused
          change fate.enrolments.head.isOk = false at refused
          simp [refused]
        · intro accepted _
          change fate.enrolments.head.isOk = true at accepted
          rw [if_pos accepted]
          exact leaves_change _ _ _
      · rw [if_neg right]
        simp only [right, Bool.false_and]
        exact leaves_reply _ _

theorem leaves_greetRegistered :
    Leaves (greetRegistered message) r fate (afterGreeting message fate r) := by
  unfold greetRegistered afterGreeting
  apply Fate.brings_text
  · intro unread _
    simp [unread]
  intro login? read
  rw [read]
  cases login? with
  | none => exact leaves_expireSession
  | some login => exact leaves_enroll (fun _ => rfl) fun _ _ => leaves_reply _ _

/-! ### All handlers -/

theorem leaves_commands (quizUrl : Option String) {name : String}
    (command : message.command = some name) :
    Leaves ((commandRoutes quizUrl).handle message) r fate (nextState policy message fate r) := by
  unfold CommandRoutes.handle nextState
  simp only [command]
  split
  · rename_i missing
    have others : name ≠ "register" ∧ name ≠ "cancel" := by
      constructor
      · rintro rfl
        cases missing
      · rintro rfl
        cases missing
    rw [if_neg others.1, if_neg others.2]
    exact brings_throw rfl
  · rename_i handler found
    rcases commandRoutes_name found with ⟨other, other', rfl | rfl⟩ | ⟨rfl, rfl⟩ | ⟨rfl, rfl⟩
    · rw [if_neg other, if_neg other']
      exact leaves_reply _ _
    · rw [if_neg other, if_neg other']
      exact leaves_offerQuiz quizUrl
    · exact leaves_change _ _ _
    · exact leaves_cancel

theorem leaves_states (text : message.command = none) :
    Leaves ((stateRoutes policy).handle message) r fate (nextState policy message fate r) := by
  have performed : r.perform (.get message.conversation) = (.ok r.reads, r) := rfl
  unfold nextState
  simp only [text]
  apply Fate.brings_write performed
  · intro refused _
    simp [refused]
  intro accepted
  rw [if_pos accepted, afterText]
  by_cases login : r.reads = awaitingLogin
  · have found : (stateRoutes policy).handlers.get? r.reads = some (takeLogin policy) := by
      rw [login]
      rfl
    simp only [found]
    rw [if_pos login]
    exact leaves_takeLogin
  by_cases code : r.reads = awaitingCode
  · have found : (stateRoutes policy).handlers.get? r.reads = some (takeCode policy) := by
      rw [code]
      rfl
    simp only [found]
    rw [if_neg login, if_pos code]
    exact leaves_takeCode
  by_cases complete : r.reads = registered
  · have found : (stateRoutes policy).handlers.get? r.reads = some greetRegistered := by
      rw [complete]
      rfl
    simp only [found]
    rw [if_neg login, if_neg code, if_pos complete]
    exact leaves_greetRegistered
  -- The default state is left, and those without a handler.
  rw [if_neg login, if_neg code, if_neg complete]
  split
  · exact brings_throw rfl
  · rename_i handler found
    rcases stateRoutes_get? found with rfl | ⟨same, _⟩ | ⟨same, _⟩ | ⟨same, _⟩
    · exact leaves_reply _ _
    · exact absurd same login
    · exact absurd same code
    · exact absurd same complete

theorem leaves_routes (policy : Policy) (quizUrl : Option String) (message : Message) (fate : Fate)
    (r : Record) :
    Leaves ((routes policy quizUrl).handle message) r fate (nextState policy message fate r) := by
  unfold Routes.handle Message.isCommand
  cases command : message.command with
  | none => exact leaves_states command
  | some name => exact leaves_commands quizUrl command

/-! ### The course of a message -/

variable {job : Job} {course : List Exchange}

theorem InTime.unchanged {check : List Exchange} (inTime : InTime policy job check) :
    ∀ e ∈ check, ∀ call, e.request = .store call → call.newState? = none := by
  cases inTime with
  | unchecked => simp
  | unlimited => simp [StoreCall.newState?]
  | early => simp [StoreCall.newState?]

/-- Nothing was asked for that changes the state before a change is due. -/
theorem Due.unchanged {call : StoreCall} (due : Due policy job course call) :
    ∀ e ∈ course, ∀ call', e.request = .store call' → call'.newState? = none := by
  cases due with
  | register history | cancel history =>
      subst history
      simp
  | codeSent history =>
      subst history
      simp only [issuing, expiryNoted]
      split <;> simp [StoreCall.newState?]
  | sessionGone history | expired history | loginGone history =>
      subst history
      simp [StoreCall.newState?]
  | complete history text inTime =>
      subst history
      simp only [List.forall_mem_cons, List.forall_mem_append]
      exact ⟨by simp, inTime.unchanged, by simp [StoreCall.newState?]⟩

/-- What fits a course is a call that was not made in it. -/
theorem Fitting.fresh {call : StoreCall} (fitting : Fitting policy job course (.store call)) :
    ∀ e ∈ course, e.request ≠ .store call := by
  cases call with
  | get =>
      cases fitting
      simp
  | set | delete =>
      intro e mem same
      cases Due.unchanged fitting e mem _ same
  | getData c field =>
      cases fitting with
      | code history | login history | greeting history =>
          subst history
          simp [codeField, loginField]
      | expiry enforced history =>
          subst history
          simp [codeField, loginField, expiryField]
  | setData c field value =>
      obtain ⟨text, rfl, noting⟩ := fitting
      cases noting with
      | login history | code history =>
          subst history
          simp [codeField, loginField]
      | expiry enforced history =>
          subst history
          simp [codeField, loginField, expiryField]
  | clearData =>
      cases fitting
      simp

theorem Lawful.distinct (lawful : Lawful policy job course) : Fate.Distinct course := by
  intro later e earlier call split asked
  have proper := (lawful later e earlier split).2
  rw [asked] at proper
  exact proper.fitting.fresh

/-- A handler that has ended has left what `nextState` tells, whichever fate gave the answers. -/
theorem reads_ended {quizUrl : Option String} {p : Work} {ending : Ending Outcome}
    (comes : ((routes policy quizUrl).handle job.message).run.Comes job course p)
    (ended : p.ending? = some ending) (gives : Fate.Gives (r, fate) course) :
    (r.replay course).reads = nextState policy job.message fate r := by
  have left : (((routes policy quizUrl).handle job.message).run.run Fate.answer (r, fate)).2.1.reads =
      nextState policy job.message fate r := leaves_routes policy quizUrl job.message fate r
  have stops : (p.run Fate.answer (Fate.after (r, fate) course)).2 = Fate.after (r, fate) course := by
    cases p with
    | ask => cases ended
    | done | panic | crash => rfl
  rw [Fate.run_eq comes gives, stops, Fate.record_after gives] at left
  exact left

/-! ### The state machine -/

/-- From an empty store, whatever messages come in whatever order and whatever fails:

The state of every conversation reads as one of the four of a registration, even if records are
evicted, and so a handler is found for every state that is read. A message touches the record of its
own conversation only. And as long as nothing of the conversation is evicted while the message is
handled, its state moves along the edges of the registration: when a change of the state is due, it
is what the handler asks next, and at no other point does it ask for one; the state changes by such a
call if the store accepts it, and not otherwise. When the handler has ended, the state is the one that
`nextState` tells from the record before it, the message, and what it met with: there is a fate that
gives all of its answers, and every fate that does tells the same. -/
theorem conforms (policy : Policy) (quizUrl : Option String) (moves : List Move) :
    let route := (routes policy quizUrl).handle
    let s := Session.run route .empty moves
    (∀ c, (s.memory.record c).reads ∈ states) ∧
    (∀ e ∈ s.exchanges, ∀ state, readState? e = some state →
      ∃ handler, (stateRoutes policy).handlers.get? state = some handler) ∧
    (∀ id job p chance, s.working? id = some (job, p) → ∀ c, c ≠ job.message.conversation →
      (s.step route (.ask id chance)).memory.record c = s.memory.record c) ∧
    ∀ before id job, Session.Attends route .empty before id job moves →
      let c := job.message.conversation
      let s₀ := Session.run route .empty before
      ∃ course, Session.about c s.exchanges = course ++ Session.about c s₀.exchanges ∧
        Conforming policy job course (s₀.memory.record c) (s.memory.record c) ∧
        (∀ p, s.working? id = some (job, p) → ∀ call state, call.newState? = some state →
          ((∃ next, p = .ask (.store call) next) ↔ Due policy job course call)) ∧
        (∃ fate, Fate.Gives (s₀.memory.record c, fate) course) ∧
        ∀ p ending, s.working? id = some (job, p) → p.ending? = some ending →
          ∀ fate, Fate.Gives (s₀.memory.record c, fate) course →
            (s.memory.record c).reads = nextState policy job.message fate (s₀.memory.record c) := by
  intro route s
  refine ⟨fun c => (known_run policy quizUrl moves c).stored, fun e mem state read => ?_,
    fun id job p chance working c other => ?_, fun before id job attends => ?_⟩
  · have about : e ∈ Session.about e.conversation s.exchanges := by
      simp [Session.about, mem]
    exact handler_of_mem_states ((known_run policy quizUrl moves e.conversation).read about read)
  · exact record_ask_other (Session.minding_run .empty moves (minds_routes policy quizUrl)) working
      chance other
  intro c s₀
  obtain ⟨course, p, attended⟩ := attends.attended (minds_routes policy quizUrl)
  obtain ⟨along, lawful⟩ := (along_routes policy quizUrl job).comes attended.comes
  have record : s.memory.record c = (s₀.memory.record c).replay course :=
    congrArg Story.record attended.story
  -- Whoever is at work on the message is where its course has led.
  have same : ∀ p', s.working? id = some (job, p') → p' = p := by
    intro p' working
    have now : s.affairs.working id = some (job, p') := working
    rcases attended.working with here | free
    · exact congrArg Prod.snd (Option.some.inj (now.symm.trans here))
    · cases free.symm.trans now
  refine ⟨course, congrArg Story.past attended.story, ?conforming, ?due,
    Fate.exists_gives attended.truthful (Lawful.distinct lawful), ?ended⟩
  case conforming =>
    have read : ∀ state, found job state ∈ course → state = (s₀.memory.record c).reads := fun _ =>
      Lawful.read_eq lawful attended.truthful
    have moved := Lawful.moved lawful (s₀.memory.record c)
    refine ⟨fun e mem => ?_, attended.truthful, read, record ▸ moved, record ▸ moved.edge read⟩
    obtain ⟨later, earlier, split⟩ := List.append_of_mem mem
    exact (lawful later e earlier split).1
  case due =>
    intro p' working call state changes
    rw [same p' working]
    exact asks_change_iff along changes
  case ended =>
    intro p' ending working ended fate gives
    rw [record]
    exact reads_ended attended.comes (same p' working ▸ ended) gives

end Registrar.Registration
