import Registrar.Proofs.Registration.Evidence

/-!
Nobody is registered under a login whose code they have not shown.

The terms of the registration are that its stories are `Founded` and that a user is entered only as
`Justified`: as the sender of the message, with the role of a user, under a login that was
confirmed. Every handler is safe on these terms; the proofs follow the handlers from one request to
the next.

* `registrations_authenticated`: in every session of the bot that begins with an empty store, who is
  entered as a user has shown the code that was sent to the address for the login.
-/

namespace Registrar.Registration

open Handling

/-- Why a request may be made: others than entering a user need no reason. -/
def Justified (policy : Policy) (c : Conversation) (job : Job) (past : List Exchange) :
    Request → Prop
  | .enroll login id roles =>
    roles = Roles.user ∧ id = some job.message.user.id ∧ Confirmed policy c login past
  | _ => True

def terms (policy : Policy) (c : Conversation) : Terms where
  invariant := Founded policy c
  allows job story r := Justified policy c job story.past r
  fades h fades := (Founded.lasting policy c).fades h fades

abbrev Upholds {α : Type} (policy : Policy) (job : Job) (pre : Story → Prop) (x : Handling α)
    (post : α → Story → Prop) : Prop :=
  Keeps (terms policy job.message.conversation) job pre x post

variable {policy : Policy} {job : Job} {A : Story → Prop}

/-! ### Requests -/

/-- A request that is none to the store leaves the record as it is. -/
theorem asking_elsewhere {r : Request} {post : r.Answer → Story → Prop} (lasting : Lasting A)
    (elsewhere : ∀ call, r ≠ .store call)
    (justified : ∀ story, A story → Justified policy job.message.conversation job story.past r)
    (after : ∀ record past answer, A ⟨record, past⟩ →
      post answer ⟨record, ⟨job, r, answer⟩ :: past⟩) :
    Asking (terms policy job.message.conversation) job A r post where
  own call same := absurd same (elsewhere call)
  allowed story record before fades _ := justified ⟨record, story.past⟩ (lasting.fades before fades)
  answered story record before fades invariant chance := by
    rw [Chance.answer_elsewhere _ _ _ elsewhere]
    exact ⟨(Founded.lasting policy _).tell invariant (not_storesLogin fun c v => elsewhere _),
      after _ _ _ (lasting.fades before fades)⟩

/-- A call on the store about the own conversation. -/
theorem upholds_store {call : StoreCall} {post : call.Result → Story → Prop}
    (own : call.conversation = job.message.conversation) (lasting : Lasting A)
    (after : ∀ r past v, A ⟨r, past⟩ → Founded policy job.message.conversation ⟨r, past⟩ →
      (r.perform call).1 = .ok v →
        Founded policy job.message.conversation
            ⟨(r.perform call).2, ⟨job, .store call, .ok v⟩ :: past⟩ ∧
          post v ⟨(r.perform call).2, ⟨job, .store call, .ok v⟩ :: past⟩) :
    Upholds policy job A (Handling.store call) post := by
  refine .store ⟨fun call' same => by cases same; exact own, fun _ _ _ _ _ => True.intro,
    fun story record before fades invariant chance => ?_⟩
  have silent : ∀ fault, Founded policy job.message.conversation
      ⟨record, ⟨job, .store call, .error fault⟩ :: story.past⟩ := fun fault =>
    (Founded.lasting policy _).tell invariant not_storesLogin_error
  simp only [Chance.answer]
  cases chance.storeFault with
  | some fault => exact ⟨silent fault, fun v same => by cases same⟩
  | none =>
      cases answer : (record.perform call).1 with
      | error fault =>
          rw [Record.perform_eq_of_error answer]
          exact ⟨silent fault, fun v same => by cases same⟩
      | ok v =>
          obtain ⟨founded, holds⟩ := after record story.past v (lasting.fades before fades)
            invariant answer
          exact ⟨founded, fun v' same => by cases same; exact holds⟩

/-- Sending a message needs no reason. -/
theorem upholds_send (lasting : Lasting A) (message : Outgoing) :
    Upholds policy job A (Handling.send message) fun _ => A := by
  have asking : Asking (terms policy job.message.conversation) job A (.send message) fun _ => A :=
    asking_elsewhere lasting (fun _ => by simp) (fun _ _ => True.intro) fun _ _ _ holds =>
      lasting.tell holds (not_storesLogin fun _ _ => by simp)
  exact .attempt fun story before => (asking.safe before).mono fun _ _ holds _ _ => holds

theorem upholds_reply (lasting : Lasting A) (message : Message) (text : String) :
    Upholds policy job A (reply message text) fun _ => A := upholds_send lasting _

theorem asking_clock (lasting : Lasting A) :
    Asking (terms policy job.message.conversation) job A .clock fun _ => A :=
  asking_elsewhere lasting (fun _ => by simp) (fun _ _ => True.intro) fun _ _ _ holds =>
    lasting.tell holds (not_storesLogin fun _ _ => by simp)

theorem upholds_clock (lasting : Lasting A) :
    Upholds policy job A (Handling.ask .clock) fun _ => A := .ask (asking_clock lasting)

/-- A field is read: its text is the value that it holds, if it holds one. -/
theorem upholds_getData (lasting : Lasting A) (field : String) :
    Upholds policy job A (job.message.conversation.getData field) fun v? story =>
      A story ∧ ∀ value v, (∀ story, A story → story.record.Holds field value) → v? = some v →
        v = .string value := by
  refine upholds_store rfl lasting fun r past v before founded read => ?_
  have silent : ¬ StoresLogin ⟨job, .store (.getData job.message.conversation field), .ok v⟩ :=
    not_storesLogin fun _ _ => by simp
  refine ⟨(Founded.lasting policy _).tell founded silent, lasting.tell before silent, ?_⟩
  rintro value v' holds rfl
  exact (holds _ before).value_eq job.message.conversation read

theorem upholds_getAs {α : Type} (lasting : Lasting A) (field : String)
    (read : Json → Except DecodeError α) :
    Upholds policy job A (job.message.conversation.getAs field read) fun _ => A := by
  refine (upholds_getData lasting field).bind _ fun v? => ?_
  cases v? with
  | none => exact .pure _ fun _ holds => holds.1
  | some v =>
      cases result : read v with
      | ok a =>
          simp only [result]
          exact .pure _ fun _ holds => holds.1
      | error e =>
          simp only [result]
          exact .throw _

/-- A field is read as a text: it is the value that the field holds, if it holds one. -/
theorem upholds_getText (lasting : Lasting A) {field : String} (value : String)
    (holds : ∀ story, A story → story.record.Holds field value) :
    Upholds policy job A (job.message.conversation.getAs field Decode.string) fun text? story =>
      (∀ text, text? = some text → text = value) ∧ A story := by
  refine (upholds_getData lasting field).bind _ fun v? => ?_
  cases v? with
  | none => exact .pure _ fun _ h => ⟨fun _ same => (by cases same), h.1⟩
  | some v =>
      intro story h
      have same := h.2 value v holds rfl
      subst same
      have keeps : Upholds policy job A (pure (some value)) fun text? story =>
          (∀ text, text? = some text → text = value) ∧ A story :=
        .pure _ fun _ h => ⟨fun _ same => by cases same; rfl, h⟩
      exact keeps story h.1

/-- The state is replaced by one in which nothing is expected of the record. -/
theorem upholds_setState (lasting : Lasting A) {state : State} (other : state ≠ awaitingCode)
    (other' : state ≠ registered) :
    Upholds policy job A (job.message.conversation.setState state) fun _ _ => True := by
  refine upholds_store rfl lasting fun r past v _ _ _ => ⟨?_, True.intro⟩
  exact Unsettled.founded ⟨fun same => other (by cases same; rfl), fun same =>
    other' (by cases same; rfl)⟩

theorem upholds_expireSession (lasting : Lasting A) :
    Upholds policy job A (expireSession job.message) fun _ _ => True :=
  (upholds_setState lasting (by decide) (by decide)).bind _ fun _ => upholds_reply .trivial _ _

/-! ### Commands -/

theorem upholds_greet (lasting : Lasting A) :
    Upholds policy job A (greet job.message) fun _ _ => True :=
  (upholds_reply lasting _ _).forget

theorem upholds_beginRegistration (lasting : Lasting A) :
    Upholds policy job A (beginRegistration job.message) fun _ _ => True :=
  (upholds_setState lasting (by decide) (by decide)).bind _ fun _ => upholds_reply .trivial _ _

theorem upholds_offerQuiz (lasting : Lasting A) (quizUrl : Option String) :
    Upholds policy job A (offerQuiz quizUrl job.message) fun _ _ => True := by
  unfold offerQuiz
  split
  · exact (upholds_reply lasting _ _).forget
  · exact (upholds_send lasting _).forget

theorem upholds_cancel (lasting : Lasting A) :
    Upholds policy job A (cancel job.message) fun _ _ => True := by
  refine .bind (fun _ _ => True) ?_ fun _ => .bind (fun _ _ => True) ?_ fun _ =>
    upholds_reply .trivial _ _
  · refine upholds_store rfl lasting fun r past v _ _ _ => ⟨?_, True.intro⟩
    exact Unsettled.founded ⟨(fun same => by cases same), fun same => by cases same⟩
  · refine upholds_store rfl .trivial fun r past v _ founded _ => ⟨?_, True.intro⟩
    refine (Founded.lasting policy _).tell ?_ (not_storesLogin fun _ _ => by simp)
    exact (Founded.lasting policy _).fades founded ⟨.inl rfl, .inr rfl⟩

/-! ### A login -/

/-- The message has stored its login, and these steps have followed; neither is a code expected nor
is the registration complete. -/
def Underway (job : Job) (login : String) (steps : List Exchange) (story : Story) : Prop :=
  Unsettled story.record ∧ story.record.Holds loginField login ∧
    Trace job.message.conversation job login steps story.past

theorem Lasting.underway (job : Job) (login : String) (steps : List Exchange) :
    Lasting (Underway job login steps) :=
  .and .unsettled (.and (.holds _ _) (.trace _ _ _ _))

/-- A code was issued for the login, and both are stored. -/
def Ready (policy : Policy) (c : Conversation) (login code : String) (story : Story) : Prop :=
  Issued policy c login code story.past ∧ story.record.Holds loginField login ∧
    story.record.Holds codeField code

theorem Lasting.ready (policy : Policy) (c : Conversation) (login code : String) :
    Lasting (Ready policy c login code) :=
  .and (.issued _ _ _ _) (.and (.holds _ _) (.holds _ _))

theorem upholds_expectCode {login code : String} (recipient : String) :
    Upholds policy job (Ready policy job.message.conversation login code)
      (expectCode policy job.message recipient) fun _ _ => True := by
  refine .bind (fun _ _ => True) ?_ fun _ => upholds_send .trivial _
  refine upholds_store rfl (.ready _ _ _ _) fun r past v ready _ _ => ⟨⟨fun _ => ?_, ?_⟩, True.intro⟩
  · exact ⟨login, code, ready.1.tell (not_storesLogin fun _ _ => by simp),
      ready.2.1.of_scratch rfl, ready.2.2.of_scratch rfl⟩
  · exact fun same => absurd (Option.some.inj same) (by decide)

/-- The e-mail with the code is handed to the sender. -/
theorem upholds_sendCode (login code : String) (expires : Instant) :
    Upholds policy job
      (fun story => Underway job login [⟨job, .newCode, .ok code⟩] story ∧
        story.record.Holds codeField code)
      (ExceptT.lift (sendCode policy login code expires))
      fun _ => Ready policy job.message.conversation login code := by
  have lasting := (Lasting.underway job login [⟨job, .newCode, .ok code⟩]).and
    (Lasting.holds codeField code)
  have deliver : ∀ now, Asking (terms policy job.message.conversation) job _
      (.deliver (letter policy login code now expires))
        fun _ => Ready policy job.message.conversation login code := fun now => by
    refine asking_elsewhere lasting (fun _ => by simp) (fun _ _ => True.intro) ?_
    rintro record past sent ⟨⟨_, login?, trace⟩, code?⟩
    exact ⟨⟨job, letter policy login code now expires, sent,
      trace.extend (not_storesLogin fun _ _ => by simp), rfl, by simp [letter]⟩, login?, code?⟩
  refine .lift fun story before =>
    (asking_clock lasting).safe_ask _ (fun now story' during => ?_) before
  refine (deliver now).safe_ask _ (fun _ _ ready => ?_) during
  exact ready

/-- What is done about a code once the moment of its expiry is stored, if it is to be. -/
def mailAndExpect (policy : Policy) (message : Message) (login code : String) (expires : Instant) :
    Handling Unit := do
  let sent ← (ExceptT.lift (sendCode policy login code expires) :
    Handling (Except EmailError String))
  match sent with
  | .ok recipient => expectCode policy message recipient
  | .error _ =>
    if policy.blockOnEmailFailure then reply message emailFailedText
    else expectCode policy message (policy.recipient login)

theorem issueCode_eq (policy : Policy) (message : Message) (login code : String) :
    issueCode policy message login code =
      (if longestValidity < policy.validity then throw validityTooLong
      else do
        let now ← (Handling.ask .clock : Handling Instant)
        match now.addSeconds? policy.validity with
        | none => Handling.panic
        | some expires =>
          if policy.enforceExpiry then do
            message.conversation.setData expiryField (.string (Rfc3339.writeOffset expires))
            mailAndExpect policy message login code expires
          else mailAndExpect policy message login code expires) := rfl

theorem upholds_mailAndExpect (login code : String) (expires : Instant) :
    Upholds policy job
      (fun story => Underway job login [⟨job, .newCode, .ok code⟩] story ∧
        story.record.Holds codeField code)
      (mailAndExpect policy job.message login code expires) fun _ _ => True := by
  refine (upholds_sendCode login code expires).bind _ fun sent => ?_
  split
  · exact upholds_expectCode _
  split
  · exact (upholds_reply (.ready _ _ _ _) _ _).forget
  · exact upholds_expectCode _

theorem upholds_issueCode (login code : String) :
    Upholds policy job
      (fun story => Underway job login [⟨job, .newCode, .ok code⟩] story ∧
        story.record.Holds codeField code)
      (issueCode policy job.message login code) fun _ _ => True := by
  have lasting := (Lasting.underway job login [⟨job, .newCode, .ok code⟩]).and
    (Lasting.holds codeField code)
  rw [issueCode_eq]
  split
  · exact .throw _
  refine (upholds_clock lasting).bind _ fun now => ?_
  split
  · exact .panic
  split
  · refine .bind _ ?_ fun _ => upholds_mailAndExpect login code _
    refine upholds_store rfl lasting fun r past v before _ _ => ?_
    obtain ⟨⟨unsettled, login?, trace⟩, code?⟩ := before
    exact ⟨Unsettled.founded unsettled,
      ⟨unsettled, login?.setData job.message.conversation _ (by decide),
        trace.tell (not_storesLogin fun _ _ => by simp [expiryField, loginField])⟩,
      code?.setData job.message.conversation _ (by decide)⟩
  · exact upholds_mailAndExpect login code _

theorem upholds_takeLogin :
    Upholds policy job
      (fun story => Unsettled story.record ∧
        ⟨job, .store (.get job.message.conversation), .ok awaitingLogin⟩ ∈ story.past)
      (takeLogin policy job.message) fun _ _ => True := by
  have lasting : Lasting fun story => Unsettled story.record ∧
      ⟨job, .store (.get job.message.conversation), .ok awaitingLogin⟩ ∈ story.past :=
    .and .unsettled ⟨fun mem _ => mem, fun mem _ => List.mem_cons_of_mem _ mem⟩
  unfold takeLogin
  dsimp only
  split
  · exact (upholds_reply lasting _ _).forget
  refine .bind (fun _ => Underway job (Text.trim job.message.content) []) ?_ fun _ =>
    .bind (fun code => Underway job (Text.trim job.message.content)
      [⟨job, .newCode, .ok code⟩]) ?_ fun code =>
    .bind _ ?_ fun _ => upholds_issueCode _ code
  · refine upholds_store rfl lasting fun r past v before _ _ => ?_
    exact ⟨Unsettled.founded before.1, before.1, .written r job.message.conversation _ _,
      .begin before.2 rfl⟩
  · have asking : Asking (terms policy job.message.conversation) job
        (Underway job (Text.trim job.message.content) []) .newCode fun result story =>
          ∀ code, result = .ok code → Underway job (Text.trim job.message.content)
            [⟨job, .newCode, .ok code⟩] story := by
      refine asking_elsewhere (.underway _ _ _) (fun _ => by simp) (fun _ _ => True.intro) ?_
      rintro record past answer ⟨unsettled, login?, trace⟩ code rfl
      exact ⟨unsettled, login?, trace.extend (not_storesLogin fun _ _ => by simp)⟩
    exact .attempt fun _ before => asking.safe before
  · refine upholds_store rfl (.underway _ _ _) fun r past v before _ _ => ?_
    obtain ⟨unsettled, login?, trace⟩ := before
    exact ⟨Unsettled.founded unsettled,
      ⟨unsettled, login?.setData job.message.conversation _ (by decide),
        trace.tell (not_storesLogin fun _ _ => by simp [codeField, loginField])⟩,
      .written r job.message.conversation _ _⟩

/-! ### A code -/

/-- A user is entered as the sender of the message, under a login that was confirmed. -/
theorem upholds_enroll {login : String} (lasting : Lasting A)
    (confirmed : ∀ story, A story → Confirmed policy job.message.conversation login story.past) :
    Upholds policy job A (enroll job.message login) fun _ => A := by
  have asking : Asking (terms policy job.message.conversation) job A
      (.enroll login (some job.message.user.id) Roles.user) fun _ => A :=
    asking_elsewhere lasting (fun _ => by simp) (fun story holds => ⟨rfl, rfl, confirmed story holds⟩)
      fun _ _ _ holds => lasting.tell holds (not_storesLogin fun _ _ => by simp)
  exact .attempt fun _ before => (asking.safe before).mono fun _ _ holds _ _ => holds

theorem upholds_codeExpired (lasting : Lasting A) :
    Upholds policy job A (codeExpired policy job.message.conversation) fun _ => A := by
  unfold codeExpired
  split
  · refine (upholds_getAs lasting expiryField Decode.string).bind _ fun raw? => ?_
    split
    · exact .pure _ fun _ => id
    · split
      · exact .throw _
      · exact (upholds_clock lasting).bind _ fun _ => .pure _ fun _ => id
  · exact .pure _ fun _ => id

/-- The steps up to a message that found a code expected. -/
def shown (issue proof : Job) (code : String) (mail : Email) (sent : Except EmailError Unit) :
    List Exchange :=
  ⟨proof, .store (.get proof.message.conversation), .ok awaitingCode⟩ :: mailing issue code mail sent

theorem upholds_takeCode (issue : Job) {login code : String} {mail : Email}
    (sent : Except EmailError Unit) (carries : Carries policy login code mail) :
    Upholds policy job
      (fun story => Trace job.message.conversation issue login (shown issue job code mail sent)
          story.past ∧
        story.record.Holds loginField login ∧ story.record.Holds codeField code)
      (takeCode policy job.message) fun _ _ => True := by
  have lasting : Lasting fun story => Trace job.message.conversation issue login
      (shown issue job code mail sent) story.past ∧
        story.record.Holds loginField login ∧ story.record.Holds codeField code :=
    .and (.trace _ _ _ _) (.and (.holds _ _) (.holds _ _))
  unfold takeCode
  refine (upholds_getText lasting code fun _ h => h.2.2).bind _ fun expected? =>
    .assume fun expected_eq => ?_
  refine (upholds_getText lasting login fun _ h => h.2.1).bind _ fun login? =>
    .assume fun login_eq => ?_
  split
  · rename_i expected login'
    cases expected_eq expected rfl
    cases login_eq login' rfl
    refine (upholds_codeExpired lasting).bind _ fun expired => ?_
    split
    · exact (upholds_setState lasting (by decide) (by decide)).bind _ fun _ =>
        upholds_reply .trivial _ _
    split
    · rename_i right
      obtain ⟨length, typed⟩ : (Text.trim job.message.content).utf8ByteSize = policy.codeLength ∧
          Text.trim job.message.content = code := by
        simpa [isRightCode] using right
      have confirmed : ∀ past, Trace job.message.conversation issue login
          (shown issue job code mail sent) past →
            Confirmed policy job.message.conversation login past := fun past trace =>
        ⟨issue, job, code, mail, sent, trace, carries, typed, typed ▸ length⟩
      refine (upholds_enroll lasting fun story h => confirmed _ h.1).bind _ fun _ =>
        .bind (fun _ _ => True) ?_ fun _ => upholds_reply .trivial _ _
      refine upholds_store rfl lasting fun r past v before _ _ => ⟨⟨?_, fun _ => ?_⟩, True.intro⟩
      · exact fun same => absurd (Option.some.inj same) (by decide)
      · exact ⟨login, (confirmed past before.1).tell (not_storesLogin fun _ _ => by simp),
          before.2.1.of_scratch rfl⟩
    · exact (upholds_reply lasting _ _).forget
  · exact upholds_expireSession lasting

theorem upholds_greetRegistered (login : String) :
    Upholds policy job
      (fun story => Confirmed policy job.message.conversation login story.past ∧
        story.record.Holds loginField login)
      (greetRegistered job.message) fun _ _ => True := by
  have lasting : Lasting fun story =>
      Confirmed policy job.message.conversation login story.past ∧
        story.record.Holds loginField login := .and (.confirmed _ _ _) (.holds _ _)
  unfold greetRegistered
  refine (upholds_getText lasting login fun _ h => h.2).bind _ fun login? =>
    .assume fun login_eq => ?_
  split
  · exact upholds_expireSession lasting
  · rename_i login'
    cases login_eq login' rfl
    refine (upholds_enroll lasting fun story h => h.1).bind _ fun _ => ?_
    exact (upholds_reply lasting _ _).forget

/-! ### All handlers -/

theorem commandRoutes_get? {quizUrl : Option String} {name : String} {handler : Handler}
    (found : (commandRoutes quizUrl).handlers.get? name = some handler) :
    handler = greet ∨ handler = beginRegistration ∨ handler = offerQuiz quizUrl ∨
      handler = cancel := by
  simp only [commandRoutes, CommandRoutes.register, CommandRoutes.empty, Table.get?_insert,
    Table.get?_empty] at found
  repeat' split at found
  all_goals cases found
  all_goals simp

theorem stateRoutes_get? {policy : Policy} {state : State} {handler : Handler}
    (found : (stateRoutes policy).handlers.get? state = some handler) :
    handler = answerByDefault ∨ (state = awaitingLogin ∧ handler = takeLogin policy) ∨
      (state = awaitingCode ∧ handler = takeCode policy) ∨
        (state = registered ∧ handler = greetRegistered) := by
  simp only [stateRoutes, StateRoutes.register, StateRoutes.empty, Table.get?_insert,
    Table.get?_empty] at found
  repeat' split at found
  all_goals cases found
  all_goals simp_all

theorem upholds_commands (quizUrl : Option String) (lasting : Lasting A) :
    Upholds policy job A ((commandRoutes quizUrl).handle job.message) fun _ _ => True := by
  unfold CommandRoutes.handle
  split
  · exact .throw _
  split
  · exact .throw _
  · rename_i found
    rcases commandRoutes_get? found with rfl | rfl | rfl | rfl
    · exact upholds_greet lasting
    · exact upholds_beginRegistration lasting
    · exact upholds_offerQuiz lasting quizUrl
    · exact upholds_cancel lasting

/-- What the state is found to be fits the story as it was before. -/
theorem upholds_current :
    Upholds policy job (Founded policy job.message.conversation)
      job.message.conversation.current fun state story =>
        ∃ past, story.past =
            ⟨job, .store (.get job.message.conversation), .ok state⟩ :: past ∧
          Founded policy job.message.conversation ⟨story.record, past⟩ ∧
          story.record.state.getD .default = state := by
  refine upholds_store rfl (Founded.lasting _ _) fun r past state _ founded read => ?_
  refine ⟨(Founded.lasting policy _).tell founded (not_storesLogin fun _ _ => by simp),
    past, rfl, founded, ?_⟩
  cases read
  rfl

/-- A state that is not the default one is stored. -/
theorem state_eq_some {r : Record} {state : State} (read : r.state.getD .default = state)
    (other : state ≠ .default) : r.state = some state := by
  cases stored : r.state with
  | none =>
      rw [stored] at read
      exact absurd read.symm other
  | some s =>
      rw [stored] at read
      exact congrArg some read

theorem upholds_states :
    Upholds policy job (Founded policy job.message.conversation)
      ((stateRoutes policy).handle job.message) fun _ _ => True := by
  refine upholds_current.bind _ fun state => ?_
  split
  · exact .throw _
  rename_i found
  rcases stateRoutes_get? found with rfl | ⟨rfl, rfl⟩ | ⟨rfl, rfl⟩ | ⟨rfl, rfl⟩
  · exact (upholds_reply .trivial _ _).weaken (fun _ _ => True.intro) fun _ _ => id
  · refine upholds_takeLogin.weaken (fun story before => ?_) fun _ _ => id
    obtain ⟨past, told, _, read⟩ := before
    have state := state_eq_some read (by decide)
    exact ⟨⟨by simp [state, awaitingLogin, awaitingCode], by simp [state, awaitingLogin, registered]⟩,
      told ▸ List.mem_cons_self⟩
  · intro story before
    obtain ⟨past, told, founded, read⟩ := before
    obtain ⟨login, code, ⟨issue, mail, sent, trace, carries⟩, fields⟩ :=
      founded.awaiting (state_eq_some read (by decide))
    refine upholds_takeCode issue sent carries story ⟨?_, fields⟩
    rw [told]
    exact trace.extend (not_storesLogin fun _ _ => by simp)
  · intro story before
    obtain ⟨past, told, founded, read⟩ := before
    obtain ⟨login, confirmed, login?⟩ := founded.registered (state_eq_some read (by decide))
    refine upholds_greetRegistered login story ⟨?_, login?⟩
    rw [told]
    exact confirmed.tell (not_storesLogin fun _ _ => by simp)

theorem upholds_routes (policy : Policy) (quizUrl : Option String) (job : Job) :
    Upholds policy job (Founded policy job.message.conversation)
      ((routes policy quizUrl).handle job.message) fun _ _ => True := by
  unfold Routes.handle
  split
  · exact upholds_commands quizUrl (Founded.lasting _ _)
  · exact upholds_states

/-- A conversation about which nothing is known has no login to account for. -/
theorem founded_empty (policy : Policy) (c : Conversation) : Founded policy c ⟨.empty, []⟩ :=
  Unsettled.founded ⟨nofun, nofun⟩

/-- Whatever messages come in whatever order, whatever fails and whatever is evicted: whoever is
entered as a user is the sender of the message, has the role of a user, and the login is confirmed
by what happened before in the same conversation. A message was handled there while a login was
expected, and says this login; a code was drawn for it and sent to the address for the login; and
afterwards a message was handled while a code was expected, and says this code, which has the right
length. No other login has been stored in between, nor since. -/
theorem registrations_authenticated (policy : Policy) (quizUrl : Option String)
    (moves : List Move) {later earlier : List Exchange} {job : Job} {login : String}
    {id : Option Int64} {roles : Roles} {answer : Except UsersError UserRecord}
    (split : (Session.run (routes policy quizUrl).handle .empty moves).exchanges =
      later ++ ⟨job, .enroll login id roles, answer⟩ :: earlier) :
    roles = Roles.user ∧ id = some job.message.user.id ∧
      Confirmed policy job.message.conversation login
        (Session.about job.message.conversation earlier) := by
  have orderly : Session.Orderly (terms policy)
      (Session.run (routes policy quizUrl).handle .empty moves).affairs :=
    Session.orderly_run .empty moves
      (fun job story founded => (upholds_routes policy quizUrl job story founded).mono
        fun _ _ _ => True.intro)
      (founded_empty policy)
  obtain ⟨record, _, justified⟩ := orderly.allowed split
  exact justified

/-- As whom and under which login an exchange enters a user, if it does. -/
def entered? : Exchange → Option (String × Option Int64 × Roles)
  | ⟨_, .enroll login id roles, _⟩ => some (login, id, roles)
  | _ => none

/-- The command, the login and the code of one user lead to an entry. -/
theorem registrations_authenticated_three_messages :
    let message (text : String) : Message := ⟨text, ⟨7, none, none, none⟩, ⟨1, "private"⟩, text, .epoch⟩
    let chance : Chance := ⟨0, none, .epoch, .ok "4711", .ok (), .error (.database ""), .ok ()⟩
    let policy : Policy := ⟨4, 60, false, false, none⟩
    let moves : List Move :=
      [.call (message "/register"), .call (message " ann "), .call (message "4711"), .send 0 0,
        .send 0 1, .send 0 2, .start 0, .ask 0 chance, .ask 0 chance, .conclude 1 0, .start 0] ++
      List.replicate 9 (.ask 0 chance) ++ [.conclude 2 0, .start 0] ++
      List.replicate 4 (.ask 0 chance)
    ∃ later earlier job answer, (Session.run (routes policy none).handle .empty moves).exchanges =
        later ++ ⟨job, .enroll "ann" (some 7) Roles.user, answer⟩ :: earlier ∧
      Confirmed policy job.message.conversation "ann"
        (Session.about job.message.conversation earlier) := by
  intro message chance policy moves
  have found : (Session.run (routes policy none).handle .empty moves).exchanges.findSome? entered? =
      some ("ann", some 7, Roles.user) := by decide +kernel
  obtain ⟨⟨job, r, answer⟩, mem, entered⟩ := List.exists_of_findSome?_eq_some found
  cases r with
  | enroll login id roles =>
      cases entered
      obtain ⟨later, earlier, split⟩ := List.append_of_mem mem
      exact ⟨later, earlier, job, answer, split,
        (registrations_authenticated policy none moves split).2.2⟩
  | _ => cases entered

end Registrar.Registration
