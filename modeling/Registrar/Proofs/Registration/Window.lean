import Registrar.Proofs.Bot.Clock
import Registrar.Proofs.Registration.Code
import Registrar.Proofs.Time.Rfc3339

/-!
For how long a code that was issued is honoured.

A code is issued when a text comes while a login is awaited. The store then keeps it, the login, and
perhaps a moment of expiry (`Noted`). From there on two clocks run against the user: that of the code,
whose validity is set, and that of the store, which sweeps away the records of a conversation once
nobody has touched them for twice the sweep interval. Neither knows about the other.

* `settles_login`: what a login leads to: it is awaited again, or a code is issued.
* `kept_after`: what others do leaves an issued code until it is swept.
* `brings_rightCode`: the right code has its user entered if its records are left and it is valid.
* `code_honoured`: so a code is honoured for as long as it is valid, unless it is swept before.
* `code_forgotten_after_three_minutes`: this happens to a code that is valid for half an hour.
-/

namespace Registrar

namespace Registration

open Handling EventLoop

/-! ### Requests of a registration -/

section Requests

variable {β σ : Type} {answer : σ → (r : Request) → r.Answer × σ} {s s' s'' : σ}
  {Q : Ending (Except BotError β) → σ → Prop}

theorem brings_sendCode {policy : Policy} {login code : String} {expires now : Instant}
    {sent : Except EmailError Unit} {f : Except EmailError String → Handling β}
    (shown : answer s .clock = (now, s'))
    (answered : answer s' (.deliver (letter policy login code now expires)) = (sent, s''))
    (rest : Brings answer (f (sent.map fun _ => policy.recipient login)) s'' Q) :
    Brings answer ((ExceptT.lift (sendCode policy login code expires) :
        Handling (Except EmailError String)) >>= f) s Q :=
  Program.brings_ask shown (Program.brings_ask answered rest)

theorem brings_enroll {message : Message} {login : String} {row : UserRecord}
    {f : UserRecord → Handling β}
    (answered : answer s (.enroll login (some message.user.id) Roles.user) = (.ok row, s'))
    (rest : Brings answer (f row) s' Q) :
    Brings answer (enroll message login >>= f) s Q :=
  Program.brings_ask answered rest

/-- A code whose moment of expiry can be read and is not over has not expired. -/
theorem brings_notExpired {policy : Policy} {key : Conversation} {raw : String}
    {expires now : Instant} {f : Bool → Handling β} (enforced : policy.enforceExpiry = true)
    (answered : answer s (.store (.getData key expiryField)) = (.ok ((some raw).map .string), s'))
    (read : Rfc3339.readStrict raw = .ok expires) (shown : answer s' .clock = (now, s''))
    (early : expires.before now = false) (rest : Brings answer (f false) s'' Q) :
    Brings answer (codeExpired policy key >>= f) s Q := by
  rw [codeExpired, if_pos enforced, bind_assoc]
  refine brings_getText answered ?_
  dsimp only
  rw [read]
  dsimp only
  rw [bind_assoc]
  refine brings_clock shown ?_
  rw [pure_bind, early]
  exact rest

end Requests

/-! ### A login -/

variable {interval now : Nat} {b : Installation}

/-- A code as it is drawn: as many digits as are set. -/
def Drawn (policy : Policy) (code : String) : Prop :=
  code.utf8ByteSize = policy.codeLength ∧ ∀ c ∈ code.toList, c.isDigit = true

/-- What is kept of a code that was issued. -/
structure Noted (policy : Policy) (login code : String) (expires : Instant)
    (fields : Table String String) : Prop where
  login : fields.get? loginField = some (Json.string login).print
  code : fields.get? codeField = some (Json.string code).print
  expiry : policy.enforceExpiry = true →
    fields.get? expiryField = some (Json.string (Rfc3339.writeOffset expires)).print

/-- Either a login is still awaited, or a code was issued. -/
def Settles (interval now : Nat) (policy : Policy) (message : Message) (issued : Instant)
    (b' : Installation) : Prop :=
  (∃ scratch,
    b'.store.Holds interval now message.conversation (some ⟨awaitingLogin, now⟩) scratch) ∨
  ∃ code expires fields, b'.store.Holds interval now message.conversation
      (some ⟨awaitingCode, now⟩) (some ⟨fields, now⟩) ∧
    Drawn policy code ∧ issued.addSeconds? policy.validity = some expires ∧
    Noted policy (Text.trim message.content) code expires fields

theorem settles_expectCode {message : Message} {recipient code : String} {expires issued : Instant}
    {fields : Table String String} {state : Option (Stamped State)} {policy : Policy}
    (holds : b.store.Holds interval now message.conversation state (some ⟨fields, now⟩))
    (drawn : Drawn policy code)
    (expiry : issued.addSeconds? policy.validity = some expires)
    (noted : Noted policy (Text.trim message.content) code expires fields) :
    Brings (Installation.answer now) (expectCode policy message recipient) b fun _ b' =>
      Settles interval now policy message issued b' := by
  obtain ⟨s', answered, holds'⟩ := Installation.answer_set holds awaitingCode
  refine brings_store answered (brings_send rfl ?_)
  exact .inr ⟨code, expires, fields, holds', drawn, expiry, noted⟩

theorem settles_mailAndExpect {message : Message} {code : String} {expires issued : Instant}
    {fields : Table String String} {policy : Policy}
    (holds : b.store.Holds interval now message.conversation (some ⟨awaitingLogin, now⟩)
      (some ⟨fields, now⟩))
    (drawn : Drawn policy code)
    (expiry : issued.addSeconds? policy.validity = some expires)
    (noted : Noted policy (Text.trim message.content) code expires fields) :
    Brings (Installation.answer now)
      (mailAndExpect policy message (Text.trim message.content) code expires) b fun _ b' =>
      Settles interval now policy message issued b' := by
  refine brings_sendCode rfl rfl ?_
  cases sent : (b.sender.send b.site.web _).2 with
  | ok u => exact settles_expectCode holds drawn expiry noted
  | error e =>
      change Brings _ (if policy.blockOnEmailFailure then _ else _) _ _
      split
      · exact brings_send rfl (.inl ⟨_, holds⟩)
      · exact settles_expectCode holds drawn expiry noted

theorem settles_issueCode {message : Message} {code : String}
    {fields : Table String String} {policy : Policy}
    (holds : b.store.Holds interval now message.conversation (some ⟨awaitingLogin, now⟩)
      (some ⟨fields, now⟩))
    (drawn : Drawn policy code)
    (login : fields.get? loginField = some (Json.string (Text.trim message.content)).print)
    (stored : fields.get? codeField = some (Json.string code).print) :
    Brings (Installation.answer now) (issueCode policy message (Text.trim message.content) code) b
      fun _ b' => Settles interval now policy message (b.instantAt now) b' := by
  rw [issueCode_eq]
  split
  · exact brings_throw (.inl ⟨_, holds⟩)
  refine brings_clock rfl ?_
  split
  · exact .inl ⟨_, holds⟩
  rename_i expires expiry
  split
  · obtain ⟨s', answered, holds'⟩ := Installation.answer_setText holds expiryField
      (Rfc3339.writeOffset expires)
    refine brings_store answered (settles_mailAndExpect holds' drawn expiry ?_)
    simp only [Option.map_some, Option.getD_some]
    constructor
    · rw [Table.get?_insert, if_neg (by decide), login]
    · rw [Table.get?_insert, if_neg (by decide), stored]
    · rw [Table.get?_insert, if_pos rfl]
      exact fun _ => rfl
  · rename_i free
    exact settles_mailAndExpect holds drawn expiry
      ⟨login, stored, fun enforced => absurd enforced free⟩

theorem drawn_of_drawCode {code : String} (drawn : b.drawCode = .ok code) :
    Drawn b.policy code := by
  unfold Installation.drawCode at drawn
  cases found : newCode? b.policy.codeLength (b.site.random b.codes) with
  | none =>
      rw [found] at drawn
      cases drawn
  | some drawing =>
      rw [found] at drawn
      cases drawn
      exact newCode?_spec found

theorem settles_takeLogin {policy : Policy} (ours : b.policy = policy) {message : Message}
    {scratch : Option (Stamped (Table String String))}
    (holds : b.store.Holds interval now message.conversation (some ⟨awaitingLogin, now⟩) scratch) :
    Brings (Installation.answer now) (takeLogin policy message) b fun _ b' =>
      Settles interval now policy message (b.instantAt now) b' := by
  subst ours
  unfold takeLogin
  extract_lets login
  split
  · exact brings_send rfl (.inl ⟨_, holds⟩)
  obtain ⟨s₁, answered, holds⟩ := Installation.answer_setText holds loginField login
  refine brings_store answered
    (brings_newCode rfl (fun e refused => .inl ⟨_, holds⟩) fun code found => ?_)
  let b₁ : Installation := { b with store := s₁ }
  let b₂ : Installation := { b₁ with codes := b.codes + 1 }
  obtain ⟨s₂, answered, holds⟩ := Installation.answer_setText (b := b₂) holds codeField code
  have drawn : Drawn b.policy code := drawn_of_drawCode (b := b₁) found
  refine brings_store answered (settles_issueCode holds drawn ?_ ?_)
  · rw [Table.get?_insert, if_neg (by decide), Option.map_some, Option.getD_some,
      Table.get?_insert, if_pos rfl]
  · rw [Table.get?_insert, if_pos rfl]

/-! ### A code -/

/-- A moment of expiry that has not passed, and can be read back where that matters. -/
structure Valid (policy : Policy) (expires now : Instant) : Prop where
  inTime : expires.before now = false
  readable : policy.enforceExpiry = true →
    Rfc3339.readStrict (Rfc3339.writeOffset expires) = .ok expires

/-- The sender of a message is entered under a login and told so. Only the store has changed beside. -/
def Enters (interval now : Nat) (message : Message) (login : String) (b : Installation)
    (ending : Ending Outcome) (b' : Installation) : Prop :=
  ending = .done (.ok ()) ∧
  (∃ scratch,
    b'.store.Holds interval now message.conversation (some ⟨registered, now⟩) scratch) ∧
  b' = { (b.answer now (.enroll login (some message.user.id) Roles.user)).2 with
    store := b'.store
    sent := .plain message.chat.id (completeText login) :: b.sent }

/-- A code whose moment of expiry is valid is found not to have expired. -/
theorem brings_codeExpired {key : Conversation} {login code : String} {expires : Instant}
    {fields : Table String String} {touched : Nat} {state : Option (Stamped State)}
    {f : Bool → Handling Unit} {policy : Policy} {Q : Ending Outcome → Installation → Prop}
    (holds : b.store.Holds interval now key state (some ⟨fields, touched⟩))
    (noted : Noted policy login code expires fields)
    (valid : Valid policy expires (b.instantAt now))
    (rest : ∀ s' touched', s'.Holds interval now key state (some ⟨fields, touched'⟩) →
      Brings (Installation.answer now) (f false) { b with store := s' } Q) :
    Brings (Installation.answer now) (codeExpired policy key >>= f) b Q := by
  by_cases enforced : policy.enforceExpiry = true
  · obtain ⟨s', answered, holds'⟩ := Installation.answer_getText holds (noted.expiry enforced)
    exact brings_notExpired enforced answered (valid.readable enforced) rfl valid.inTime
      (rest s' now holds')
  · rw [codeExpired, if_neg enforced]
    exact rest b.store touched holds

/-- The right code has its sender entered under the login that is kept with it. -/
theorem brings_takeCode {policy : Policy} {message : Message} {login code : String}
    {expires : Instant} {fields : Table String String} {touched : Nat}
    {state : Option (Stamped State)} {row : UserRecord}
    (holds : b.store.Holds interval now message.conversation state (some ⟨fields, touched⟩))
    (noted : Noted policy login code expires fields)
    (valid : Valid policy expires (b.instantAt now))
    (right : isRightCode policy code message.content = true)
    (accepted : (b.answer now (.enroll login (some message.user.id) Roles.user)).1 = .ok row) :
    Brings (Installation.answer now) (takeCode policy message) b
      (Enters interval now message login b) := by
  unfold takeCode
  obtain ⟨s₁, answered, holds⟩ := Installation.answer_getText holds noted.code
  refine brings_getText answered ?_
  obtain ⟨s₂, answered, holds⟩ :=
    Installation.answer_getText (b := { b with store := s₁ }) holds noted.login
  refine brings_getText answered ?_
  dsimp only
  refine brings_codeExpired (b := { b with store := s₂ }) holds noted valid
    fun s₃ touched' holds => ?_
  rw [if_neg Bool.false_ne_true, if_pos right]
  let b' := (b.answer now (.enroll login (some message.user.id) Roles.user)).2
  have entered : Installation.answer now { b with store := s₃ }
      (.enroll login (some message.user.id) Roles.user) = (.ok row, { b' with store := s₃ }) :=
    Prod.ext accepted rfl
  refine brings_enroll entered ?_
  obtain ⟨s₄, answered, holds⟩ :=
    Installation.answer_set (b := { b' with store := s₃ }) holds registered
  exact brings_store answered (brings_send rfl ⟨rfl, ⟨_, holds⟩, rfl⟩)

/-- A text that comes while a login is awaited leaves it awaited, or has a code issued. -/
theorem settles_login {policy : Policy} {quizUrl : Option String} (ours : b.policy = policy)
    {message : Message} {swept touched : Nat} {slot : Option (Stamped State)}
    {scratch : Option (Stamped (Table String String))} (text : message.command = none)
    (holds : b.store.Holds interval swept message.conversation slot scratch)
    (left : Memory.aged interval swept now slot = some ⟨awaitingLogin, touched⟩) :
    Brings (Installation.answer now) ((routes policy quizUrl).handle message) b fun _ b' =>
      Settles interval now policy message (b.instantAt now) b' :=
  brings_text text holds left rfl fun s' holds' =>
    settles_takeLogin (b := { b with store := s' }) ours holds'

/-- The right code that comes while its records are left has its sender entered. -/
theorem brings_rightCode {policy : Policy} (quizUrl : Option String) {message : Message}
    {login code : String} {expires : Instant} {swept issued : Nat} {fields : Table String String}
    {row : UserRecord} (text : message.command = none)
    (holds : b.store.Holds interval swept message.conversation (some ⟨awaitingCode, issued⟩)
      (some ⟨fields, issued⟩))
    (spares : Memory.Spares interval issued now)
    (noted : Noted policy login code expires fields)
    (valid : Valid policy expires (b.instantAt now))
    (right : isRightCode policy code message.content = true)
    (accepted : (b.answer now (.enroll login (some message.user.id) Roles.user)).1 = .ok row) :
    Brings (Installation.answer now) ((routes policy quizUrl).handle message) b
      (Enters interval now message login b) := by
  have state : Memory.aged interval swept now (some ⟨awaitingCode, issued⟩) = _ := spares.aged
  have scratch : Memory.aged interval swept now (some ⟨fields, issued⟩) = _ := spares.aged
  refine brings_text text holds state rfl fun s' holds' => ?_
  rw [scratch] at holds'
  exact brings_takeCode (b := { b with store := s' }) holds' noted valid right accepted

/-! ### The bot on its clock -/

/-- A text that comes while a login is awaited has a code issued for it, which is then awaited. -/
structure Issues (c : BotConfig) (m : EventLoop Installation) (v : Nat × Message) (code : String) :
    Prop where
  text : v.2.command = none
  awaited : (m.elapse c.setting v.1).stateOf v.2.conversation = .ok awaitingLogin
  moved : (m.visit c.setting v).2.stateOf v.2.conversation = .ok awaitingCode
  code : (m.visit c.setting v).2.fieldOf v.2.conversation codeField = .ok (some (.string code))

def yearOf (t : Instant) : Int := (Calendar.Date.ofDays (t.seconds / 86400)).year

variable {c : BotConfig} {origin : Instant} {m : EventLoop Installation}

/-- Once a code was issued, it is kept, and it is awaited. -/
theorem Issues.noted {v : Nat × Message} {code : String} (issues : Issues c m v code)
    (settled : m.Settled) (made : m.surroundings.Made c origin) :
    let m' := (m.visit c.setting v).2
    ∃ expires fields, m'.surroundings.store.Holds (1000 * c.store.sweepInterval) m'.now
        v.2.conversation (some ⟨awaitingCode, m'.now⟩) (some ⟨fields, m'.now⟩) ∧
      Drawn c.policy code ∧
      (m'.surroundings.instantAt m'.now).addSeconds? c.policy.validity = some expires ∧
      Noted c.policy (Text.trim v.2.content) code expires fields := by
  intro m'
  obtain ⟨text, awaited, moved, coded⟩ := issues
  obtain ⟨waited, unmoved⟩ : (m.elapse c.setting v.1).surroundings = m.surroundings ∧
      (m.elapse c.setting v.1).now = m.now + v.1 := (settled.elapse v.1).2
  obtain ⟨-, -, -, -, ran, arrived⟩ := settled.visit c.prompt_setting v
  change m'.surroundings = _ at ran
  change m'.now = _ at arrived
  obtain ⟨swept, contents, store⟩ := made.store
  have holds : m.surroundings.store.Holds (1000 * c.store.sweepInterval) swept v.2.conversation
      (contents.states.get? v.2.conversation) (contents.scratch.get? v.2.conversation) :=
    ⟨contents, store, rfl, rfl⟩
  obtain ⟨touched, left⟩ := left_of_stateOf (waited ▸ holds) awaited (by decide)
  rw [unmoved, ← arrived] at left
  have settles : Settles (1000 * c.store.sweepInterval) m'.now c.policy v.2
      (m.surroundings.instantAt m'.now) m'.surroundings := by
    rw [ran, ← arrived]
    exact settles_login made.policy text holds left
  have clock : m'.surroundings.instantAt m'.now = m.surroundings.instantAt m'.now := by
    refine Installation.instantAt_congr ?_
    rw [ran]
    exact (made.run _).origin.trans made.origin.symm
  rcases settles with ⟨scratch, holds⟩ | ⟨code', expires, fields, holds, drawn, expiry, noted⟩
  · have stays := stateOf_eq holds
    rw [Memory.aged_self] at stays
    rw [show m'.stateOf v.2.conversation = _ from moved] at stays
    have apart : awaitingCode ≠ awaitingLogin := by decide
    exact absurd (Except.ok.inj stays) apart
  · have same := fieldOf_eq holds noted.code
    rw [show m'.fieldOf v.2.conversation codeField = _ from coded] at same
    cases same
    exact ⟨expires, fields, holds, drawn, clock ▸ expiry, noted⟩

/-- The right code is honoured if it comes before its records are swept, while it is valid. -/
theorem honours_visit {v : Nat × Message} {login code : String} {expires : Instant}
    {swept issued : Nat} {fields : Table String String} {row : UserRecord} (settled : m.Settled)
    (text : v.2.command = none)
    (holds : m.surroundings.store.Holds (1000 * c.store.sweepInterval) swept v.2.conversation
      (some ⟨awaitingCode, issued⟩) (some ⟨fields, issued⟩))
    (spares : Memory.Spares (1000 * c.store.sweepInterval) issued (m.now + v.1))
    (noted : Noted c.policy login code expires fields)
    (valid : Valid c.policy expires (m.surroundings.instantAt (m.now + v.1)))
    (right : isRightCode c.policy code v.2.content = true)
    (accepted : (m.surroundings.answer (m.now + v.1)
      (.enroll login (some v.2.user.id) Roles.user)).1 = .ok row) :
    let m' := (m.visit c.setting v).2
    (m.visit c.setting v).1 = some (.ok ()) ∧ m'.stateOf v.2.conversation = .ok registered ∧
      m'.surroundings = { (m.surroundings.answer (m.now + v.1)
          (.enroll login (some v.2.user.id) Roles.user)).2 with
        store := m'.surroundings.store
        sent := .plain v.2.chat.id (completeText login) :: m.surroundings.sent } := by
  obtain ⟨outcome, ended, answered, -, ran, arrived⟩ := settled.visit c.prompt_setting v
  obtain ⟨done, ⟨scratch, kept⟩, after⟩ := brings_rightCode c.quizUrl text holds spares
    noted valid right accepted
  have told : outcomeOf v.2 (.done (.ok ())) = some outcome := by
    rw [← done]
    exact ended
  generalize m.visit c.setting v = visit at *
  obtain ⟨answer, m'⟩ := visit
  dsimp only at answered ran arrived ⊢
  have ran' : m'.surroundings = (((routes c.policy c.quizUrl).handle v.2).run.run
    (Installation.answer (m.now + v.1)) m.surroundings).2 := ran
  rw [← ran'] at kept after
  rw [← arrived] at kept
  have reads := stateOf_eq kept
  rw [Memory.aged_self] at reads
  exact ⟨answered.trans told.symm, reads, after⟩

/-- Messages of others leave the records of a conversation until they are swept. -/
theorem kept_after {key : Conversation} {swept issued : Nat} {fields : Table String String}
    {visits : List (Nat × Message)} {bound : Nat} (settled : m.Settled)
    (made : m.surroundings.Made c origin)
    (holds : m.surroundings.store.Holds (1000 * c.store.sweepInterval) swept key
      (some ⟨awaitingCode, issued⟩) (some ⟨fields, issued⟩))
    (alone : ∀ v ∈ visits, v.2.conversation ≠ key)
    (early : (m.after c.setting visits).now ≤ bound)
    (spares : Memory.Spares (1000 * c.store.sweepInterval) issued bound) :
    let b := (m.after c.setting visits).surroundings
    b.Made c origin ∧ ∃ swept, b.store.Holds (1000 * c.store.sweepInterval) swept key
      (some ⟨awaitingCode, issued⟩) (some ⟨fields, issued⟩) := by
  refine settled.after_keeps (P := fun b => b.Made c origin ∧ ∃ swept,
      b.store.Holds (1000 * c.store.sweepInterval) swept key (some ⟨awaitingCode, issued⟩)
        (some ⟨fields, issued⟩))
    c.prompt_setting visits ⟨made, swept, holds⟩ fun v mem now b' here ⟨made', kept⟩ => ?_
  have sooner : Memory.Spares (1000 * c.store.sweepInterval) issued now :=
    spares.mono (Nat.le_trans here early)
  exact ⟨made'.run _, Installation.holds_run (minds_routes c.policy c.quizUrl v.2) (alone v mem)
    sooner sooner kept⟩

/-- A code that was issued is honoured if it comes back while it is valid and before its records are
swept. A moment of expiry that is enforced has to have a year of four digits. -/
theorem code_honoured {c : BotConfig} {site : Site} {b : Installation}
    (memory : c.store.kind = .memory) (built : Installation.build c site = .ok b)
    (before between : List (Nat × Message))
    (login message : Nat × Message) {code : String} {row : UserRecord} :
    let key := login.2.conversation
    let m₀ := (start b).after c.setting before
    let m₁ := (m₀.visit c.setting login).2
    let m₂ := m₁.after c.setting between
    let m₃ := (m₂.visit c.setting message).2
    let interval := 1000 * c.store.sweepInterval
    let request := Request.enroll (Text.trim login.2.content) (some message.2.user.id) Roles.user
    Issues c m₀ login code → (∀ v ∈ between, v.2.conversation ≠ key) →
    message.2.conversation = key → Text.trim message.2.content = code →
    m₃.now ≤ m₁.now + 1000 * c.policy.validity →
    Memory.Spares interval m₁.now m₃.now →
    (c.policy.enforceExpiry = true → ∀ expires,
      (m₁.surroundings.instantAt m₁.now).addSeconds? c.policy.validity = some expires →
        0 ≤ yearOf expires ∧ yearOf expires ≤ 9999) →
    (m₂.surroundings.answer m₃.now request).1 = .ok row →
    m₁.fieldOf key loginField = .ok (some (.string (Text.trim login.2.content))) ∧
      (m₂.visit c.setting message).1 = some (.ok ()) ∧
        m₃.stateOf key = .ok registered ∧
          m₃.surroundings.users = (m₂.surroundings.answer m₃.now request).2.users ∧
            m₃.surroundings.entered = m₂.surroundings.entered + 1 := by
  intro key m₀ m₁ m₂ m₃ interval request issues alone own typed window spares years accepted
  have prompt := c.prompt_setting
  obtain ⟨settled₀, made₀⟩ : m₀.Settled ∧ m₀.surroundings.Made c site.origin :=
    made_after memory built before
  obtain ⟨-, -, -, settled₁, ran, -⟩ := settled₀.visit prompt login
  have made₁ : m₁.surroundings.Made c site.origin := ran ▸ made₀.run _
  obtain ⟨expires, fields, holds, ⟨length, digits⟩, expiry, noted⟩ :=
    issues.noted settled₀ made₀
  obtain ⟨settled₂, later⟩ := settled₁.after prompt between
  have arrived : m₃.now = m₂.now + message.1 := by
    obtain ⟨-, -, -, -, -, arrived⟩ := settled₂.visit prompt message
    exact arrived
  rw [arrived] at window spares accepted ⊢
  obtain ⟨made₂, swept, holds₂⟩ :=
    kept_after settled₁ made₁ holds alone (Nat.le_add_right _ _) spares
  have text : message.2.command = none := by
    rw [Message.command, commandName_eq_none (typed ▸ digits), Option.map_none]
  have right : isRightCode c.policy code message.2.content = true := by
    simp only [isRightCode, typed, length, decide_true, Bool.and_self]
  have valid : Valid c.policy expires (m₂.surroundings.instantAt (m₂.now + message.1)) := by
    refine ⟨Installation.not_before_instantAt (made₂.origin.trans made₁.origin.symm) expiry
      (Nat.le_trans later (Nat.le_add_right _ _)) window, fun enforced => ?_⟩
    rw [Rfc3339.readStrict_writeOffset]
    exact if_pos (years enforced expires expiry)
  rw [show login.2.conversation = _ from own.symm] at holds₂
  obtain ⟨answered, reads, entered⟩ :=
    honours_visit settled₂ text holds₂ spares noted valid right accepted
  refine ⟨fieldOf_eq holds noted.login, answered, own ▸ reads, ?_, ?_⟩
  · rw [show m₃.surroundings = _ from entered]
  · rw [show m₃.surroundings = _ from entered]
    rfl

/-! ### A bot of which hardly anything is set -/

/-- The settings of a bot of which a token, a table of users in memory and a policy are set. -/
def smallConfig (policy : Policy) : BotConfig where
  token := "token"
  apiUrl := none
  logFile := BotConfig.defaultLogFile
  databaseUrl := "sqlite::memory:"
  store := .default
  email := ⟨none, none, none, none⟩
  policy := policy
  quizUrl := none
  idleTimeout := BotConfig.defaultIdleTimeout

example : BotConfig.load (.ofList [("BOT_TOKEN", "token"), ("DATABASE_URL", "sqlite::memory:")])
    none = .ok (smallConfig .default) := by
  cbv

def smallSite (policy : Policy) : Site := .offline .epoch (.ofLists [] [] []) policy.codeLength

def smallBot (policy : Policy) : Installation where
  site := smallSite policy
  store := .memory 60000 0 .empty
  users := ⟨.empty, none, false⟩
  sender := .log
  policy := policy
  codes := 0
  entered := 0
  sent := []

theorem build_smallConfig (policy : Policy) :
    Installation.build (smallConfig policy) (smallSite policy) = .ok (smallBot policy) := by
  have location : Location.read "sqlite::memory:" = .ok ⟨none, false, false, none⟩ := by
    decide +kernel
  simp only [Installation.build, smallConfig, location]
  rfl

/-- A code that comes back after a minute is honoured, whatever others do meanwhile. -/
theorem code_honoured_after_a_minute :
    let message (user : Int64) (text : String) : Message :=
      ⟨text, ⟨user, none, none, none⟩, ⟨1, "private"⟩, text, .epoch⟩
    let policy : Policy := { Policy.default with enforceExpiry := true }
    let c := smallConfig policy
    let m₀ := (start (smallBot policy)).after c.setting [(0, message 7 "/register")]
    let m₁ := (m₀.visit c.setting (0, message 7 "ann")).2
    let m₂ := m₁.after c.setting [(30000, message 8 "/register")]
    let m₃ := (m₂.visit c.setting (30000, message 7 " 185296 ")).2
    m₃.stateOf ⟨1, 7⟩ = .ok registered ∧ m₃.surroundings.entered = 1 := by
  intro message policy c m₀ m₁ m₂ m₃
  have issues : Issues c m₀ (0, message 7 "ann") "185296" :=
    ⟨by decide +kernel, by decide +kernel, by decide +kernel, by decide +kernel⟩
  have others : ∀ v ∈ [(30000, message 8 "/register")], v.2.conversation ≠ ⟨1, 7⟩ := by decide
  have own : (message 7 " 185296 ").conversation = (message 7 "ann").conversation := by decide
  have typed : Text.trim (message 7 " 185296 ").content = "185296" := by decide +kernel
  have window : m₃.now ≤ m₁.now + 1000 * policy.validity := by decide +kernel
  have spares : Memory.Spares 60000 m₁.now m₃.now := by
    unfold Memory.Spares
    decide +kernel
  have years : c.policy.enforceExpiry = true → ∀ expires,
      (m₁.surroundings.instantAt m₁.now).addSeconds? c.policy.validity = some expires →
        0 ≤ yearOf expires ∧ yearOf expires ≤ 9999 := by
    have expiry : (m₁.surroundings.instantAt m₁.now).addSeconds? c.policy.validity =
        some ((smallBot policy).instantAt 1800000) := by decide +kernel
    intro _ expires found
    obtain rfl := Option.some.inj (expiry.symm.trans found)
    decide +kernel
  -- The login stays as it was typed here: to trim it is left to the kernel.
  let request := Request.enroll (Text.trim "ann") (some 7) Roles.user
  have accepts : (m₂.surroundings.answer m₃.now request).1.toOption.isSome = true := by
    decide +kernel
  have nobody : m₂.surroundings.entered = 0 := by decide +kernel
  cases accepted : (m₂.surroundings.answer m₃.now request).1 with
  | error e =>
      rw [accepted] at accepts
      cases accepts
  | ok row =>
      obtain ⟨-, -, reads, -, entered⟩ := code_honoured rfl (build_smallConfig policy)
        [(0, message 7 "/register")] [(30000, message 8 "/register")] (0, message 7 "ann")
        (30000, message 7 " 185296 ") issues others own typed window spares years accepted
      exact ⟨reads, entered.trans (congrArg (· + 1) nobody)⟩

/-- A code that comes back after three minutes is not honoured although it is valid for half an hour:
its records have been swept. -/
theorem code_forgotten_after_three_minutes :
    let message (text : String) : Message :=
      ⟨text, ⟨7, none, none, none⟩, ⟨1, "private"⟩, text, .epoch⟩
    let policy : Policy := .default
    let c := smallConfig policy
    let m₀ := (start (smallBot policy)).after c.setting [(0, message "/register")]
    let m₁ := (m₀.visit c.setting (0, message "ann")).2
    let m₂ := (m₁.visit c.setting (180000, message "185296")).2
    c.validate = .ok () ∧ c.store.kind = .memory ∧
      Installation.build c (smallSite policy) = .ok (smallBot policy) ∧
        Issues c m₀ (0, message "ann") "185296" ∧ m₂.now ≤ m₁.now + 1000 * policy.validity ∧
          (m₁.surroundings.answer m₂.now
            (.enroll "ann" (some 7) Roles.user)).1.toOption.isSome = true ∧
            m₂.stateOf ⟨1, 7⟩ = .ok .default ∧ m₂.surroundings.entered = 0 :=
  ⟨by decide +kernel, rfl, build_smallConfig .default,
    ⟨by decide +kernel, by decide +kernel, by decide +kernel, by decide +kernel⟩,
    by decide +kernel, by decide +kernel, by decide +kernel, by decide +kernel⟩

end Registration

end Registrar
