import Registrar.Proofs.Dispatch.Serial
import Registrar.Proofs.Registration.Window
import Registrar.Proofs.Store.Interchange
import Mathlib.Data.List.TakeWhile

/-!
A registration can always be completed.

Whatever a store holds for a conversation, three messages lead to a registration if nothing fails:
the command to register, a login, and the code that is sent for it. The first of them replaces the
state without looking at it, the second replaces the scratch fields that the third reads; so neither
a state that has no handler nor a field that cannot be read stands in the way.

* `Fortune`: surroundings in which nothing fails, on any store that keeps records.
* `Fortune.brings_register`, `Fortune.brings_login`, `Fortune.brings_code`: the three messages.
* `registration_reachable`: all of them, one after another.
-/

namespace Registrar

/-! ### The code as it is typed -/

namespace Text

theorem trimEnd_append {cs : List Char} (visible : ∀ c ∈ cs, isWhiteSpace c = false)
    {after : List Char} (blank : after.all isWhiteSpace = true) : trimEnd (cs ++ after) = cs := by
  induction cs with
  | nil => exact trimEnd_eq_nil_iff.mpr blank
  | cons c cs ih =>
      obtain ⟨here, visible⟩ := List.forall_mem_cons.mp visible
      rw [List.cons_append, trimEnd, ih visible]
      cases cs with
      | nil => exact if_neg (by rw [here]; exact Bool.false_ne_true)
      | cons d ds => rfl

/-- White space around a word is trimmed. -/
theorem trim_eq_of_toList {s word : String} {before after : List Char}
    (split : s.toList = before ++ word.toList ++ after)
    (blank : before.all isWhiteSpace = true) (blank' : after.all isWhiteSpace = true)
    (visible : ∀ c ∈ word.toList, isWhiteSpace c = false) : trim s = word := by
  have start : trimStart s.toList = trimStart (word.toList ++ after) := by
    rw [split, List.append_assoc, trimStart, trimStart,
      List.dropWhile_append_of_pos (List.all_eq_true.mp blank)]
  have stop : trimEnd (trimStart (word.toList ++ after)) = word.toList := by
    cases front : word.toList with
    | nil =>
        have nothing : trimStart after = [] := by
          rw [trimStart, List.dropWhile_eq_nil_iff]
          exact List.all_eq_true.mp blank'
        rw [List.nil_append, nothing]
        rfl
    | cons c cs =>
        rw [front] at visible
        have here : isWhiteSpace c = false := visible c List.mem_cons_self
        rw [List.cons_append, trimStart, List.dropWhile_cons_of_neg (by rw [here]; simp),
          ← List.cons_append]
        exact trimEnd_append visible blank'
  rw [trim, trimChars, start, stop, String.ofList_toList]

end Text

/-! ### A store that keeps records -/

section Store

variable {σ : Type} {perform : Nat → σ → (call : StoreCall) → call.Answer × σ}
  {shows : σ → Records → Prop} {store : σ} {c : Conversation} {r : Record}

def HoldsFor (shows : σ → Records → Prop) (store : σ) (c : Conversation) (r : Record) : Prop :=
  ∃ records, shows store records ∧ records c = r

/-- A call about a conversation is answered as its record says, and does to it what it says. -/
theorem Keeping.perform_own (keeping : Keeping perform shows) (holds : HoldsFor shows store c r)
    (now : Nat) {call : StoreCall} (own : call.conversation = c) :
    (perform now store call).1 = (r.perform call).1 ∧
      HoldsFor shows (perform now store call).2 c (r.perform call).2 := by
  obtain ⟨records, shown, rfl⟩ := holds
  subst own
  refine ⟨keeping.answer now call shown, _, keeping.after now call shown, ?_⟩
  rw [Records.perform_apply, if_pos rfl]

end Store

namespace Registration

/-- No validity is too long if there is a moment at which it is over. -/
theorem validity_le {policy : Policy} {issued expires : Instant}
    (expiry : issued.addSeconds? policy.validity = some expires) :
    policy.validity ≤ longestValidity := by
  have bound : longestValidity = 9223372036854775 := rfl
  have range : Instant.first = -8334601228800 ∧ Instant.last = 8210266876799 := by decide +kernel
  have first := issued.inRange.1
  have last := expires.inRange.2
  rcases Instant.addSeconds?_eq_some expiry with ⟨zero, _⟩ | ⟨_, seconds, _⟩ <;> omega

/-! ### The fields of a login -/

def withLogin (login code : String) (scratch : Option (Table String String)) :
    Table String String :=
  ((scratch.getD .empty).insert loginField (Json.string login).print).insert codeField
    (Json.string code).print

theorem withLogin_login (login code : String) (scratch : Option (Table String String)) :
    (withLogin login code scratch).get? loginField = some (Json.string login).print := by
  rw [withLogin, Table.get?_insert, if_neg (by decide), Table.get?_insert, if_pos rfl]

theorem withLogin_code (login code : String) (scratch : Option (Table String String)) :
    (withLogin login code scratch).get? codeField = some (Json.string code).print := by
  rw [withLogin, Table.get?_insert, if_pos rfl]

/-! ### Surroundings -/

/-- Surroundings in which nothing fails and nothing is evicted. The store is called at any times,
and the clock shows any moments, one after the other. What is sent and who is entered is kept, the
latest first. -/
structure Fortune (σ : Type) where
  store : σ
  times : Nat → Nat
  glances : Nat → Instant
  /-- The code that will be drawn. -/
  code : String
  /-- The row of whoever will be entered. -/
  row : UserRecord
  mailed : List Email
  entered : List (String × Option Int64 × Roles)

namespace Fortune

open Handling

variable {σ : Type} {perform : Nat → σ → (call : StoreCall) → call.Answer × σ}
  {shows : σ → Records → Prop}

/-- The same surroundings with a store that will be called at these times. -/
def withStore (s : Fortune σ) (store : σ) (times : Nat → Nat) : Fortune σ :=
  { s with
    store := store
    times := times }

def answer (perform : Nat → σ → (call : StoreCall) → call.Answer × σ) (s : Fortune σ) :
    (r : Request) → r.Answer × Fortune σ
  | .store call =>
    let (answer, store) := perform (s.times 0) s.store call
    (answer, s.withStore store fun n => s.times (n + 1))
  | .clock => (s.glances 0, { s with glances := fun n => s.glances (n + 1) })
  | .newCode => (.ok s.code, s)
  | .deliver mail => (.ok (), { s with mailed := mail :: s.mailed })
  | .enroll login id roles => (.ok s.row, { s with entered := (login, id, roles) :: s.entered })
  | .send _ => (.ok (), s)
  | .pause _ => ((), s)
  | .permit => ((), s)
  | .note _ => ((), s)

section Messages

variable (keeping : Keeping perform shows) {s : Fortune σ} {policy : Policy}
  {message : Message} {login code : String} {expires : Instant} {fields : Table String String}
  {state : Option State}

include keeping

/-- A call about a conversation is answered as its record says, and changes nothing but the
store. -/
theorem answer_store (call : StoreCall) {c : Conversation} {r : Record} {v : call.Result}
    (own : call.conversation = c) (holds : HoldsFor shows s.store c r)
    (answered : (r.perform call).1 = .ok v) :
    ∃ store t, s.answer perform (.store call) = (.ok v, s.withStore store t) ∧
      HoldsFor shows store c (r.perform call).2 := by
  obtain ⟨same, after⟩ := keeping.perform_own holds (s.times 0) own
  exact ⟨_, _, Prod.ext (same.trans answered) rfl, after⟩

/-- A text goes to the handler of the state that is stored. -/
theorem brings_text {quizUrl : Option String} (text : message.command = none) {state : State}
    {scratch : Option (Table String String)} {handler : Handler}
    {Q : Ending Outcome → Fortune σ → Prop}
    (holds : HoldsFor shows s.store message.conversation ⟨some state, scratch⟩)
    (found : (stateRoutes policy).handlers.get? state = some handler)
    (rest : ∀ store t, HoldsFor shows store message.conversation ⟨some state, scratch⟩ →
      Brings (answer perform) (handler message) (s.withStore store t) Q) :
    Brings (answer perform) ((routes policy quizUrl).handle message) s Q := by
  obtain ⟨store, t, answered, holds⟩ :=
    answer_store keeping (.get message.conversation) rfl holds rfl
  exact brings_state text answered found (rest store t holds)

/-! ### The command to register -/

/-- The command to register is followed in whatever state the conversation is. -/
theorem brings_register (policy : Policy) (quizUrl : Option String)
    (command : message.content = "/register") {r : Record}
    (holds : HoldsFor shows s.store message.conversation r) :
    Brings (answer perform) ((routes policy quizUrl).handle message) s fun ending s' =>
      ending = .done (.ok ()) ∧ ∃ store t, s' = s.withStore store t ∧
        HoldsFor shows store message.conversation ⟨some awaitingLogin, r.scratch⟩ := by
  have name : message.command = some "register" := by
    rw [Message.command, command]
    decide +kernel
  have found : (commandRoutes quizUrl).handlers.get? "register" = some beginRegistration := rfl
  have begun : (routes policy quizUrl).handle message = beginRegistration message := by
    simp only [Routes.handle, Message.isCommand, CommandRoutes.handle, routes, name, found]
    rfl
  obtain ⟨store, t, answered, holds⟩ :=
    answer_store keeping (.set message.conversation awaitingLogin) rfl holds rfl
  rw [begun]
  exact brings_store answered (brings_send rfl ⟨rfl, store, t, rfl, holds⟩)

/-! ### A login -/

/-- The e-mail is sent, and the code is expected from then on. -/
theorem brings_mailAndExpect
    (holds : HoldsFor shows s.store message.conversation ⟨state, some fields⟩) :
    Brings (answer perform) (mailAndExpect policy message login code expires) s fun ending s' =>
      ending = .done (.ok ()) ∧ ∃ store t,
        s' = { s.withStore store t with
          glances := fun n => s.glances (n + 1)
          mailed := letter policy login code (s.glances 0) expires :: s.mailed } ∧
        HoldsFor shows store message.conversation ⟨some awaitingCode, some fields⟩ := by
  refine brings_sendCode rfl rfl ?_
  let s' : Fortune σ := { s with
    glances := fun n => s.glances (n + 1)
    mailed := letter policy login code (s.glances 0) expires :: s.mailed }
  obtain ⟨store, t, answered, holds⟩ :=
    answer_store (s := s') keeping (.set message.conversation awaitingCode) rfl holds rfl
  exact brings_store answered (brings_send rfl ⟨rfl, store, t, rfl, holds⟩)

/-- A code is issued, and an e-mail is sent. -/
theorem brings_issueCode
    (holds : HoldsFor shows s.store message.conversation ⟨state, some fields⟩)
    (expiry : (s.glances 0).addSeconds? policy.validity = some expires)
    (known : fields.get? loginField = some (Json.string login).print)
    (stored : fields.get? codeField = some (Json.string code).print) :
    Brings (answer perform) (issueCode policy message login code) s fun ending s' =>
      ending = .done (.ok ()) ∧ ∃ store t fields,
        s' = { s.withStore store t with
          glances := fun n => s.glances (n + 2)
          mailed := letter policy login code (s.glances 1) expires :: s.mailed } ∧
        HoldsFor shows store message.conversation ⟨some awaitingCode, some fields⟩ ∧
        Noted policy login code expires fields := by
  rw [issueCode_eq, if_neg (Nat.not_lt.mpr (validity_le expiry))]
  refine brings_clock rfl ?_
  simp only [expiry]
  let s₁ : Fortune σ := { s with glances := fun n => s.glances (n + 1) }
  by_cases enforced : policy.enforceExpiry = true
  · rw [if_pos enforced]
    obtain ⟨store, t, answered, holds⟩ := answer_store (s := s₁) keeping
      (.setData message.conversation expiryField (.string (Rfc3339.writeOffset expires)))
      rfl holds rfl
    refine brings_store answered ?_
    obtain ⟨done, store', t', same, kept⟩ :=
      brings_mailAndExpect (s := s₁.withStore store t) keeping holds
    refine ⟨done, store', t', _, same, kept, ?_⟩
    constructor
    · rw [Option.getD_some, Table.get?_insert, if_neg (by decide), known]
    · rw [Option.getD_some, Table.get?_insert, if_neg (by decide), stored]
    · rw [Option.getD_some, Table.get?_insert, if_pos rfl]
      exact fun _ => rfl
  · rw [if_neg enforced]
    obtain ⟨done, store, t, same, kept⟩ := brings_mailAndExpect (s := s₁) keeping holds
    exact ⟨done, store, t, fields, same, kept, known, stored, fun on => absurd on enforced⟩

/-- A text that is not blank is stored as a login, and a code with it, whatever the scratch fields
were. -/
theorem brings_takeLogin (quizUrl : Option String) (text : message.command = none)
    (nonblank : Text.trim message.content ≠ "") {scratch : Option (Table String String)}
    {Q : Ending Outcome → Fortune σ → Prop}
    (holds : HoldsFor shows s.store message.conversation ⟨some awaitingLogin, scratch⟩)
    (rest : ∀ store t, HoldsFor shows store message.conversation
        ⟨some awaitingLogin, some (withLogin (Text.trim message.content) s.code scratch)⟩ →
      Brings (answer perform) (issueCode policy message (Text.trim message.content) s.code)
        (s.withStore store t) Q) :
    Brings (answer perform) ((routes policy quizUrl).handle message) s Q := by
  refine brings_text keeping text holds rfl fun store t holds => ?_
  unfold takeLogin
  extract_lets login
  rw [if_neg nonblank]
  obtain ⟨store, t, answered, holds⟩ := answer_store (s := s.withStore store t) keeping
    (.setData message.conversation loginField (.string login)) rfl holds rfl
  refine brings_store answered (brings_newCode rfl (fun e refused => by cases refused) ?_)
  rintro code ⟨⟩
  obtain ⟨store, t, answered, holds⟩ := answer_store (s := s.withStore store t) keeping
    (.setData message.conversation codeField (.string s.code)) rfl holds rfl
  exact brings_store answered (rest store t holds)

/-- A text that is not blank is taken for a login, and a code is sent for it, whatever the scratch
fields were. -/
theorem brings_login (quizUrl : Option String) (text : message.command = none)
    (nonblank : Text.trim message.content ≠ "") {scratch : Option (Table String String)}
    (holds : HoldsFor shows s.store message.conversation ⟨some awaitingLogin, scratch⟩)
    (expiry : (s.glances 0).addSeconds? policy.validity = some expires) :
    Brings (answer perform) ((routes policy quizUrl).handle message) s fun ending s' =>
      ending = .done (.ok ()) ∧ ∃ store t fields,
        s' = { s.withStore store t with
          glances := fun n => s.glances (n + 2)
          mailed := letter policy (Text.trim message.content) s.code (s.glances 1) expires ::
            s.mailed } ∧
        HoldsFor shows store message.conversation ⟨some awaitingCode, some fields⟩ ∧
        Noted policy (Text.trim message.content) s.code expires fields := by
  refine brings_takeLogin keeping quizUrl text nonblank holds fun store t holds => ?_
  exact brings_issueCode (s := s.withStore store t) keeping holds expiry
    (withLogin_login ..) (withLogin_code ..)

/-! ### The code -/

/-- A field that holds a text is read. -/
theorem answer_getText {field text : String} {c : Conversation}
    (holds : HoldsFor shows s.store c ⟨state, some fields⟩)
    (known : fields.get? field = some (Json.string text).print) :
    ∃ store t, s.answer perform (.store (.getData c field)) =
        (.ok ((some text).map .string), s.withStore store t) ∧
      HoldsFor shows store c ⟨state, some fields⟩ :=
  answer_store keeping (.getData c field) rfl holds (Record.perform_getText c known)

/-- A code that has not expired is found not to have expired. -/
theorem brings_codeExpired {c : Conversation} {f : Bool → Handling Unit}
    {Q : Ending Outcome → Fortune σ → Prop}
    (holds : HoldsFor shows s.store c ⟨state, some fields⟩)
    (noted : Noted policy login code expires fields)
    (valid : policy.enforceExpiry = true → Valid policy expires (s.glances 0))
    (rest : ∀ store t glances, HoldsFor shows store c ⟨state, some fields⟩ →
      Brings (answer perform) (f false) { s.withStore store t with glances := glances } Q) :
    Brings (answer perform) (codeExpired policy c >>= f) s Q := by
  by_cases enforced : policy.enforceExpiry = true
  · obtain ⟨inTime, readable⟩ := valid enforced
    obtain ⟨store, t, answered, holds⟩ := answer_getText keeping holds (noted.expiry enforced)
    exact brings_notExpired enforced answered (readable enforced) rfl inTime (rest store t _ holds)
  · rw [codeExpired, if_neg enforced]
    exact rest s.store s.times s.glances holds

/-- The code that is expected completes the registration, if it comes in time. -/
theorem brings_code (quizUrl : Option String) (text : message.command = none)
    (holds : HoldsFor shows s.store message.conversation ⟨some awaitingCode, some fields⟩)
    (noted : Noted policy login code expires fields)
    (valid : policy.enforceExpiry = true → Valid policy expires (s.glances 0))
    (right : isRightCode policy code message.content = true) :
    Brings (answer perform) ((routes policy quizUrl).handle message) s fun ending s' =>
      ending = .done (.ok ()) ∧
        HoldsFor shows s'.store message.conversation ⟨some registered, some fields⟩ ∧
        s'.mailed = s.mailed ∧
        s'.entered = (login, some message.user.id, Roles.user) :: s.entered := by
  refine brings_text keeping text holds rfl fun store t holds => ?_
  unfold takeCode
  obtain ⟨store, t, answered, holds⟩ :=
    answer_getText (s := s.withStore store t) keeping holds noted.code
  refine brings_getText answered ?_
  obtain ⟨store, t, answered, holds⟩ :=
    answer_getText (s := s.withStore store t) keeping holds noted.login
  refine brings_getText answered ?_
  refine brings_codeExpired (s := s.withStore store t) keeping holds noted valid
    fun store t glances holds => ?_
  rw [if_neg Bool.false_ne_true, if_pos right]
  let s₁ : Fortune σ := { s.withStore store t with glances := glances }
  let s₂ : Fortune σ := { s₁ with
    entered := (login, some message.user.id, Roles.user) :: s.entered }
  have entered : s₁.answer perform (.enroll login (some message.user.id) Roles.user) =
      (.ok s.row, s₂) := rfl
  refine brings_enroll entered ?_
  obtain ⟨store, t, answered, holds⟩ := answer_store (s := s₂) keeping
    (.set message.conversation registered) rfl holds rfl
  exact brings_store answered (brings_send rfl ⟨rfl, holds, rfl, rfl⟩)

end Messages

end Fortune

/-! ### All three -/

/-- A message that is handled without trouble is followed by the next. -/
theorem serve_cons_ok {σ : Type} {route : Handler} {answer : σ → (r : Request) → r.Answer × σ}
    {message : Message} {s s' : σ} (ran : (route message).run.run answer s = (.done (.ok ()), s'))
    (rest : List Message) :
    serve route answer (message :: rest) s =
      (some (.ok ()) :: (serve route answer rest s').1, (serve route answer rest s').2) := by
  rw [serve, ran]
  rfl

/-- A code that is typed with white space around it is no command, and right. -/
theorem Drawn.typed {policy : Policy} {code : String} (drawn : Drawn policy code)
    {message : Message} {before after : List Char}
    (split : message.content.toList = before ++ code.toList ++ after)
    (blank : before.all Text.isWhiteSpace = true) (blank' : after.all Text.isWhiteSpace = true) :
    message.command = none ∧ isRightCode policy code message.content = true := by
  obtain ⟨length, digits⟩ := drawn
  have trimmed : Text.trim message.content = code := Text.trim_eq_of_toList split blank blank'
    fun d mem => Text.not_isWhiteSpace_of_isDigit (digits d mem)
  constructor
  · rw [Message.command, commandName_eq_none (trimmed ▸ digits), Option.map_none]
  · simp only [isRightCode, trimmed, length, decide_true, Bool.and_self]

/-- From 1970 on years are not negative. -/
theorem yearOf_nonneg {t : Instant} (since : 0 ≤ t.seconds) : 0 ≤ yearOf t := by
  have era : 0 ≤ (t.seconds / 86400 + 719468) / 146097 := by omega
  have year := Calendar.yearOfCycle_bounds
    (n := (t.seconds / 86400 + 719468) % 146097) (by omega)
  rw [yearOf, Calendar.Date.ofDays_eq, Calendar.Date.ofMarch]
  dsimp only
  split <;> omega

/-- A moment of expiry that has not passed can be read back, from 1970 on until the year 9999. -/
theorem valid_of_year {policy : Policy} {issued expires now : Instant}
    (expiry : issued.addSeconds? policy.validity = some expires) (since : 0 ≤ issued.seconds)
    (year : yearOf expires ≤ 9999) (inTime : expires.before now = false) :
    Valid policy expires now := by
  refine ⟨inTime, fun _ => ?_⟩
  have later : 0 ≤ expires.seconds := by
    rcases Instant.addSeconds?_eq_some expiry with ⟨_, rfl⟩ | ⟨_, seconds, _⟩ <;> omega
  rw [Rfc3339.readStrict_writeOffset]
  exact if_pos ⟨yearOf_nonneg later, year⟩

/-- Whatever a store holds for a conversation, a state without a handler and fields that cannot be
read included, and whatever the policy is, a registration takes three messages if nothing fails and
nothing is evicted: the command to register, any text that is neither blank nor a command, and the
code that is drawn, with any white space around it. They are all handled without an error. In the
end the user is registered, the login is kept, one e-mail with the code has gone to the address for
the login, and the sender was entered once. The store may be the one in memory (`Memory.keeping`) or
one on a server (`Redis.Store.keeping`).

The clock is read when the code is issued, when the e-mail is written, and, if expiry is enforced,
when the code comes back. It never shows a moment before 1970. There has to be a moment at which the
code expires, and if that is enforced, it has a year that can be read back and is not over when the
code comes. -/
theorem registration_reachable {σ : Type}
    {perform : Nat → σ → (call : StoreCall) → call.Answer × σ} {shows : σ → Records → Prop}
    (keeping : Keeping perform shows) (policy : Policy) (quizUrl : Option String) (store : σ)
    (records : Records) (times : Nat → Nat) (glances : Nat → Instant) (code : String)
    (row : UserRecord) (expires : Instant) (begin login proof : Message)
    (before after : List Char) :
    let c := begin.conversation
    let name := Text.trim login.content
    let served := serve (routes policy quizUrl).handle (Fortune.answer perform)
      [begin, login, proof] ⟨store, times, glances, code, row, [], []⟩
    shows store records →
    begin.content = "/register" →
    login.conversation = c → login.command = none → name ≠ "" →
    Drawn policy code →
    proof.conversation = c → proof.content.toList = before ++ code.toList ++ after →
    before.all Text.isWhiteSpace = true → after.all Text.isWhiteSpace = true →
    0 ≤ (glances 0).seconds → (glances 0).addSeconds? policy.validity = some expires →
    (policy.enforceExpiry = true → yearOf expires ≤ 9999 ∧ expires.before (glances 2) = false) →
    served.1 = [some (.ok ()), some (.ok ()), some (.ok ())] ∧
      (∀ now, (perform now served.2.store (.get c)).1 = .ok registered ∧
        (perform now served.2.store (.getData c loginField)).1 = .ok (some (.string name))) ∧
      (∃ mail, served.2.mailed = [mail] ∧ Carries policy name code mail) ∧
      served.2.entered = [(name, some proof.user.id, Roles.user)] := by
  intro c name served shown command own text nonblank drawn own' split blank blank' since expiry
    timely
  obtain ⟨text', right⟩ := drawn.typed split blank blank'
  have valid : policy.enforceExpiry = true → Valid policy expires (glances 2) := fun enforced =>
    valid_of_year expiry since (timely enforced).1 (timely enforced).2
  let s₀ : Fortune σ := ⟨store, times, glances, code, row, [], []⟩
  have holds : HoldsFor shows s₀.store c (records c) := ⟨records, shown, rfl⟩
  obtain ⟨done₁, store₁, t₁, same₁, holds⟩ :=
    Fortune.brings_register keeping policy quizUrl command holds
  let s₁ : Fortune σ := s₀.withStore store₁ t₁
  have holds : HoldsFor shows s₁.store login.conversation
      ⟨some awaitingLogin, (records c).scratch⟩ := by
    rw [own]
    exact holds
  obtain ⟨done₂, store₂, t₂, fields, same₂, holds, noted⟩ :=
    Fortune.brings_login keeping quizUrl text nonblank holds expiry
  let s₂ : Fortune σ := { s₁.withStore store₂ t₂ with
    glances := fun n => glances (n + 2)
    mailed := [letter policy name code (glances 1) expires] }
  have holds : HoldsFor shows s₂.store proof.conversation ⟨some awaitingCode, some fields⟩ := by
    rw [own', ← own]
    exact holds
  obtain ⟨done₃, holds, mailed, entered⟩ :=
    Fortune.brings_code keeping quizUrl text' holds noted valid right
  let run (message : Message) (s : Fortune σ) :=
    ((routes policy quizUrl).handle message).run.run (Fortune.answer perform) s
  let s₃ := (run proof s₂).2
  have ran : served = ([some (.ok ()), some (.ok ()), some (.ok ())], s₃) := by
    have first : run begin s₀ = (_, s₁) := Prod.ext done₁ same₁
    have second : run login s₁ = (_, s₂) := Prod.ext done₂ same₂
    have third : run proof s₂ = (_, s₃) := Prod.ext done₃ rfl
    unfold served
    rw [serve_cons_ok first, serve_cons_ok second, serve_cons_ok third]
    rfl
  rw [ran]
  rw [own'] at holds
  refine ⟨rfl, fun now => ⟨?_, ?_⟩, ?_, entered⟩
  · exact (keeping.perform_own holds now rfl).1
  · exact (keeping.perform_own holds now rfl).1.trans (Record.perform_getText c noted.login)
  · exact ⟨_, mailed, rfl, List.mem_cons_self⟩

/-- A state that nobody handles and fields that are no texts, or not even JSON, do not stand in the
way, and the code may come in the very moment in which it expires. -/
theorem registration_reachable_from_leftovers :
    let message (text : String) : Message :=
      ⟨text, ⟨7, none, none, none⟩, ⟨1, "private"⟩, text, .epoch⟩
    let store : Memory :=
      ⟨.ofList [(⟨1, 7⟩, ⟨⟨"awaiting_phone"⟩, 0⟩)],
        .ofList [(⟨1, 7⟩, ⟨.ofList [("login", "17"), ("code", "["), ("expires_at", "true")], 0⟩)]⟩
    let policy : Policy := { Policy.default with enforceExpiry := true }
    let expires : Instant := ⟨1800, 0, by decide, .inl (by decide)⟩
    let served := serve (routes policy none).handle (Fortune.answer Memory.perform)
      [message "/register", message "ann ", message " 185296 "]
      ⟨store, fun n => n, fun n => if n = 2 then expires else .epoch, "185296",
        ⟨"1", "ann", some 7, Roles.user, .epoch, .epoch⟩, [], []⟩
    served.1 = [some (.ok ()), some (.ok ()), some (.ok ())] ∧
      (∃ mail, served.2.mailed = [mail] ∧ Carries policy "ann" "185296" mail) ∧
      served.2.entered = [("ann", some 7, Roles.user)] := by
  intro message store policy expires served
  have trimmed : Text.trim (message "ann ").content = "ann" := by decide +kernel
  have drawn : Drawn policy "185296" := ⟨rfl, by simp⟩
  obtain ⟨outcomes, -, mailed, entered⟩ := registration_reachable Memory.keeping policy none store
    store.record (fun n => n) (fun n => if n = 2 then expires else .epoch) "185296"
    ⟨"1", "ann", some 7, Roles.user, .epoch, .epoch⟩ expires (message "/register") (message "ann ")
    (message " 185296 ") [' '] [' '] (fun _ => rfl) rfl rfl (by decide +kernel)
    (by rw [trimmed]; decide) drawn rfl (by decide +kernel) (by decide) (by decide) (by decide)
    (by decide +kernel) (fun _ => by decide +kernel)
  rw [trimmed] at mailed entered
  exact ⟨outcomes, mailed, entered⟩

end Registration

end Registrar
