import Registrar.Proofs.Handler.Course
import Registrar.Proofs.Registration.Authentication

/-!
The course of every handler of the bot.

A course is what has been asked and answered about one message so far, the latest first. Out of it
alone follows what may be asked next (`Fitting`), and whether the state is to be changed and how
(`Due`): a change is due after seven courses, and is asked for at once and at no other time.

* `Due.unique`: at most one change is due.
* `Due.after_nothing`, `Due.after_deliver`, `Due.after_read`, `Due.after_clock`, `Due.after_enroll`:
  the courses after which a change can be due, by what was asked last.
* `along_routes`, `proper_of_comes`: whatever is answered, every handler goes by these rules.
-/

namespace Registrar

namespace Registration

/-! ### What happens to a message -/

section Steps

variable (policy : Policy) (job : Job)

/-- The state was read, and is this one. -/
abbrev found (state : State) : Exchange :=
  ⟨job, .store (.get job.message.conversation), .ok state⟩

/-- A scratch field was read; it holds this text, or nothing. -/
abbrev readText (field : String) (text? : Option String) : Exchange :=
  ⟨job, .store (.getData job.message.conversation field), .ok (text?.map .string)⟩

abbrev wroteText (field text : String) : Exchange :=
  ⟨job, .store (.setData job.message.conversation field (.string text)), .ok ()⟩

/-- The login that the message says was stored, and so was a fresh code. -/
abbrev stored (code : String) : List Exchange :=
  [wroteText job codeField code, ⟨job, .newCode, .ok code⟩,
    wroteText job loginField (Text.trim job.message.content), found job awaitingLogin]

abbrev expiryNoted (expires : Instant) : List Exchange :=
  if policy.enforceExpiry then [wroteText job expiryField (Rfc3339.writeOffset expires)] else []

/-- A code was issued at a moment, and all of it is stored. -/
abbrev issuing (code : String) (issued expires : Instant) : List Exchange :=
  expiryNoted policy job expires ++ ⟨job, .clock, issued⟩ :: stored job code

/-- While a code was expected, the code and the login were read. -/
abbrev entered (code? login? : Option String) : List Exchange :=
  [readText job loginField login?, readText job codeField code?, found job awaitingCode]

/-- How it was found out that the code has not expired. -/
inductive InTime : List Exchange → Prop
  | unchecked (free : policy.enforceExpiry = false) : InTime []
  | unlimited (enforced : policy.enforceExpiry = true) : InTime [readText job expiryField none]
  | early (enforced : policy.enforceExpiry = true) {raw : String} {expires now : Instant}
      (read : Rfc3339.readStrict raw = .ok expires) (early : expires.before now = false) :
      InTime [⟨job, .clock, now⟩, readText job expiryField (some raw)]

/-- The course after which the state is to be changed, and by which call: a registration begins or is
called off, a code was sent, what was entered before is gone, a code has expired or is right, and the
login of someone registered is gone. -/
inductive Due (course : List Exchange) : StoreCall → Prop
  | register (history : course = []) (command : job.message.command = some "register") :
      Due course (.set job.message.conversation awaitingLogin)
  | cancel (history : course = []) (command : job.message.command = some "cancel") :
      Due course (.delete job.message.conversation)
  | codeSent {code : String} {issued expires now : Instant} {sent : Except EmailError Unit}
      (history : course =
        ⟨job, .deliver (letter policy (Text.trim job.message.content) code now expires), sent⟩ ::
          ⟨job, .clock, now⟩ :: issuing policy job code issued expires)
      (text : job.message.command = none) (nonblank : Text.trim job.message.content ≠ "")
      (expiry : issued.addSeconds? policy.validity = some expires)
      (accepted : policy.blockOnEmailFailure = true → sent = .ok ()) :
      Due course (.set job.message.conversation awaitingCode)
  | sessionGone {code? login? : Option String} (history : course = entered job code? login?)
      (text : job.message.command = none) (missing : code? = none ∨ login? = none) :
      Due course (.set job.message.conversation .default)
  | expired {code login raw : String} {expires now : Instant}
      (history : course = ⟨job, .clock, now⟩ :: readText job expiryField (some raw) ::
        entered job (some code) (some login))
      (text : job.message.command = none) (enforced : policy.enforceExpiry = true)
      (read : Rfc3339.readStrict raw = .ok expires) (late : expires.before now = true) :
      Due course (.set job.message.conversation awaitingLogin)
  | complete {code login : String} {check : List Exchange} {user : UserRecord}
      (history : course =
        ⟨job, .enroll login (some job.message.user.id) Roles.user, .ok user⟩ ::
          (check ++ entered job (some code) (some login)))
      (text : job.message.command = none) (inTime : InTime policy job check)
      (right : isRightCode policy code job.message.content = true) :
      Due course (.set job.message.conversation registered)
  | loginGone (history : course = [readText job loginField none, found job registered])
      (text : job.message.command = none) :
      Due course (.set job.message.conversation .default)

/-- The course after which a text is written to a scratch field. -/
inductive Noting (course : List Exchange) : String → String → Prop
  | login (start : course = [found job awaitingLogin]) :
      Noting course loginField (Text.trim job.message.content)
  | code {code : String} (drawn : course = [⟨job, .newCode, .ok code⟩,
      wroteText job loginField (Text.trim job.message.content), found job awaitingLogin]) :
      Noting course codeField code
  | expiry {code : String} {issued expires : Instant} (enforced : policy.enforceExpiry = true)
      (timed : course = ⟨job, .clock, issued⟩ :: stored job code)
      (expiry : issued.addSeconds? policy.validity = some expires) :
      Noting course expiryField (Rfc3339.writeOffset expires)

/-- The course after which an e-mail is handed to the sender: a code was issued for the login that the
message says. -/
inductive Posting (course : List Exchange) : Email → Prop
  | letter {code : String} {issued expires now : Instant}
      (timed : course = ⟨job, .clock, now⟩ :: issuing policy job code issued expires)
      (nonblank : Text.trim job.message.content ≠ "")
      (expiry : issued.addSeconds? policy.validity = some expires) :
      Posting course (letter policy (Text.trim job.message.content) code now expires)

/-- The course after which the sender is entered as a user. -/
inductive Enrolling (course : List Exchange) (login : String) : Prop
  | shown {code : String} {check : List Exchange}
      (read : course = check ++ entered job (some code) (some login))
      (inTime : InTime policy job check)
      (right : isRightCode policy code job.message.content = true)
  | again (read : course = [readText job loginField (some login), found job registered])

/-- The course after which a scratch field is read: the code and the login while a code is expected,
the moment of expiry if it matters, and the login of someone registered. -/
inductive Reading (course : List Exchange) : String → Prop
  | code (expected : course = [found job awaitingCode]) : Reading course codeField
  | login {code? : Option String}
      (read : course = [readText job codeField code?, found job awaitingCode]) :
      Reading course loginField
  | expiry {code login : String} (enforced : policy.enforceExpiry = true)
      (read : course = entered job (some code) (some login)) : Reading course expiryField
  | greeting (known : course = [found job registered]) : Reading course loginField

def Fitting (course : List Exchange) : Request → Prop
  | .store (.get _) => course = []
  | .store (.set c state) => Due policy job course (.set c state)
  | .store (.delete c) => Due policy job course (.delete c)
  | .store (.getData _ field) => Reading policy job course field
  | .store (.setData _ field v) => ∃ text, v = .string text ∧ Noting policy job course field text
  | .store (.clearData _) => course = [⟨job, .store (.delete job.message.conversation), .ok ()⟩]
  | .enroll login id roles =>
    id = some job.message.user.id ∧ roles = Roles.user ∧ Enrolling policy job course login
  | .clock => True
  | .newCode => True
  | .deliver mail => Posting policy job course mail
  | .send _ => True
  | _ => False

/-- What may be asked after a course. In particular the state is changed exactly when that is due. -/
structure Proper (course : List Exchange) (r : Request) : Prop where
  own (call : StoreCall) : r = .store call → call.conversation = job.message.conversation
  fitting : Fitting policy job course r
  due (call : StoreCall) : Due policy job course call → r = .store call

/-- The rules of the bot: a handler ends only when no change of the state is due, and its worker
survives it. -/
def rules : Program.Rules Outcome where
  allows := Proper policy job
  ends
    | .crash, _ => False
    | _, course => ∀ call, ¬ Due policy job course call

end Steps

variable {policy : Policy} {job : Job} {course : List Exchange}

/-! ### When nothing is due -/

/-- The request may be the last one before the state is changed. -/
def Decisive : Request → Prop
  | .store (.getData _ field) => field = loginField
  | .clock => True
  | .deliver _ => True
  | .enroll _ _ _ => True
  | _ => False

theorem Due.decisive {e : Exchange} {call : StoreCall} (due : Due policy job (e :: course) call) :
    Decisive e.request := by
  rcases due with ⟨history⟩ | ⟨history⟩ | ⟨history⟩ | ⟨history⟩ | ⟨history⟩ | ⟨history⟩ | ⟨history⟩ <;>
    cases history <;> trivial

theorem Due.unique {call call' : StoreCall} (due : Due policy job course call)
    (due' : Due policy job course call') : call = call' := by
  rcases due with ⟨h⟩ | ⟨h⟩ | ⟨h⟩ | ⟨h⟩ | ⟨h⟩ | ⟨h⟩ | ⟨h⟩ <;>
    rcases due' with ⟨h'⟩ | ⟨h'⟩ | ⟨h'⟩ | ⟨h'⟩ | ⟨h'⟩ | ⟨h'⟩ | ⟨h'⟩ <;>
      first
      | rfl
      | cases h.symm.trans h'; done
      | simp_all

/-- Nothing is due after an exchange that decides nothing. -/
theorem not_due {e : Exchange} (idle : ¬ Decisive e.request) (call : StoreCall) :
    ¬ Due policy job (e :: course) call := fun due => idle due.decisive

/-- At first only a command makes a change due. -/
theorem Due.after_nothing {call : StoreCall} (due : Due policy job [] call) :
    job.message.command = some "register" ∨ job.message.command = some "cancel" := by
  cases due with
  | register _ command => exact .inl command
  | cancel _ command => exact .inr command
  | codeSent history | sessionGone history | expired history | complete history
  | loginGone history => cases history

/-- After an e-mail a change is due only if it was accepted, or if failures do not matter. -/
theorem Due.after_deliver {mail : Email} {sent : Except EmailError Unit} {call : StoreCall}
    (due : Due policy job (⟨job, .deliver mail, sent⟩ :: course) call)
    (blocks : policy.blockOnEmailFailure = true) : sent = .ok () := by
  cases due with
  | codeSent history text nonblank expiry accepted =>
      injection history with first
      injection first with _ request answer
      cases request
      exact answer.trans (accepted blocks)
  | register history | cancel history | sessionGone history | expired history | complete history
  | loginGone history => cases history

/-- After a scratch field was read, a change is due only if something is missing. -/
theorem Due.after_read {c : Conversation} {field : String} {a : Except StorageError (Option Json)}
    {call : StoreCall} (due : Due policy job (⟨job, .store (.getData c field), a⟩ :: course) call) :
    (∃ code? login?, a = .ok (Option.map .string login?) ∧
      course = [readText job codeField code?, found job awaitingCode] ∧
        (code? = none ∨ login? = none)) ∨
    a = .ok none ∧ course = [found job registered] := by
  cases due with
  | @sessionGone code? login? history text missing =>
      injection history with first rest
      injection first with _ request answer
      cases request
      exact .inl ⟨code?, login?, answer, rest, missing⟩
  | loginGone history =>
      injection history with first rest
      injection first with _ request answer
      cases request
      exact .inr ⟨answer, rest⟩
  | register history | cancel history | codeSent history | expired history | complete history =>
      cases history

/-- After the clock was read, a change is due only if a code has expired. -/
theorem Due.after_clock {now : Instant} {call : StoreCall}
    (due : Due policy job (⟨job, .clock, now⟩ :: course) call) :
    ∃ code login raw expires, course = readText job expiryField (some raw) ::
        entered job (some code) (some login) ∧
      Rfc3339.readStrict raw = .ok expires ∧ expires.before now = true := by
  cases due with
  | @expired code login raw expires now history text enforced read late =>
      cases history
      exact ⟨code, login, raw, expires, rfl, read, late⟩
  | register history | cancel history | codeSent history | sessionGone history
  | complete history | loginGone history => cases history

/-- After the sender was entered, a change is due only if that was accepted, for the right code. -/
theorem Due.after_enroll {login : String} {id : Option Int64} {roles : Roles}
    {a : Except UsersError UserRecord} {call : StoreCall}
    (due : Due policy job (⟨job, .enroll login id roles, a⟩ :: course) call) :
    ∃ code check user, a = .ok user ∧ InTime policy job check ∧
      course = check ++ entered job (some code) (some login) := by
  cases due with
  | @complete code login check user history text inTime =>
      injection history with first rest
      injection first with _ request answer
      cases request
      exact ⟨code, check, user, answer, inTime, rest⟩
  | register history | cancel history | codeSent history | sessionGone history | expired history
  | loginGone history => cases history

/-! ### Commands -/

section Handlers

open Handling

/-- A request after which nothing is due yet. -/
theorem proper_idle {r : Request}
    (own : ∀ call, r = .store call → call.conversation = job.message.conversation)
    (fitting : Fitting policy job course r) (idle : ∀ call, ¬ Due policy job course call) :
    Proper policy job course r :=
  ⟨own, fitting, fun call due => absurd due (idle call)⟩

/-- The state is changed when that is due. -/
theorem along_change {call : StoreCall} (due : Due policy job course call)
    {rest : call.Result → Handling Unit}
    (after : ∀ v, Along job (rules policy job) (rest v) (⟨job, .store call, .ok v⟩ :: course)) :
    Along job (rules policy job) (Handling.store call >>= rest) course := by
  have fitting : Fitting policy job course (.store call) := by
    cases call with
    | set | delete => exact due
    | get | getData | setData | clearData => cases due
  refine along_store ⟨fun call' same => ?_, fitting, fun call' due' => ?_⟩
    (fun fault => not_due ?_) after
  · cases same
    cases due <;> rfl
  · rw [due.unique due']
  · cases due <;> exact id

theorem along_reply (message : Message) (text : String)
    (idle : ∀ call, ¬ Due policy job course call) :
    Along job (rules policy job) (reply message text) course :=
  along_send (proper_idle (fun _ same => by cases same) trivial idle) fun _ => not_due id

theorem along_beginRegistration (command : job.message.command = some "register") :
    Along job (rules policy job) (beginRegistration job.message) [] :=
  along_change (.register rfl command) fun _ => along_reply _ _ (not_due id)

theorem along_cancel (command : job.message.command = some "cancel") :
    Along job (rules policy job) (cancel job.message) [] := by
  refine along_change (.cancel rfl command) fun v => ?_
  refine along_store (proper_idle (fun _ same => by cases same; rfl) rfl (not_due id))
    (fun fault => not_due id) fun _ => along_reply _ _ (not_due id)

theorem along_offerQuiz (quizUrl : Option String) (idle : ∀ call, ¬ Due policy job course call) :
    Along job (rules policy job) (offerQuiz quizUrl job.message) course := by
  unfold offerQuiz
  split
  · exact along_reply _ _ idle
  · exact along_send (proper_idle (fun _ same => by cases same) trivial idle) fun _ => not_due id

/-! ### A login -/

/-- A scratch field is written. -/
theorem along_note {field text : String} {rest : Unit → Handling Unit}
    (noting : Noting policy job course field text) (idle : ∀ call, ¬ Due policy job course call)
    (after : Along job (rules policy job) (rest ()) (wroteText job field text :: course)) :
    Along job (rules policy job)
      (job.message.conversation.setData field (.string text) >>= rest) course :=
  along_store (proper_idle (fun _ same => by cases same; rfl) ⟨text, rfl, noting⟩ idle)
    (fun _ => not_due id) fun _ => after

theorem along_expectCode {recipient : String}
    (due : Due policy job course (.set job.message.conversation awaitingCode)) :
    Along job (rules policy job) (expectCode policy job.message recipient) course :=
  along_change due fun _ => along_send
    (proper_idle (fun _ same => by cases same) trivial (not_due id)) fun _ => not_due id

/-- The code is sent, and then it is expected, unless that failed and holds the user back. -/
theorem along_mailAndExpect {code : String} {issued expires : Instant}
    (text : job.message.command = none) (nonblank : Text.trim job.message.content ≠ "")
    (expiry : issued.addSeconds? policy.validity = some expires)
    (idle : ∀ call, ¬ Due policy job (issuing policy job code issued expires) call) :
    Along job (rules policy job)
      (mailAndExpect policy job.message (Text.trim job.message.content) code expires)
      (issuing policy job code issued expires) := by
  refine ⟨proper_idle (fun _ same => by cases same) trivial idle, fun now => ?_⟩
  refine ⟨proper_idle (fun _ same => by cases same) (.letter rfl nonblank expiry) fun call due => ?_,
    fun sent => ?_⟩
  · obtain ⟨_, _, _, _, history, _⟩ := due.after_clock
    simp only [issuing, expiryNoted] at history
    split at history <;> cases history
  · let mail := letter policy (Text.trim job.message.content) code now expires
    have due : (policy.blockOnEmailFailure = true → sent = .ok ()) →
        Due policy job (⟨job, .deliver mail, sent⟩ :: ⟨job, .clock, now⟩ ::
          issuing policy job code issued expires)
          (.set job.message.conversation awaitingCode) := fun accepted =>
      .codeSent rfl text nonblank expiry accepted
    cases sent with
    | ok u => exact along_expectCode (due fun _ => rfl)
    | error e =>
        change Along job (rules policy job) (if policy.blockOnEmailFailure then _ else _) _
        split
        · rename_i blocks
          refine along_reply _ _ fun call due => ?_
          cases due.after_deliver blocks
        · rename_i passes
          exact along_expectCode (due fun blocks => absurd blocks passes)

theorem along_takeLogin (text : job.message.command = none) :
    Along job (rules policy job) (takeLogin policy job.message) [found job awaitingLogin] := by
  unfold takeLogin
  dsimp only
  split
  · exact along_reply _ _ (not_due id)
  rename_i nonblank
  refine along_note (.login rfl) (not_due id) ?_
  refine along_newCode (proper_idle (fun _ same => by cases same) trivial (not_due id))
    (fun _ => not_due id) fun code => ?_
  refine along_note (.code rfl) (not_due id) ?_
  rw [issueCode_eq]
  split
  · exact along_throw (not_due id)
  refine along_clock (proper_idle (fun _ same => by cases same) trivial (not_due id))
    fun issued => ?_
  have idle : ∀ call, ¬ Due policy job (⟨job, .clock, issued⟩ :: stored job code) call := by
    intro call due
    obtain ⟨_, _, _, _, history, _⟩ := due.after_clock
    cases history
  split
  · exact idle
  rename_i expires expiry
  split
  · rename_i enforced
    have noted : wroteText job expiryField (Rfc3339.writeOffset expires) ::
        ⟨job, .clock, issued⟩ :: stored job code = issuing policy job code issued expires := by
      rw [issuing, expiryNoted, if_pos enforced]
      rfl
    refine along_note (.expiry enforced rfl expiry) idle ?_
    rw [noted]
    exact along_mailAndExpect text nonblank expiry fun _ due => not_due id _ (noted ▸ due)
  · rename_i free
    have noted : ⟨job, .clock, issued⟩ :: stored job code =
        issuing policy job code issued expires := by
      rw [issuing, expiryNoted, if_neg free]
      rfl
    rw [noted] at idle ⊢
    exact along_mailAndExpect text nonblank expiry idle

/-! ### A code -/

theorem along_expireSession
    (due : Due policy job course (.set job.message.conversation .default)) :
    Along job (rules policy job) (expireSession job.message) course :=
  along_change due fun _ => along_reply _ _ (not_due id)

/-- Nothing is due after a field that could not be read as a text. -/
theorem not_due_refused {c : Conversation} {field : String} {a : Except StorageError (Option Json)}
    (refused : ∀ text? : Option String, a ≠ .ok (text?.map .string)) (call : StoreCall) :
    ¬ Due policy job (⟨job, .store (.getData c field), a⟩ :: course) call := by
  intro due
  rcases due.after_read with ⟨_, login?, answer, _⟩ | ⟨answer, _⟩
  · exact refused login? answer
  · exact refused none answer

/-- A scratch field is read as a text. -/
theorem along_read {field : String} {rest : Option String → Handling Unit}
    (reading : Reading policy job course field) (idle : ∀ call, ¬ Due policy job course call)
    (after : ∀ text?,
      Along job (rules policy job) (rest text?) (readText job field text? :: course)) :
    Along job (rules policy job)
      (job.message.conversation.getAs field Decode.string >>= rest) course :=
  along_getText (proper_idle (fun _ same => by cases same; rfl) reading idle)
    (fun _ _ refused => not_due_refused refused) after

/-- Nothing is due yet if neither the code nor the login is missing. -/
theorem not_due_entered (code login : String) (call : StoreCall) :
    ¬ Due policy job (entered job (some code) (some login)) call := by
  intro due
  rcases due.after_read with ⟨_, _, answer, history, rfl | rfl⟩ | ⟨answer, _⟩
  · cases history
  · cases answer
  · cases answer

/-- The code is compared with the time if that matters. -/
theorem along_codeExpired {code login : String} {rest : Bool → Handling Unit}
    (early : ∀ check, InTime policy job check → Along job (rules policy job) (rest false)
      (check ++ entered job (some code) (some login)))
    (late : ∀ raw expires now, policy.enforceExpiry = true → Rfc3339.readStrict raw = .ok expires →
      expires.before now = true → Along job (rules policy job) (rest true)
        (⟨job, .clock, now⟩ :: readText job expiryField (some raw) ::
          entered job (some code) (some login))) :
    Along job (rules policy job) (codeExpired policy job.message.conversation >>= rest)
      (entered job (some code) (some login)) := by
  unfold codeExpired
  by_cases enforced : policy.enforceExpiry = true
  · rw [if_pos enforced, bind_assoc]
    refine along_read (.expiry enforced rfl) (not_due_entered code login) fun raw? => ?_
    have idle : ∀ call, ¬ Due policy job
        (readText job expiryField raw? :: entered job (some code) (some login)) call :=
      not_due (show ¬ expiryField = loginField by decide)
    cases raw? with
    | none => exact early _ (.unlimited enforced)
    | some raw =>
        cases read : Rfc3339.readStrict raw with
        | error fault =>
            simp only [read]
            exact idle
        | ok expires =>
            simp only [read, bind_assoc]
            refine along_clock (proper_idle (fun _ same => by cases same) trivial idle) fun now => ?_
            cases verdict : expires.before now with
            | true => exact late raw expires now enforced read verdict
            | false => exact early _ (.early enforced read verdict)
  · rw [if_neg enforced, pure_bind]
    exact early [] (.unchecked (Bool.eq_false_iff.mpr enforced))

/-- Nothing is due before the sender is entered. -/
theorem not_due_inTime {code login : String} {check : List Exchange}
    (inTime : InTime policy job check) (call : StoreCall) :
    ¬ Due policy job (check ++ entered job (some code) (some login)) call := by
  cases inTime with
  | unchecked free => exact not_due_entered code login call
  | unlimited enforced =>
      refine not_due ?_ call
      exact (by decide : ¬ expiryField = loginField)
  | early enforced read early =>
      intro due
      obtain ⟨_, _, _, _, history, read', late⟩ := due.after_clock
      cases history
      cases read.symm.trans read'
      cases early.symm.trans late

theorem along_enroll {login : String} {rest : UserRecord → Handling Unit}
    (enrolling : Enrolling policy job course login) (idle : ∀ call, ¬ Due policy job course call)
    (refused : ∀ fault call, ¬ Due policy job
      (⟨job, .enroll login (some job.message.user.id) Roles.user, .error fault⟩ :: course) call)
    (after : ∀ user, Along job (rules policy job) (rest user)
      (⟨job, .enroll login (some job.message.user.id) Roles.user, .ok user⟩ :: course)) :
    Along job (rules policy job) (enroll job.message login >>= rest) course := by
  refine ⟨proper_idle (fun _ same => by cases same) ⟨rfl, rfl, enrolling⟩ idle, fun a => ?_⟩
  cases a with
  | ok user => exact after user
  | error fault => exact refused fault

theorem along_takeCode (text : job.message.command = none) :
    Along job (rules policy job) (takeCode policy job.message) [found job awaitingCode] := by
  unfold takeCode
  refine along_read (.code rfl) (not_due id) fun code? => ?_
  refine along_read (.login rfl) (not_due (show ¬ codeField = loginField by decide)) fun login? => ?_
  cases code? with
  | none => exact along_expireSession (.sessionGone rfl text (.inl rfl))
  | some code =>
  cases login? with
  | none => exact along_expireSession (.sessionGone rfl text (.inr rfl))
  | some login =>
  refine along_codeExpired (fun check inTime => ?_) fun raw expires now enforced read late => ?_
  · rw [if_neg Bool.false_ne_true]
    split
    · rename_i right
      refine along_enroll (.shown rfl inTime right) (not_due_inTime inTime)
        (fun fault call due => ?_) fun user => ?_
      · obtain ⟨_, _, _, answer, _⟩ := due.after_enroll
        cases answer
      · exact along_change (.complete rfl text inTime right) fun _ => along_reply _ _ (not_due id)
    · exact along_reply _ _ (not_due_inTime inTime)
  · exact along_change (.expired rfl text enforced read late) fun _ => along_reply _ _ (not_due id)

theorem along_greetRegistered (text : job.message.command = none) :
    Along job (rules policy job) (greetRegistered job.message) [found job registered] := by
  unfold greetRegistered
  refine along_read (.greeting rfl) (not_due id) fun login? => ?_
  cases login? with
  | none => exact along_expireSession (.loginGone rfl text)
  | some login =>
  have idle : ∀ call,
      ¬ Due policy job [readText job loginField (some login), found job registered] call := by
    intro call due
    rcases due.after_read with ⟨_, _, _, history, _⟩ | ⟨answer, _⟩
    · cases history
    · cases answer
  have entered_again : ∀ a call, ¬ Due policy job
      [⟨job, .enroll login (some job.message.user.id) Roles.user, a⟩,
        readText job loginField (some login), found job registered] call := by
    intro a call due
    obtain ⟨_, _, _, _, inTime, history⟩ := due.after_enroll
    have length := congrArg List.length history
    cases inTime <;> simp at length
  exact along_enroll (.again rfl) idle (fun fault => entered_again _) fun user =>
    along_reply _ _ (entered_again _)

/-! ### All handlers -/

/-- What the commands are registered for. -/
theorem commandRoutes_name {quizUrl : Option String} {name : String} {handler : Handler}
    (found : (commandRoutes quizUrl).handlers.get? name = some handler) :
    (name ≠ "register" ∧ name ≠ "cancel" ∧ (handler = greet ∨ handler = offerQuiz quizUrl)) ∨
      (name = "register" ∧ handler = beginRegistration) ∨ (name = "cancel" ∧ handler = cancel) := by
  have bare : CommandRoutes.bareName "start" = "start" ∧ CommandRoutes.bareName "help" = "help" ∧
      CommandRoutes.bareName "register" = "register" ∧ CommandRoutes.bareName "quiz" = "quiz" ∧
        CommandRoutes.bareName "cancel" = "cancel" := by decide
  simp only [commandRoutes, CommandRoutes.register, CommandRoutes.empty, Table.get?_insert,
    Table.get?_empty, bare] at found
  repeat' split at found
  all_goals cases found
  all_goals simp_all

theorem along_commands (quizUrl : Option String) {name : String}
    (command : job.message.command = some name) :
    Along job (rules policy job) ((commandRoutes quizUrl).handle job.message) [] := by
  have idle : name ≠ "register" → name ≠ "cancel" → ∀ call, ¬ Due policy job [] call := by
    intro other other' call due
    rcases due.after_nothing with command' | command'
    · exact other (Option.some.inj (command.symm.trans command'))
    · exact other' (Option.some.inj (command.symm.trans command'))
  unfold CommandRoutes.handle
  simp only [command]
  split
  · rename_i missing
    refine idle ?_ ?_
    · rintro rfl
      cases missing
    · rintro rfl
      cases missing
  · rename_i handler found
    rcases commandRoutes_name found with ⟨other, other', rfl | rfl⟩ | ⟨rfl, rfl⟩ | ⟨rfl, rfl⟩
    · exact along_reply _ _ (idle other other')
    · exact along_offerQuiz quizUrl (idle other other')
    · exact along_beginRegistration command
    · exact along_cancel command

theorem along_states (text : job.message.command = none) :
    Along job (rules policy job) ((stateRoutes policy).handle job.message) [] := by
  have idle : ∀ call, ¬ Due policy job [] call := by
    intro call due
    rcases due.after_nothing with command | command <;> cases text.symm.trans command
  refine along_store (proper_idle (fun _ same => by cases same; rfl) rfl idle)
    (fun _ => not_due id) fun state => ?_
  split
  · exact not_due id
  · rename_i handler found
    rcases stateRoutes_get? found with rfl | ⟨rfl, rfl⟩ | ⟨rfl, rfl⟩ | ⟨rfl, rfl⟩
    · exact along_reply _ _ (not_due id)
    · exact along_takeLogin text
    · exact along_takeCode text
    · exact along_greetRegistered text

/-- Whatever is answered, what is done about a message goes by the rules. -/
theorem along_routes (policy : Policy) (quizUrl : Option String) (job : Job) :
    Along job (rules policy job) ((routes policy quizUrl).handle job.message) [] := by
  unfold Routes.handle Message.isCommand
  cases command : job.message.command with
  | none => exact along_states command
  | some name => exact along_commands quizUrl command

/-- Whatever has been answered, what is asked next is proper. -/
theorem proper_of_comes {quizUrl : Option String} {r : Request} {next : r.Answer → Program Outcome}
    (comes : ((routes policy quizUrl).handle job.message).run.Comes job course (.ask r next)) :
    Proper policy job course r := ((along_routes policy quizUrl job).comes comes).1.1

end Handlers

end Registration

end Registrar
