import Registrar.Email.Sender
import Registrar.Proofs.Dispatch.Outline
import Registrar.Proofs.Registration.Code
import Registrar.Proofs.Registration.StateMachine
import Registrar.Proofs.Users.History

/-!
Nobody can register under a blank login.

A login is trimmed when it is said, and stored unless nothing is left of it: so what is stored is
`Presentable`, and what is read back from the scratch field is what was stored. Whom an e-mail goes to
and under which login a user is entered comes from there, and neither is blank. The sender of e-mails
and the table of users look for blanks all the same; they cannot find any.

* `Presentable.recipient`: the address for a login that is not blank.
* `comes_awaitingLogin`, `presentable_of_noting`: a blank login is never stored.
* `Courteous.ask`: every request of a handler keeps up what is known of the stored login.
* `identities_never_blank`: what all of this comes to in every session.
-/

namespace Registrar

namespace Program

variable {α : Type} {job : Job} {p p' : Program α}

theorem Comes.begin_eq (comes : Comes job p [] p') : p' = p := by
  cases comes
  rfl

theorem Comes.ask_eq {e : Exchange} {course : List Exchange} (comes : Comes job p (e :: course) p') :
    ∃ next, Comes job p course (.ask e.request next) ∧ p' = next e.answer := by
  cases comes with
  | ask before a => exact ⟨_, before, rfl⟩

end Program

/-! ### The guards of the sender and of the table -/

theorem MailService.authorization_cases (s : MailService) :
    s.authorization = .error unmade ∨ ∃ value?, s.authorization = .ok value? := by
  unfold authorization
  split
  · exact .inr ⟨_, rfl⟩
  · split
    · exact .inr ⟨_, rfl⟩
    · exact .inl rfl

/-- If an address is visible, a request cannot be made only because of the service. -/
theorem MailService.prepare_eq_error {s : MailService} {mail : Email} {e : EmailError}
    (visible : Text.isBlank mail.recipient = false) (failed : s.prepare mail = .error e) :
    ∃ reason, e = .http reason := by
  unfold prepare at failed
  rw [visible, if_neg Bool.false_ne_true] at failed
  cases parsed : Url.parse s.url with
  | error fault =>
      rw [parsed] at failed
      cases failed
      exact ⟨_, rfl⟩
  | ok u =>
      rw [parsed] at failed
      cases host : namesHost u with
      | false =>
          simp only [host] at failed
          cases failed
          exact ⟨_, rfl⟩
      | true =>
          simp only [host, if_true] at failed
          rcases s.authorization_cases with key | ⟨value?, key⟩
          · rw [key] at failed
            cases failed
            exact ⟨_, rfl⟩
          · rw [key] at failed
            change (if _ then _ else _) = _ at failed
            split at failed
            · cases failed
              exact ⟨_, rfl⟩
            · cases failed

/-- A sender refuses the address of an e-mail only if it is blank. -/
theorem EmailSender.send_ne_invalidRecipient (sender : EmailSender) (web : Http.Web) {mail : Email}
    (visible : Text.isBlank mail.recipient = false) (address : String) :
    (sender.send web mail).2 ≠ .error (.invalidRecipient address) := by
  cases sender with
  | log => nofun
  | service s =>
      simp only [send, MailService.send]
      cases prepared : s.prepare mail with
      | error e =>
          obtain ⟨reason, rfl⟩ := MailService.prepare_eq_error visible prepared
          nofun
      | ok request =>
          simp only
          split
          · nofun
          · split
            · nofun
            · nofun

/-- The table of users refuses a login only if it is blank. -/
theorem Directory.enter_ne_invalid (d : Directory) (now : Instant) {given : UserRecord}
    (visible : Text.isBlank given.login = false) (reason : String) :
    (d.enter now given).1 ≠ .error (.invalid reason) := by
  rcases enter_cases d now given with ⟨blank, _⟩ | ⟨_, _, _, after⟩ | ⟨_, _, _, after⟩ |
    ⟨_, _, _, after⟩
  · rw [visible] at blank
    cases blank
  · rw [after]
    nofun
  · rw [after]
    nofun
  · rw [after]
    nofun

namespace Registration

/-- A login as it is stored: something of it is visible, and no white space is around it. -/
structure Presentable (login : String) : Prop where
  visible : Text.isBlank login = false
  trimmed : Text.trim login = login

theorem Presentable.trim {text : String} (something : Text.trim text ≠ "") :
    Presentable (Text.trim text) where
  visible := by
    rw [Bool.eq_false_iff, Ne, Text.isBlank_iff_trim, Text.trim_trim]
    exact something
  trimmed := Text.trim_trim text

/-- The address for a login is not blank, whatever domain is set. -/
theorem Presentable.recipient {login : String} (presentable : Presentable login) (policy : Policy) :
    Text.isBlank (policy.recipient login) = false := by
  unfold Policy.recipient
  split
  · split
    · exact presentable.visible
    · rw [Text.isBlank_append, Text.isBlank_append, presentable.visible]
      rfl
  · exact presentable.visible

variable {policy : Policy} {quizUrl : Option String} {job : Job} {course : List Exchange}
  {record record' : Record} {past : List Exchange}

/-! ### What is stored -/

theorem Noting.of_login {field text : String} (noting : Noting policy job course field text)
    (login : field = loginField) :
    course = [found job awaitingLogin] ∧ text = Text.trim job.message.content := by
  cases noting with
  | login start => exact ⟨start, rfl⟩
  | code | expiry => exact absurd login (by decide)

/-- A text that finds that a login is expected is taken for one. -/
theorem comes_awaitingLogin (text : job.message.command = none) {p : Work}
    (comes : ((routes policy quizUrl).handle job.message).run.Comes job [found job awaitingLogin] p) :
    p = (takeLogin policy job.message).run := by
  obtain ⟨next, before, rfl⟩ := comes.ask_eq
  have states : (routes policy quizUrl).handle job.message =
      (stateRoutes policy).handle job.message := by
    simp only [Routes.handle, Message.isCommand, text, Option.isSome_none]
    rfl
  have first := before.begin_eq
  rw [states] at first
  cases first
  rfl

/-- What is stored as a login is presentable. -/
theorem presentable_of_noting {c : Conversation} {v : Json}
    {next : (Request.store (.setData c loginField v)).Answer → Work}
    (comes : ((routes policy quizUrl).handle job.message).run.Comes job course
      (.ask (.store (.setData c loginField v)) next)) :
    ∃ login, v = .string login ∧ Presentable login := by
  obtain ⟨login, rfl, noting⟩ := (proper_of_comes comes).fitting
  obtain ⟨rfl, rfl⟩ := noting.of_login rfl
  refine ⟨_, rfl, .trim fun blank => ?_⟩
  have text : job.message.command = none := by
    rw [Message.command, commandName_eq_none (by simp [blank])]
    rfl
  have taken := comes_awaitingLogin text comes
  have refused : takeLogin policy job.message = reply job.message emptyLoginText := if_pos blank
  rw [refused] at taken
  cases taken

/-! ### What is read back -/

/-- What is stored as the login of a conversation, if anything is, is presentable. -/
def Decent (r : Record) : Prop := ∃ login, Presentable login ∧ r.Holds loginField login

theorem Decent.fades {r r' : Record} (decent : Decent r) (fades : r.Fades r') : Decent r' := by
  obtain ⟨login, presentable, holds⟩ := decent
  exact ⟨login, presentable, holds.fades fades⟩

/-- The stored login is presentable, and so is any that has been read. -/
structure Courteous (job : Job) (course : List Exchange) (story : Story) : Prop where
  decent : Decent story.record
  read {login : String} : readText job loginField (some login) ∈ course → Presentable login

/-- An exchange that leaves the stored login alone and does not read it. -/
theorem Courteous.idle (h : Courteous job course ⟨record, past⟩) {e : Exchange}
    (decent : Decent record') (other : ∀ login, e ≠ readText job loginField (some login)) :
    Courteous job (e :: course) ⟨record', e :: past⟩ := by
  refine ⟨decent, fun {login} mem => ?_⟩
  rcases List.mem_cons.mp mem with here | before
  · exact absurd here.symm (other login)
  · exact h.read before

/-- Every request of a handler keeps up what is known of the stored login. -/
theorem Courteous.ask (h : Courteous job course ⟨record, past⟩) {r : Request}
    {next : r.Answer → Work} {a : r.Answer}
    (comes : ((routes policy quizUrl).handle job.message).run.Comes job course (.ask r next))
    (told : Told record r a record') :
    Courteous job (⟨job, r, a⟩ :: course) ⟨record', ⟨job, r, a⟩ :: past⟩ := by
  obtain ⟨login, presentable, holds⟩ := h.decent
  cases told with
  | elsewhere a other =>
      refine h.idle h.decent fun _ same => ?_
      cases same
      exact other _ rfl
  | refused fault => exact h.idle h.decent nofun
  | @accepted call v answer =>
      cases call with
      | get => exact h.idle h.decent nofun
      | set | delete => exact h.idle ⟨login, presentable, holds.of_scratch rfl⟩ nofun
      | clearData => exact h.idle ⟨login, presentable, nofun⟩ nofun
      | getData c field =>
          refine ⟨h.decent, fun {read} mem => ?_⟩
          rcases List.mem_cons.mp mem with here | before
          · cases here
            obtain rfl := Json.string.inj (holds.value_eq _ answer)
            exact presentable
          · exact h.read before
      | setData c field value =>
          refine h.idle ?_ nofun
          by_cases its_own : field = loginField
          · subst its_own
            obtain ⟨given, rfl, presentable⟩ := presentable_of_noting comes
            exact ⟨given, presentable, .written record c loginField given⟩
          · exact ⟨login, presentable, holds.setData c value (Ne.symm its_own)⟩

/-- What is known of the stored logins of the conversations of the bot. -/
def courtesy (policy : Policy) (quizUrl : Option String) :
    Outline (routes policy quizUrl).handle where
  resting _ story := Decent story.record
  underway := Courteous
  resting_fades decent fades := decent.fades fades
  underway_fades h fades := ⟨h.decent.fades fades, h.read⟩
  start decent := ⟨decent, nofun⟩
  leave h := h.decent
  ask h comes told := h.ask comes told

theorem Courteous.enrolled {story : Story} (h : Courteous job course story) {login : String}
    (enrolling : Enrolling policy job course login) : Presentable login := by
  cases enrolling with
  | shown read => exact h.read (by simp [read])
  | again read => exact h.read (by simp [read])

theorem Posting.visible {mail : Email} (posting : Posting policy job course mail) :
    Text.isBlank mail.recipient = false := by
  cases posting with
  | letter timed nonblank => exact (Presentable.trim nonblank).recipient policy

/-- From an empty store, whatever messages come in whatever order, whatever domain is set, whatever
fails and whatever is evicted when:

Every login that is stored is presentable, and so is the one that a conversation's scratch fields
hold, if they hold one. No e-mail is handed over with a blank address, so that no sender refuses the
address, and no user is entered under a blank login, so that the table refuses no login. -/
theorem identities_never_blank (policy : Policy) (quizUrl : Option String) (moves : List Move) :
    let s := Session.run (routes policy quizUrl).handle .empty moves
    (∀ e ∈ s.exchanges, ∀ c v, e.request = .store (.setData c loginField v) →
      ∃ login, v = .string login ∧ Presentable login) ∧
    (∀ c text, (s.memory.record c).text? loginField = some text →
      ∃ login, text = (Json.string login).print ∧ Presentable login) ∧
    (∀ e ∈ s.exchanges, ∀ mail, e.request = .deliver mail →
      Text.isBlank mail.recipient = false ∧
      ∀ (sender : EmailSender) web address,
        (sender.send web mail).2 ≠ .error (.invalidRecipient address)) ∧
    ∀ e ∈ s.exchanges, ∀ login id roles, e.request = .enroll login id roles →
      Presentable login ∧
      ∀ (d : Directory) now (given : UserRecord) reason, given.login = login →
        (d.enter now given).1 ≠ .error (.invalid reason) := by
  intro s
  have outlined := Session.outlined_run (courtesy policy quizUrl) .empty moves
    (minds_routes policy quizUrl) fun c => ⟨"login", ⟨by decide, by decide⟩, nofun⟩
  have asked : ∀ e ∈ s.exchanges, ∃ story course next, Courteous e.job course story ∧
      ((routes policy quizUrl).handle e.job.message).run.Comes e.job course (.ask e.request next) := by
    intro e mem
    obtain ⟨later, earlier, split⟩ := List.append_of_mem mem
    obtain ⟨record, course, next, courteous, comes⟩ := outlined.asked split
    exact ⟨_, course, next, courteous, comes⟩
  refine ⟨?_, ?_, ?_, ?_⟩
  · rintro ⟨job, request, answer⟩ mem c v rfl
    obtain ⟨_, course, next, _, comes⟩ := asked _ mem
    exact presentable_of_noting comes
  · intro c text found
    obtain ⟨login, presentable, holds⟩ := outlined.resting c
    exact ⟨login, holds text found, presentable⟩
  · rintro ⟨job, request, answer⟩ mem mail rfl
    obtain ⟨_, course, next, _, comes⟩ := asked _ mem
    have posting : Posting policy job course mail := (proper_of_comes comes).fitting
    exact ⟨posting.visible, fun sender web => sender.send_ne_invalidRecipient web posting.visible⟩
  · rintro ⟨job, request, answer⟩ mem login id roles rfl
    obtain ⟨_, course, next, courteous, comes⟩ := asked _ mem
    obtain ⟨_, _, enrolling⟩ := (proper_of_comes comes).fitting
    have presentable := courteous.enrolled enrolling
    refine ⟨presentable, fun d now given reason same => ?_⟩
    exact d.enter_ne_invalid now (by rw [same]; exact presentable.visible) reason

end Registration

end Registrar
