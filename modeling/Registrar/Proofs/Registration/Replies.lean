import Registrar.Proofs.Dispatch.Replies
import Registrar.Proofs.Registration.Course

/-!
Every message that is handled with success gets one reply.

A handler sends one message at most, and that is the last thing that it does (`answering`): all that
comes before sends nothing (`Handling.Silent`), and if it fails, nothing has been sent. The message
goes to the chat from which the one that is answered came, and HTML is marked up in it only right after
the conversation came to await a code.

* `answers_routes`: whatever is answered, every handler goes by these rules.
* `one_reply_per_handled_message`: what a handler sends, and which replies a conversation gets in a
  session.
-/

namespace Registrar

/-! ### What sends nothing -/

/-- Whatever is answered, the program sends nothing, and its worker survives it. -/
def Program.Silent {α : Type} : Program α → Prop
  | done _ => True
  | panic => True
  | crash => False
  | ask r next => (∀ message, r ≠ .send message) ∧ ∀ a, (next a).Silent

theorem Program.Silent.bind {α β : Type} {p : Program α} {k : α → Program β} (first : p.Silent)
    (rest : ∀ a, (k a).Silent) : (p.bind k).Silent := by
  induction p with
  | done a => exact rest a
  | panic => trivial
  | crash => cases first
  | ask r next ih => exact ⟨first.1, fun a => ih a (first.2 a)⟩

namespace Handling

variable {α β : Type}

/-- Whatever is answered, nothing is sent. -/
def Silent (x : Handling α) : Prop := x.run.Silent

theorem Silent.bind {x : Handling α} {f : α → Handling β} (first : x.Silent)
    (rest : ∀ a, (f a).Silent) : (x >>= f).Silent := by
  refine Program.Silent.bind first fun result => ?_
  cases result with
  | ok a => exact rest a
  | error e => trivial

theorem silent_pure (a : α) : (Pure.pure a : Handling α).Silent := trivial

theorem silent_throw (e : BotError) : (throw e : Handling α).Silent := trivial

theorem silent_lift {p : Program α} (silent : p.Silent) :
    (ExceptT.lift p : Handling α).Silent := silent.bind fun _ => trivial

theorem silent_attempt {ε : Type} {refuse : ε → BotError} {p : Program (Except ε α)}
    (silent : p.Silent) : (attempt refuse p).Silent := silent.bind fun _ => trivial

theorem silent_store (call : StoreCall) : (store call).Silent :=
  silent_attempt ⟨nofun, fun _ => trivial⟩

theorem silent_clock : (ask .clock : Handling Instant).Silent :=
  silent_lift ⟨nofun, fun _ => trivial⟩

theorem silent_newCode : (attempt id (Program.request .newCode) : Handling String).Silent :=
  silent_attempt ⟨nofun, fun _ => trivial⟩

/-- A scratch field is read. -/
theorem silent_getAs (c : Conversation) (field : String) (read : Json → Except DecodeError α) :
    (c.getAs field read).Silent := by
  refine (silent_store _).bind fun v? => ?_
  cases v? with
  | none => exact silent_pure _
  | some v =>
      dsimp only
      split
      · exact silent_pure _
      · exact silent_throw _

end Handling

namespace Registration

open Handling

variable {policy : Policy} {job : Job} {course : List Exchange}

theorem silent_enroll {message : Message} {login : String} : (enroll message login).Silent :=
  silent_attempt ⟨nofun, fun _ => trivial⟩

theorem silent_sendCode {login code : String} {expires : Instant} :
    (sendCode policy login code expires).Silent := ⟨nofun, fun _ => ⟨nofun, fun _ => trivial⟩⟩

/-! ### How handlers answer -/

def Unanswered (course : List Exchange) : Prop := ∀ e ∈ course, e.outgoing? = none

/-- Nothing is asked after a message was sent. A message goes to the chat of the one that it answers,
and HTML is marked up in it only if a code has just come to be expected. Whoever succeeds has sent one
message, and whoever does not has sent none, unless the bot refused it. -/
def answering (job : Job) : Program.Rules Outcome where
  allows course r := Unanswered course ∧ ∀ message, r = .send message →
    message.chat = job.message.chat.id ∧ (message.parseMode = some .html →
      course.head? = some ⟨job, .store (.set job.message.conversation awaitingCode), .ok ()⟩)
  ends ending course := ending ≠ .crash ∧ ((∀ e ∈ course, e.Arrived) →
    (course.filterMap Exchange.outgoing?).length = ending.repliesDue)

/-- Begun before anything was sent, the handling keeps to the rules. -/
def Answers (job : Job) (x : Handling Unit) : Prop :=
  ∀ course, Unanswered course → Along job (answering job) x course

theorem Unanswered.ask (unanswered : Unanswered course) {r : Request}
    (other : ∀ message, r ≠ .send message) (a : r.Answer) : Unanswered (⟨job, r, a⟩ :: course) := by
  intro e mem
  rcases List.mem_cons.mp mem with rfl | mem
  · cases r with
    | send message => exact absurd rfl (other message)
    | _ => rfl
  · exact unanswered e mem

theorem Unanswered.filterMap_eq_nil (unanswered : Unanswered course) :
    course.filterMap Exchange.outgoing? = [] := List.filterMap_eq_nil_iff.mpr unanswered

/-- Whoever fails before anything was sent keeps to the rules. -/
theorem Unanswered.fails (unanswered : Unanswered course) (e : BotError) :
    (answering job).ends (.done (.error e)) course :=
  ⟨nofun, fun _ => congrArg List.length unanswered.filterMap_eq_nil⟩

theorem answers_throw (e : BotError) : Answers job (throw e) := fun _ unanswered =>
  unanswered.fails e

theorem answers_panic : Answers job Handling.panic := fun _ unanswered =>
  ⟨nofun, fun _ => congrArg List.length unanswered.filterMap_eq_nil⟩

/-- What sends nothing may come before. -/
theorem answers_after {α : Type} {x : Handling α} {f : α → Handling Unit} (silent : x.Silent)
    (rest : ∀ a, Answers job (f a)) : Answers job (x >>= f) := by
  intro course unanswered
  change Program.Along job (answering job) (x.run.bind _) course
  unfold Handling.Silent at silent
  generalize x.run = p at silent
  induction p generalizing course with
  | done result =>
      cases result with
      | ok a => exact rest a course unanswered
      | error e => exact unanswered.fails e
  | panic => exact answers_panic course unanswered
  | crash => cases silent
  | ask r next ih =>
      refine ⟨⟨unanswered, fun message same => absurd same (silent.1 message)⟩, fun a => ?_⟩
      exact ih a _ (unanswered.ask silent.1 a) (silent.2 a)

/-- A message is sent to the chat of the one that it answers. -/
theorem answers_send {message : Outgoing} (unanswered : Unanswered course)
    (chat : message.chat = job.message.chat.id) (html : message.parseMode = some .html →
      course.head? = some ⟨job, .store (.set job.message.conversation awaitingCode), .ok ()⟩) :
    Along job (answering job) (Handling.send message) course := by
  refine along_send ⟨unanswered, fun message' same => ?_⟩ fun a => ⟨nofun, fun arrived => ?_⟩
  · cases same
    exact ⟨chat, html⟩
  · have sent : a = .ok () := arrived _ List.mem_cons_self
    have one : List.filterMap Exchange.outgoing? (⟨job, .send message, a⟩ :: course) = [message] :=
      congrArg (message :: ·) unanswered.filterMap_eq_nil
    rw [one, sent]
    rfl

theorem answers_reply (text : String) : Answers job (reply job.message text) :=
  fun _ unanswered => answers_send unanswered rfl nofun

/-! ### Commands -/

theorem answers_beginRegistration : Answers job (beginRegistration job.message) :=
  answers_after (silent_store _) fun _ => answers_reply _

theorem answers_cancel : Answers job (cancel job.message) :=
  answers_after (silent_store _) fun _ => answers_after (silent_store _) fun _ => answers_reply _

theorem answers_offerQuiz (quizUrl : Option String) : Answers job (offerQuiz quizUrl job.message) := by
  unfold offerQuiz
  split
  · exact answers_reply _
  · exact fun course unanswered => answers_send unanswered rfl nofun

theorem answers_commands (quizUrl : Option String) :
    Answers job ((commandRoutes quizUrl).handle job.message) := by
  unfold CommandRoutes.handle
  split
  · exact answers_throw _
  · split
    · exact answers_throw _
    · rename_i handler found
      rcases commandRoutes_name found with ⟨_, _, rfl | rfl⟩ | ⟨rfl, rfl⟩ | ⟨rfl, rfl⟩
      · exact answers_reply _
      · exact answers_offerQuiz quizUrl
      · exact answers_beginRegistration
      · exact answers_cancel

/-! ### Texts -/

/-- Once a code is expected, that is said, with the address marked up. -/
theorem answers_expectCode (recipient : String) :
    Answers job (expectCode policy job.message recipient) := by
  intro course unanswered
  have other : ∀ message, Request.store (.set job.message.conversation awaitingCode) ≠ .send message :=
    fun _ same => by cases same
  refine along_store ⟨unanswered, fun message same => absurd same (other message)⟩
    (fun fault => ?_) fun v => ?_
  · exact Unanswered.fails (unanswered.ask other _) _
  · exact answers_send (unanswered.ask other _) rfl fun _ => rfl

/-- The code is sent, and then it is expected, unless that failed and holds the user back. -/
theorem answers_mailAndExpect (login code : String) (expires : Instant) :
    Answers job (mailAndExpect policy job.message login code expires) := by
  refine answers_after (silent_lift silent_sendCode) fun sent => ?_
  cases sent with
  | ok recipient => exact answers_expectCode recipient
  | error e =>
      dsimp only
      split
      · exact answers_reply _
      · exact answers_expectCode _

theorem answers_issueCode (login code : String) :
    Answers job (issueCode policy job.message login code) := by
  rw [issueCode_eq]
  split
  · exact answers_throw _
  · refine answers_after silent_clock fun now => ?_
    split
    · exact answers_panic
    · split
      · exact answers_after (silent_store _) fun _ => answers_mailAndExpect login code _
      · exact answers_mailAndExpect login code _

theorem answers_takeLogin : Answers job (takeLogin policy job.message) := by
  unfold takeLogin
  dsimp only
  split
  · exact answers_reply _
  · refine answers_after (silent_store _) fun _ => answers_after silent_newCode fun code => ?_
    exact answers_after (silent_store _) fun _ => answers_issueCode _ code

theorem answers_expireSession : Answers job (expireSession job.message) :=
  answers_after (silent_store _) fun _ => answers_reply _

theorem silent_codeExpired (c : Conversation) : (codeExpired policy c).Silent := by
  unfold codeExpired
  split
  · refine (silent_getAs c expiryField _).bind fun raw? => ?_
    cases raw? with
    | none => exact silent_pure _
    | some raw =>
        dsimp only
        split
        · exact silent_throw _
        · exact silent_clock.bind fun now => silent_pure _
  · exact silent_pure _

theorem answers_takeCode : Answers job (takeCode policy job.message) := by
  unfold takeCode
  refine answers_after (silent_getAs _ codeField _) fun expected? => ?_
  refine answers_after (silent_getAs _ loginField _) fun login? => ?_
  split
  · refine answers_after (silent_codeExpired _) fun late => ?_
    split
    · exact answers_after (silent_store _) fun _ => answers_reply _
    · split
      · refine answers_after silent_enroll fun _ => ?_
        exact answers_after (silent_store _) fun _ => answers_reply _
      · exact answers_reply _
  · exact answers_expireSession

theorem answers_greetRegistered : Answers job (greetRegistered job.message) := by
  unfold greetRegistered
  refine answers_after (silent_getAs _ loginField _) fun login? => ?_
  cases login? with
  | none => exact answers_expireSession
  | some login => exact answers_after silent_enroll fun _ => answers_reply _

theorem answers_states (policy : Policy) : Answers job ((stateRoutes policy).handle job.message) := by
  refine answers_after (silent_store _) fun state => ?_
  split
  · exact answers_throw _
  · rename_i handler found
    rcases stateRoutes_get? found with rfl | ⟨rfl, rfl⟩ | ⟨rfl, rfl⟩ | ⟨rfl, rfl⟩
    · exact answers_reply _
    · exact answers_takeLogin
    · exact answers_takeCode
    · exact answers_greetRegistered

/-- Whatever is answered, what is done about a message keeps to the rules. -/
theorem answers_routes (policy : Policy) (quizUrl : Option String) (job : Job) :
    Answers job ((routes policy quizUrl).handle job.message) := by
  unfold Routes.handle
  split
  · exact answers_commands quizUrl
  · exact answers_states policy

variable {quizUrl : Option String} {p : Work}

/-- So it does from its beginning. -/
theorem along_answering
    (comes : ((routes policy quizUrl).handle job.message).run.Comes job course p) :
    p.Along job (answering job) course ∧ ∀ later e earlier, course = later ++ e :: earlier →
      e.job = job ∧ (answering job).allows earlier e.request := by
  have begun : Unanswered [] := fun e mem => absurd mem List.not_mem_nil
  have along : ((routes policy quizUrl).handle job.message).run.Along job (answering job) [] :=
    answers_routes policy quizUrl job [] begun
  exact along.comes comes

theorem responsive_routes (policy : Policy) (quizUrl : Option String) :
    Responsive (routes policy quizUrl).handle where
  last comes := (along_answering comes).1.1.1
  ended comes ended := ((along_answering comes).1.ended ended).2

open Session

/-- Let the bot send whatever it is given.

Whatever the surroundings of a handler answer otherwise, it comes to an end that its worker survives;
if it succeeds, it has sent one message, and if it fails or breaks down, none. The message goes to the
chat of the one that is answered.

So in a session that begins with any store, whatever callers, workers and surroundings do, whatever
is evicted and whoever is killed, the replies to the messages of a conversation that were handled are
one for each that was handled with success, in this order. No message gets two replies, a message that
was not handled gets none unless it is at work or was lost, and there are no such replies once nobody
is at work for the conversation and none of its messages was lost. HTML is marked up only in a reply
before which, for the same message, the conversation has just come to await a code. -/
theorem one_reply_per_handled_message (policy : Policy) (quizUrl : Option String) :
    let route := (routes policy quizUrl).handle
    (∀ (σ : Type) (answer : σ → (r : Request) → r.Answer × σ) (s : σ) (job : Job),
      (∀ s message, (answer s (.send message)).1 = .ok ()) →
        let handled := (route job.message).run.run (Program.accounted job answer) (s, [])
        let sent := handled.2.2.filterMap Exchange.outgoing?
        handled.1 = ((route job.message).run.run answer s).1 ∧ handled.1 ≠ .crash ∧
          sent.length = handled.1.repliesDue ∧ ∀ message ∈ sent, message.chat = job.message.chat.id) ∧
    ∀ memory moves, (∀ move ∈ moves, move.Sends) → ∀ c,
      let s := Session.run route memory moves
      let replies := s.affairs.replies c
      (replies.map Prod.fst).filter (· ∈ s.affairs.handled) = s.affairs.succeeded c ∧
      (replies.map Prod.fst).Nodup ∧
      (∀ job message, (job, message) ∈ replies → message.chat = job.message.chat.id ∧
        (job ∈ s.affairs.succeeded c ∨ job ∈ s.affairs.losses ∨
          ∃ id p, s.affairs.working id = some (job, p))) ∧
      ((∀ job ∈ s.affairs.losses, job.message.conversation ≠ c) →
        (∀ id job p, s.affairs.working id = some (job, p) → job.message.conversation ≠ c) →
          replies.map Prod.fst = s.affairs.succeeded c) ∧
      ∀ later e earlier message, s.exchanges = later ++ e :: earlier → e.conversation = c →
        e.outgoing? = some message → message.parseMode = some .html →
          (about c earlier).head? = some ⟨e.job, .store (.set c awaitingCode), .ok ()⟩ := by
  intro route
  have responsive : Responsive route := responsive_routes policy quizUrl
  constructor
  · intro σ answer s job sends handled sent
    have begun : Program.Comes job (route job.message).run [] (route job.message).run := .begin
    obtain ⟨last, comes, ended⟩ := begun.run answer s
    obtain ⟨along, asked⟩ := along_answering comes
    obtain ⟨survives, due⟩ := along.ended ended
    refine ⟨(Program.run_accounted _ s []).1, survives,
      due (Program.arrived_of_run sends _ fun e mem => absurd mem List.not_mem_nil),
      fun message mem => ?_⟩
    obtain ⟨e, mem, sends⟩ := List.mem_filterMap.mp mem
    obtain ⟨later, earlier, split⟩ := List.append_of_mem mem
    obtain ⟨_, _, allowed⟩ := asked later e earlier split
    exact (allowed message (Exchange.outgoing?_eq_some.mp sends)).1
  · intro memory moves sends c s replies
    have recent := recent_run route memory moves
    have attributed := attributed_run route memory moves
    have inOrder := inOrder_run responsive memory sends c
    -- what was allowed when a message was sent in the session
    have allowed : ∀ {later e earlier message}, s.exchanges = later ++ e :: earlier →
        e.outgoing? = some message → message.chat = e.job.message.chat.id ∧
          (message.parseMode = some .html → (earlier.filter (·.job = e.job)).head? =
            some ⟨e.job, .store (.set e.conversation awaitingCode), .ok ()⟩) := by
      intro later e earlier message split sent
      obtain ⟨_, next, comes⟩ := recent.asked split
      exact (along_answering comes).1.1.2 message (Exchange.outgoing?_eq_some.mp sent)
    refine ⟨inOrder, nodup_replies responsive recent c, fun job message mem => ⟨?_, ?_⟩,
      inOrder.complete attributed, fun later e earlier message split own sent html => ?_⟩
    · obtain ⟨e, asked, _, rfl, sent⟩ := mem_replies.mp mem
      obtain ⟨later, earlier, split⟩ := List.append_of_mem asked
      exact (allowed split sent).1
    · exact inOrder.replied_cases attributed (List.mem_map_of_mem (f := Prod.fst) mem)
    · subst own
      obtain ⟨rest, latest⟩ := (recent.asked split).1
      rw [← latest, List.head?_append, (allowed split sent).2 html]
      rfl

/-- A user asks to register and says a login; the code that is said then cannot be looked up. There
are two replies, the second with HTML. -/
theorem one_reply_per_handled_message_store_fails :
    let message (text : String) : Message := ⟨text, ⟨7, none, none, none⟩, ⟨1, "private"⟩, text, .epoch⟩
    let chance (fault : Option StorageError) : Chance :=
      ⟨0, fault, .epoch, .ok "4711", .ok (), .error (.database ""), .ok ()⟩
    let policy : Policy := ⟨4, 60, false, false, none⟩
    let c : Conversation := ⟨1, 7⟩
    let moves : List Move :=
      [.call (message "/register"), .call (message "ann"), .call (message "4711"), .send 0 0,
        .send 0 1, .send 0 2, .start 0, .ask 0 (chance none), .ask 0 (chance none), .conclude 1 0,
        .start 0] ++
      List.replicate 9 (.ask 0 (chance none)) ++ [.conclude 2 0, .start 0,
        .ask 0 (chance (some (.backend "timeout"))), .conclude 3 0]
    (∀ move ∈ moves, move.Sends) ∧
      (Session.run (routes policy none).handle .empty moves).affairs.handled.length = 3 ∧
      ((Session.run (routes policy none).handle .empty moves).affairs.replies c).map Prod.fst =
        [⟨0, message "/register"⟩, ⟨1, message "ann"⟩] ∧
      ((Session.run (routes policy none).handle .empty moves).affairs.replies c).map (·.2.parseMode) =
        [none, some .html] := by
  intro message chance policy c moves
  have sends : ∀ move ∈ moves, move.Sends := by simp [moves, Move.Sends, chance]
  have handled :
      (Session.run (routes policy none).handle .empty moves).affairs.handled.length = 3 := by
    decide +kernel
  have succeeded : (Session.run (routes policy none).handle .empty moves).affairs.succeeded c =
      [⟨0, message "/register"⟩, ⟨1, message "ann"⟩] := by
    decide +kernel
  have unharmed :
      (Session.run (routes policy none).handle .empty moves).traffic.dispatcher.Unharmed c := by
    decide +kernel
  have finished :
      (Session.run (routes policy none).handle .empty moves).traffic.dispatcher.pending c = [] := by
    decide +kernel
  have marked : ((Session.run (routes policy none).handle .empty moves).affairs.replies c).map
      (·.2.parseMode) = [none, some .html] := by
    decide +kernel
  have kept : ∀ job ∈ (Session.run (routes policy none).handle .empty moves).affairs.losses,
      job.message.conversation ≠ c := not_lost unharmed
  have nobody : ∀ id job p,
      (Session.run (routes policy none).handle .empty moves).affairs.working id = some (job, p) →
        job.message.conversation ≠ c := fun _ _ _ => nobody_working finished
  obtain ⟨_, _, _, complete, _⟩ := (one_reply_per_handled_message policy none).2 .empty moves sends c
  exact ⟨sends, handled, (complete kept nobody).trans succeeded, marked⟩

end Registration

end Registrar
