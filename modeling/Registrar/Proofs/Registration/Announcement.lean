import Registrar.Proofs.Chat.Markup
import Registrar.Proofs.Registration.Replies

/-!
What the sender of a login is told.

Taking a login tells of a code twice: by the e-mail that carries it and by the reply, the only one in
which HTML is marked up. Both go to one address, and the e-mail is composed at the second of two looks at
the clock. What holds of a whole run (`Program.account`) is what holds wherever the handler can end.

* `informs_takeLogin`: what has been told by the end of a run.
* `login_injects_no_markup`: the login and the domain are text in the reply and nothing else.
-/

namespace Registrar

namespace Exchange

def reading? : Exchange → Option Instant
  | ⟨_, .clock, now⟩ => some now
  | _ => none

def mail? : Exchange → Option Email
  | ⟨_, .deliver mail, _⟩ => some mail
  | _ => none

def isRefused : Exchange → Bool
  | ⟨_, .store _, .error _⟩ => true
  | ⟨_, .newCode, .error _⟩ => true
  | ⟨_, .deliver _, .error _⟩ => true
  | ⟨_, .enroll _ _ _, .error _⟩ => true
  | ⟨_, .send _, .error _⟩ => true
  | _ => false

end Exchange

namespace Registration

open Handling

variable {policy : Policy} {job : Job} {course : List Exchange} {readings : List Instant}

/-! ### What is told -/

/-- The reply that says where the code was sent, with the address in bold letters. -/
def announcement (policy : Policy) (message : Message) : Outgoing :=
  { Outgoing.plain message.chat.id
      (codeSentText (policy.recipient (Text.trim message.content)) policy.validity) with
    parseMode := some .html }

/-- The e-mail for a login, composed at the second of two looks at the clock; at the first one the code
was issued. -/
inductive Composed (policy : Policy) (message : Message) (readings : List Instant) : Email → Prop
  | letter {code : String} {issued expires now : Instant} (read : readings = [now, issued])
      (expiry : issued.addSeconds? policy.validity = some expires) :
      Composed policy message readings (letter policy (Text.trim message.content) code now expires)

/-- Nothing stands in the way of a code: there is a login, the code expires at a moment that there is,
and nothing is refused. -/
structure Unhindered (policy : Policy) (message : Message) (course : List Exchange) : Prop where
  nonblank : Text.trim message.content ≠ ""
  short : policy.validity ≤ longestValidity
  expiry : ∀ now ∈ course.filterMap Exchange.reading?, now.addSeconds? policy.validity ≠ none
  granted : ∀ e ∈ course, e.isRefused = false

/-- What the sender of a login has been told by the end of a course. -/
structure Informed (policy : Policy) (message : Message) (course : List Exchange) : Prop where
  composed : ∀ mail ∈ course.filterMap Exchange.mail?,
    Composed policy message (course.filterMap Exchange.reading?) mail
  marked : ∀ reply ∈ course.filterMap Exchange.outgoing?, reply.parseMode = some .html →
    reply = announcement policy message ∧ ∃ mail, course.filterMap Exchange.mail? = [mail]
  complete : Unhindered policy message course → ∃ mail,
    course.filterMap Exchange.mail? = [mail] ∧
      course.filterMap Exchange.outgoing? = [announcement policy message]

/-- Whoever has taken a login has told its sender of the code. -/
def informing (policy : Policy) (job : Job) : Program.Rules Outcome where
  allows _ _ := True
  ends _ course := Informed policy job.message course

theorem hindered_of_refused {e : Exchange} (refused : e.isRefused = true) :
    ¬ Unhindered policy job.message (e :: course) := fun unhindered =>
  Bool.false_ne_true ((unhindered.granted e List.mem_cons_self).symm.trans refused)

theorem Unhindered.tail {e : Exchange} (unhindered : Unhindered policy job.message (e :: course)) :
    Unhindered policy job.message course where
  nonblank := unhindered.nonblank
  short := unhindered.short
  expiry now mem := by
    obtain ⟨e', mem, shown⟩ := List.mem_filterMap.mp mem
    exact unhindered.expiry now (List.mem_filterMap.mpr ⟨e', List.mem_cons_of_mem _ mem, shown⟩)
  granted e' mem := unhindered.granted e' (List.mem_cons_of_mem _ mem)

/-- A plain reply tells nothing of the code; it is sent to whoever was hindered. -/
theorem Informed.plain (informed : Informed policy job.message course)
    (hindered : ¬ Unhindered policy job.message course) (text : String) (sent : Outcome) :
    Informed policy job.message
      (⟨job, .send (.plain job.message.chat.id text), sent⟩ :: course) where
  composed := informed.composed
  marked reply mem html := by
    rcases List.mem_cons.mp mem with rfl | mem
    · cases html
    · exact informed.marked reply mem html
  complete unhindered := absurd unhindered.tail hindered

/-! ### Before the e-mail -/

/-- Nothing was told yet, after these looks at the clock. -/
structure Untold (readings : List Instant) (course : List Exchange) : Prop where
  read : course.filterMap Exchange.reading? = readings
  unmailed : course.filterMap Exchange.mail? = []
  unsent : course.filterMap Exchange.outgoing? = []

theorem Untold.call (untold : Untold readings course) (call : StoreCall) (a : call.Answer) :
    Untold readings (⟨job, .store call, a⟩ :: course) :=
  ⟨untold.read, untold.unmailed, untold.unsent⟩

theorem Untold.draw (untold : Untold readings course) (drawn : Except BotError String) :
    Untold readings (⟨job, .newCode, drawn⟩ :: course) :=
  ⟨untold.read, untold.unmailed, untold.unsent⟩

theorem Untold.look (untold : Untold readings course) (now : Instant) :
    Untold (now :: readings) (⟨job, .clock, now⟩ :: course) :=
  ⟨congrArg (now :: ·) untold.read, untold.unmailed, untold.unsent⟩

/-- Whoever ends before the e-mail was hindered. -/
theorem Untold.informed (untold : Untold readings course)
    (hindered : ¬ Unhindered policy job.message course) : Informed policy job.message course where
  composed mail mem := by rw [untold.unmailed] at mem; cases mem
  marked reply mem := by rw [untold.unsent] at mem; cases mem
  complete unhindered := absurd unhindered hindered

/-! ### After the e-mail -/

/-- An e-mail was handed over, and there was no reply yet. -/
structure OnItsWay (policy : Policy) (message : Message) (course : List Exchange) (mail : Email) :
    Prop where
  mailed : course.filterMap Exchange.mail? = [mail]
  composed : Composed policy message (course.filterMap Exchange.reading?) mail
  unsent : course.filterMap Exchange.outgoing? = []

variable {mail : Email}

theorem OnItsWay.call (way : OnItsWay policy job.message course mail) (call : StoreCall)
    (a : call.Answer) : OnItsWay policy job.message (⟨job, .store call, a⟩ :: course) mail :=
  ⟨way.mailed, way.composed, way.unsent⟩

/-- Whoever ends without a reply was hindered. -/
theorem OnItsWay.informed (way : OnItsWay policy job.message course mail)
    (hindered : ¬ Unhindered policy job.message course) : Informed policy job.message course where
  composed mail' mem := by
    rw [way.mailed] at mem
    cases List.mem_singleton.mp mem
    exact way.composed
  marked reply mem := by rw [way.unsent] at mem; cases mem
  complete unhindered := absurd unhindered hindered

/-! ### Taking a login -/

/-- Once the code is expected, that is said. -/
theorem informs_expectCode (way : OnItsWay policy job.message course mail) :
    Along job (informing policy job)
      (expectCode policy job.message (policy.recipient (Text.trim job.message.content))) course := by
  refine along_store trivial (fun fault => ?_) fun v => ?_
  · exact (way.call _ _).informed (hindered_of_refused rfl)
  · refine along_send trivial fun a => ?_
    have said := (way.call (.set job.message.conversation awaitingCode) (.ok v)).unsent
    have replies : List.filterMap Exchange.outgoing?
        (⟨job, .send (announcement policy job.message), a⟩ ::
          ⟨job, .store (.set job.message.conversation awaitingCode), .ok v⟩ :: course) =
        [announcement policy job.message] := congrArg (announcement policy job.message :: ·) said
    refine ⟨fun mail' mem => ?_, fun reply mem html => ?_, fun _ => ⟨mail, way.mailed, replies⟩⟩
    · have only : mail' ∈ course.filterMap Exchange.mail? := mem
      rw [way.mailed] at only
      cases List.mem_singleton.mp only
      exact way.composed
    · have only : reply ∈ [announcement policy job.message] := replies ▸ mem
      exact ⟨List.mem_singleton.mp only, mail, way.mailed⟩

theorem informs_mailAndExpect {code : String} {issued expires : Instant}
    (untold : Untold [issued] course) (expiry : issued.addSeconds? policy.validity = some expires) :
    Along job (informing policy job)
      (mailAndExpect policy job.message (Text.trim job.message.content) code expires) course := by
  refine ⟨trivial, fun now => ⟨trivial, fun sent => ?_⟩⟩
  let mail := letter policy (Text.trim job.message.content) code now expires
  have way : OnItsWay policy job.message
      (⟨job, .deliver mail, sent⟩ :: ⟨job, .clock, now⟩ :: course) mail :=
    ⟨congrArg (mail :: ·) untold.unmailed, .letter (congrArg (now :: ·) untold.read) expiry,
      untold.unsent⟩
  cases sent with
  | ok u => exact informs_expectCode way
  | error e =>
      -- The refusal stands in the way of a reply with an address, but only some policies leave it out.
      change Along job (informing policy job) (if policy.blockOnEmailFailure then _ else _) _
      split
      · exact along_send trivial fun a =>
          (way.informed (hindered_of_refused rfl)).plain (hindered_of_refused rfl) _ a
      · exact informs_expectCode way

theorem informs_issueCode (code : String) (untold : Untold [] course) :
    Along job (informing policy job)
      (issueCode policy job.message (Text.trim job.message.content) code) course := by
  rw [issueCode_eq]
  split
  · rename_i long
    exact along_throw (untold.informed fun unhindered => absurd unhindered.short (Nat.not_le.mpr long))
  · refine along_clock trivial fun issued => ?_
    have seen : Untold [issued] (⟨job, .clock, issued⟩ :: course) := untold.look issued
    split
    · rename_i never
      exact seen.informed fun unhindered =>
        unhindered.expiry issued (by rw [seen.read]; exact List.mem_cons_self) never
    · rename_i expires expiry
      split
      · refine along_store trivial (fun fault => ?_) fun v => ?_
        · exact (seen.call _ _).informed (hindered_of_refused rfl)
        · exact informs_mailAndExpect (seen.call _ _) expiry
      · exact informs_mailAndExpect seen expiry

/-- Whatever is answered, whoever has taken a login has told its sender of the code. -/
theorem informs_takeLogin (policy : Policy) (job : Job) :
    Along job (informing policy job) (takeLogin policy job.message) [] := by
  have untold : Untold [] [] := ⟨rfl, rfl, rfl⟩
  unfold takeLogin
  extract_lets login
  split
  · rename_i blank
    have hindered : ¬ Unhindered policy job.message [] := fun unhindered => unhindered.nonblank blank
    exact along_send trivial fun a => (untold.informed hindered).plain hindered _ a
  · refine along_store trivial (fun fault => ?_) fun v => ?_
    · exact (untold.call _ _).informed (hindered_of_refused rfl)
    · refine along_newCode trivial (fun e => ?_) fun code => ?_
      · exact ((untold.call _ _).draw _).informed (hindered_of_refused rfl)
      · refine along_store trivial (fun fault => ?_) fun v' => ?_
        · exact (((untold.call _ _).draw _).call _ _).informed (hindered_of_refused rfl)
        · exact informs_issueCode code (((untold.call _ _).draw _).call _ _)

/-! ### The reply -/

/-- What stands behind the address in the reply. -/
def validityText (validity : Nat) : String :=
  ". It is valid for " ++ toString (validity / 60) ++ " minutes.\nPlease enter it:"

theorem codeSentText_eq (recipient : String) (validity : Nat) : codeSentText recipient validity =
    "Thanks! A verification code was sent to " ++ "<b>" ++ Markup.escape recipient ++ "</b>" ++
      validityText validity := by
  have opening : "Thanks! A verification code was sent to <b>" =
      "Thanks! A verification code was sent to " ++ "<b>" := by decide +kernel
  have closing : "</b>. It is valid for " = "</b>" ++ ". It is valid for " := by decide +kernel
  unfold codeSentText validityText
  simp only [opening, closing, String.append_assoc]

theorem notMem_validityText (validity : Nat) : '<' ∉ (validityText validity).toList := by
  have number : '<' ∉ (toString (validity / 60)).toList := by
    intro mem
    have digits : (toString (validity / 60)).toList = Nat.toDigits 10 (validity / 60) :=
      Nat.toList_repr
    rw [digits] at mem
    exact absurd (Nat.isDigit_of_mem_toDigits (by decide) (by decide) mem) (by decide)
  have around : '<' ∉ ". It is valid for ".toList ∧ '<' ∉ " minutes.\nPlease enter it:".toList := by
    decide +kernel
  unfold validityText
  simp only [String.toList_append, List.mem_append, not_or]
  exact ⟨⟨around.1, number⟩, around.2⟩

/-- The two tags of the reply are the only ones, whatever the address is. -/
theorem tags_codeSentText (recipient : String) (validity : Nat) :
    Markup.tags (codeSentText recipient validity) = ["b", "/b"] := by
  rw [codeSentText_eq]
  exact Markup.tags_bold (by decide +kernel)
    (fun mem => ((Markup.literal_escape recipient).bare _ mem).1 rfl) (notMem_validityText validity)

/-- Escaping leaves nothing of a text that marks up anything, and can be undone: the escaped text holds
no angle bracket and no quotation mark, every ampersand in it begins an entity, and replacing the
entities from left to right gives back the text.

So whatever is said for a login, whatever domain is set, and whatever the surroundings answer, a reply
in which HTML is marked up has one pair of tags in it, which is always the same, and what stands
between them is read as the address for the login. There is such a reply unless something stands in the
way. -/
theorem login_injects_no_markup (policy : Policy) :
    (∀ s : String, Markup.Literal (Markup.escape s).toList ∧ Markup.unescape (Markup.escape s) = s) ∧
    ∀ (σ : Type) (answer : σ → (r : Request) → r.Answer × σ) (s : σ) (job : Job),
      let course := (takeLogin policy job.message).run.account job answer s
      (∀ reply ∈ course.filterMap Exchange.outgoing?, reply.parseMode = some .html →
        Markup.tags reply.text = ["b", "/b"] ∧ ∃ shown : String,
          reply.text = "Thanks! A verification code was sent to <b>" ++ shown ++
            "</b>. It is valid for " ++ toString (policy.validity / 60) ++
              " minutes.\nPlease enter it:" ∧
          Markup.Literal shown.toList ∧
          Markup.unescape shown = policy.recipient (Text.trim job.message.content)) ∧
      (Unhindered policy job.message course →
        ∃ reply ∈ course.filterMap Exchange.outgoing?, reply.parseMode = some .html) := by
  refine ⟨fun s => ⟨Markup.literal_escape s, Markup.unescape_escape_text s⟩,
    fun σ answer s job => ?_⟩
  intro course
  have informed : Informed policy job.message course := (informs_takeLogin policy job).account answer s
  refine ⟨fun reply mem html => ?_, fun unhindered => ?_⟩
  · obtain ⟨rfl, _⟩ := informed.marked reply mem html
    exact ⟨tags_codeSentText _ _, _, rfl, Markup.literal_escape _, Markup.unescape_escape_text _⟩
  · obtain ⟨_, _, replies⟩ := informed.complete unhindered
    exact ⟨_, replies ▸ List.mem_cons_self, rfl⟩

/-- The login and the domain are full of markup, and of what looks like an entity and is none. -/
theorem login_injects_no_markup_everywhere :
    let message : Message :=
      ⟨"1", ⟨7, none, none, none⟩, ⟨1, "private"⟩, " <i>&lt;&am ", .epoch⟩
    let policy : Policy := ⟨4, 90, false, true, some "@</b>\""⟩
    let chance : Chance := ⟨0, none, .epoch, .ok "4711", .ok (), .error (.database ""), .ok ()⟩
    let course := (takeLogin policy message).run.account ⟨0, message⟩
      (chance.answer Record.perform) .empty
    Unhindered policy message course ∧
      ∃ reply ∈ course.filterMap Exchange.outgoing?, reply.parseMode = some .html ∧
        Markup.tags reply.text = ["b", "/b"] ∧ ∃ shown : String,
          reply.text = "Thanks! A verification code was sent to <b>" ++ shown ++
            "</b>. It is valid for " ++ toString (90 / 60) ++ " minutes.\nPlease enter it:" ∧
          Markup.Literal shown.toList ∧ Markup.unescape shown = "<i>&lt;&am@</b>\"" := by
  intro message policy chance course
  have unhindered : Unhindered policy message course :=
    ⟨by decide +kernel, by decide +kernel, by decide +kernel, by decide +kernel⟩
  have address : policy.recipient (Text.trim message.content) = "<i>&lt;&am@</b>\"" := by
    decide +kernel
  obtain ⟨marked, told⟩ := (login_injects_no_markup policy).2 Record (chance.answer Record.perform)
    .empty ⟨0, message⟩
  obtain ⟨reply, mem, html⟩ := told unhindered
  obtain ⟨tags, shown, text, literal, read⟩ := marked reply mem html
  exact ⟨unhindered, reply, mem, html, tags, shown, text, literal, read.trans address⟩

end Registration

end Registrar
