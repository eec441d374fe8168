import Registrar.Proofs.Registration.SingleUse

/-!
What a code that is expected owes to the e-mail that carried it.

The login and the code are stored before the e-mail is handed over, so that the fields may hold a pair
that nobody was sent. Where failures hold the user back, such a pair is never looked at: the state in
which a code is expected comes about only right after a delivery that was accepted, and whatever is
written later is written while a login is expected.

* `Posted.ask`: every request of a handler keeps it up that a failed delivery lies before the login
  that was stored last.
* `Lawful.awaits`: a message whose delivery failed leaves its conversation where it was.
* `delivered_while_awaiting`: while a code is expected, the login and the code that are held were
  delivered.
-/

namespace Registrar.Registration

variable {policy : Policy} {job : Job} {course past : List Exchange} {c : Conversation}
  {e : Exchange} {record record' : Record}

/-- An e-mail was handed to the sender in vain. -/
def Failed : Exchange → Prop
  | ⟨_, .deliver _, .error _⟩ => True
  | _ => False

/-- While a code is expected, a login was stored after every delivery that failed. -/
def Undisputed (story : Story) : Prop :=
  story.record.state = some awaitingCode → ∀ later e earlier, story.past = later ++ e :: earlier →
    Failed e → ∃ e' ∈ later, StoresLogin e'

/-- A login is expected, or the state has been evicted. -/
def AwaitsLogin (r : Record) : Prop := r.state = some awaitingLogin ∨ r.state = none

/-- After a failed delivery a login is expected until the store is asked something. -/
def HeldBack (story : Story) : Prop :=
  ∀ later e earlier, story.past = later ++ e :: earlier → Failed e →
    (∀ e' ∈ later, ∀ call, e'.request ≠ .store call) → AwaitsLogin story.record

/-- What is known while a message is handled, by its course so far. A state that was found stays until
it is changed or evicted. -/
structure Posted (job : Job) (course : List Exchange) (story : Story) : Prop where
  past : ∃ earlier, story.past = course ++ earlier
  steady (state : State) : found job state ∈ course → (∀ e ∈ course, e.newState? = none) →
    story.record.reads = state ∨ story.record.state = none
  undisputed : Undisputed story
  heldBack : HeldBack story

/-! ### Evictions -/

theorem Undisputed.fades (undisputed : Undisputed ⟨record, past⟩) (fades : record.Fades record') :
    Undisputed ⟨record', past⟩ := by
  intro awaiting
  rcases fades.state with same | gone
  · exact undisputed (same.symm.trans awaiting)
  · cases gone.symm.trans awaiting

theorem HeldBack.fades (heldBack : HeldBack ⟨record, past⟩) (fades : record.Fades record') :
    HeldBack ⟨record', past⟩ := by
  intro later e earlier split failed silent
  rcases fades.state with same | gone
  · exact (heldBack later e earlier split failed silent).imp same.trans same.trans
  · exact .inr gone

theorem Posted.fades (h : Posted job course ⟨record, past⟩) (fades : record.Fades record') :
    Posted job course ⟨record', past⟩ where
  past := h.past
  steady state found kept := by
    rcases fades.state with same | gone
    · rw [Record.reads, same]
      exact h.steady state found kept
    · exact .inr gone
  undisputed := h.undisputed.fades fades
  heldBack := h.heldBack.fades fades

/-! ### Courses with a delivery -/

/-- Before an e-mail is handed over, a login was found to be expected, and the state was left alone. -/
theorem Posting.kept {mail : Email} (posting : Posting policy job course mail) :
    found job awaitingLogin ∈ course ∧ ∀ e ∈ course, e.newState? = none := by
  obtain ⟨timed⟩ := posting
  rw [timed, issuing, expiryNoted]
  split <;> simp [Exchange.newState?, StoreCall.newState?]

/-- Where failures hold the user back, no change of the state is due after one. -/
theorem Due.unfailed {call : StoreCall} (due : Due policy job course call)
    (blocks : policy.blockOnEmailFailure = true) : ∀ e ∈ course, ¬ Failed e := by
  cases due with
  | register history | cancel history | sessionGone history | expired history
  | loginGone history => simp [history, Failed]
  | codeSent history text nonblank expiry accepted =>
      rw [history, accepted blocks, issuing, expiryNoted]
      split <;> simp [Failed]
  | complete history text inTime =>
      rw [history]
      cases inTime <;> simp [Failed]

/-- A code comes to be expected after its login was stored. -/
theorem Due.storesLogin {call : StoreCall} (due : Due policy job course call)
    (expects : call.newState? = some awaitingCode) : ∃ e ∈ course, StoresLogin e := by
  cases due with
  | codeSent history =>
      exact ⟨wroteText job loginField (Text.trim job.message.content), by simp [history],
        job, _, _, rfl⟩
  | register | cancel | sessionGone | expired | complete | loginGone =>
      exact absurd (Option.some.inj expects) (by decide)

/-- An earlier exchange is one of the course, or comes before all of it. -/
theorem mem_or_later {before later earlier : List Exchange}
    (split : course ++ before = later ++ e :: earlier) : e ∈ course ∨ course ⊆ later := by
  rcases List.append_eq_append_iff.mp split with ⟨more, rfl, _⟩ | ⟨within, rfl, rest⟩
  · exact .inr (List.subset_append_left _ _)
  · cases within with
    | nil => exact .inr (by rw [List.append_nil]; exact List.Subset.refl later)
    | cons e' within =>
        obtain ⟨rfl, _⟩ := List.cons.inj rest
        exact .inl (List.mem_append_right _ List.mem_cons_self)

/-! ### What is asked and answered -/

/-- An exchange that leaves the state alone. If it is a failed delivery, a login is expected. -/
theorem Posted.idle (h : Posted job course ⟨record, past⟩) (state : record'.state = record.state)
    (read : ∀ state, e = found job state → state = record.reads)
    (failing : Failed e → AwaitsLogin record) :
    Posted job (e :: course) ⟨record', e :: past⟩ := by
  have reads : record'.reads = record.reads := by rw [Record.reads, state]; rfl
  have awaits : AwaitsLogin record' ↔ AwaitsLogin record := by rw [AwaitsLogin, state]; rfl
  obtain ⟨before, history⟩ := h.past
  refine ⟨⟨before, congrArg (e :: ·) history⟩, fun s found kept => ?_,
    fun awaiting later e' earlier split failed => ?_,
    fun later e' earlier split failed unasked => ?_⟩
  · rw [reads, state]
    rcases List.mem_cons.mp found with here | before
    · exact .inl (read s here.symm).symm
    · exact h.steady s before fun e' mem => kept e' (List.mem_cons_of_mem _ mem)
  · have awaiting : record.state = some awaitingCode := state.symm.trans awaiting
    rcases List.cons_eq_append_iff.mp split with ⟨_, first⟩ | ⟨later', rfl, rest⟩
    · cases first
      rcases failing failed with expected | gone
      · exact absurd (awaiting.symm.trans expected) (by decide)
      · cases awaiting.symm.trans gone
    · obtain ⟨e'', mem, stores⟩ := h.undisputed awaiting later' e' earlier rest failed
      exact ⟨e'', List.mem_cons_of_mem _ mem, stores⟩
  · refine awaits.mpr ?_
    rcases List.cons_eq_append_iff.mp split with ⟨_, first⟩ | ⟨later', rfl, rest⟩
    · cases first
      exact failing failed
    · exact h.heldBack later' e' earlier rest failed fun e'' mem =>
        unasked e'' (List.mem_cons_of_mem _ mem)

/-- The state is changed, when that is due. A code comes to be expected only after a delivery, and
after the login was stored for it. -/
theorem Posted.change (blocks : policy.blockOnEmailFailure = true)
    (h : Posted job course ⟨record, past⟩) {call : StoreCall} {v : call.Result} {state : State}
    (due : Due policy job course call) (changes : call.newState? = some state)
    (after : record'.reads = state) :
    Posted job (⟨job, .store call, .ok v⟩ :: course)
      ⟨record', ⟨job, .store call, .ok v⟩ :: past⟩ := by
  obtain ⟨before, history⟩ := h.past
  refine ⟨⟨before, congrArg (_ :: ·) history⟩, fun _ _ kept => ?_,
    fun awaiting later e earlier split failed => ?_, fun later e earlier split failed unasked => ?_⟩
  · cases (kept _ List.mem_cons_self).symm.trans changes
  · rcases List.cons_eq_append_iff.mp split with ⟨_, first⟩ | ⟨later', rfl, rest⟩
    · cases first
      exact failed.elim
    · -- A failed delivery is none of this course, so that all of the course comes later.
      have expects : call.newState? = some awaitingCode := by
        rw [changes, ← after, Record.reads, show record'.state = _ from awaiting]
        rfl
      obtain ⟨stored, mem, stores⟩ := due.storesLogin expects
      rcases mem_or_later (history.symm.trans rest) with within | behind
      · exact absurd failed (due.unfailed blocks e within)
      · exact ⟨stored, List.mem_cons_of_mem _ (behind mem), stores⟩
  · rcases List.cons_eq_append_iff.mp split with ⟨_, first⟩ | ⟨later', rfl, _⟩
    · cases first
      exact failed.elim
    · exact absurd rfl (unasked _ List.mem_cons_self call)

/-- Every request of a handler keeps up what is known. -/
theorem Posted.ask (blocks : policy.blockOnEmailFailure = true) {r : Request} {a : r.Answer}
    (h : Posted job course ⟨record, past⟩) (proper : Proper policy job course r)
    (told : Told record r a record') :
    Posted job (⟨job, r, a⟩ :: course) ⟨record', ⟨job, r, a⟩ :: past⟩ := by
  cases told with
  | elsewhere a other =>
      cases r with
      | store call => exact absurd rfl (other call)
      | deliver mail =>
          refine h.idle rfl nofun fun _ => ?_
          obtain ⟨expected, kept⟩ := Posting.kept proper.fitting
          exact (h.steady awaitingLogin expected kept).imp (state_eq_some · (by decide)) id
      | _ => exact h.idle rfl nofun nofun
  | refused fault => exact h.idle rfl nofun nofun
  | @accepted call v answer =>
      cases call with
      | get c =>
          refine h.idle rfl (fun state same => ?_) nofun
          cases same
          exact (Except.ok.inj answer).symm
      | getData | setData | clearData => exact h.idle rfl nofun nofun
      | set c state => exact h.change blocks proper.fitting rfl rfl
      | delete c => exact h.change blocks proper.fitting rfl rfl

/-- What is known of the conversations of a bot that holds users back. -/
def postage (policy : Policy) (quizUrl : Option String)
    (blocks : policy.blockOnEmailFailure = true) : Outline (routes policy quizUrl).handle where
  resting _ story := Undisputed story ∧ HeldBack story
  underway := Posted
  resting_fades h fades := ⟨h.1.fades fades, h.2.fades fades⟩
  underway_fades := Posted.fades
  start h := ⟨⟨_, rfl⟩, nofun, h.1, h.2⟩
  leave h := ⟨h.undisputed, h.heldBack⟩
  ask h comes told := h.ask blocks ((along_routes policy quizUrl _).comes comes).1.1 told

/-! ### One message -/

/-- A message whose delivery failed leaves its conversation where it was. -/
theorem Lawful.awaits (blocks : policy.blockOnEmailFailure = true)
    (lawful : Lawful policy job course) (truthful : record.Truthful course) (mem : e ∈ course)
    (failed : Failed e) : (record.replay course).state = some awaitingLogin := by
  refine state_eq_some ?_ (by decide)
  change (record.replay course).reads = awaitingLogin
  induction course with
  | nil => cases mem
  | cons e' course ih =>
      have proper := (lawful [] e' course rfl).2
      rw [Record.replay_cons, Record.reads_carryOut]
      rcases List.mem_cons.mp mem with rfl | before
      · obtain ⟨job', request, answer⟩ := e
        cases request with
        | deliver mail =>
            obtain ⟨expected, kept⟩ := Posting.kept proper.fitting
            have found := lawful.tail.read_eq (Record.Truthful.tail truthful) expected
            exact ((lawful.tail.moved record).eq_of_kept kept).trans found.symm
        | _ => exact failed.elim
      · rw [ih lawful.tail (Record.Truthful.tail truthful) before]
        cases change : e'.newState? with
        | none => rfl
        | some state =>
            -- Nothing is due any more.
            obtain ⟨call, v, accepted, changes⟩ := Exchange.accepted_of_newState? change
            rw [accepted] at proper
            exact absurd failed ((proper.due_of_change changes).unfailed blocks e before)

/-! ### All messages -/

/-- A code was drawn for the login that was stored last, and an e-mail that carries it to the address
for the login was accepted. -/
def Mailed (policy : Policy) (c : Conversation) (login code : String) (past : List Exchange) : Prop :=
  ∃ issue mail, Trace c issue login (mailing issue code mail (.ok ())) past ∧
    Carries policy login code mail

/-- What was issued was delivered, unless a login was stored after every failure. -/
theorem Issued.mailed {login code : String} (issued : Issued policy c login code past)
    (undisputed : ∀ later e earlier, past = later ++ e :: earlier → Failed e →
      ∃ e' ∈ later, StoresLogin e') : Mailed policy c login code past := by
  obtain ⟨issue, mail, sent, trace, carries⟩ := issued
  cases sent with
  | ok u => exact ⟨issue, mail, trace, carries⟩
  | error fault =>
      obtain ⟨since, before, rfl, _, _, latest, sublist⟩ := trace
      obtain ⟨later, earlier, rfl⟩ := List.append_of_mem (sublist.subset List.mem_cons_self)
      obtain ⟨e, mem, stores⟩ := undisputed later _ _ (List.append_assoc ..) trivial
      exact absurd stores (latest e (List.mem_append_left _ mem))

theorem founded_run (policy : Policy) (quizUrl : Option String) (moves : List Move)
    (c : Conversation) : Founded policy c
      ((Session.run (routes policy quizUrl).handle .empty moves).affairs.story c) :=
  (Session.orderly_run .empty moves (fun job story founded =>
    (upholds_routes policy quizUrl job story founded).mono fun _ _ _ => True.intro)
    (founded_empty policy)).invariant c

/-- From an empty store, whatever messages come in whatever order, whatever fails and whatever is
evicted, where failures hold the user back:

While a code is expected, the scratch fields hold no login and no code but those of an e-mail that
was accepted. It carries the code to the address for the login, and no login has been stored since
the one for which it was sent.

After a delivery has failed, a login is expected until the store is asked something about the
conversation, unless the state is evicted. And if nothing of the conversation is evicted while the
message is handled, a login is still expected at every point after the failure. -/
theorem delivered_while_awaiting (policy : Policy) (blocks : policy.blockOnEmailFailure = true)
    (quizUrl : Option String) (moves : List Move) (c : Conversation) :
    let route := (routes policy quizUrl).handle
    let s := Session.run route .empty moves
    ((s.memory.record c).state = some awaitingCode →
      ∃ login code, Mailed policy c login code (Session.about c s.exchanges) ∧
        (s.memory.record c).Holds loginField login ∧ (s.memory.record c).Holds codeField code) ∧
    (∀ later e earlier, Session.about c s.exchanges = later ++ e :: earlier → Failed e →
      (∀ e' ∈ later, ∀ call, e'.request ≠ .store call) → AwaitsLogin (s.memory.record c)) ∧
    ∀ before id job, job.message.conversation = c →
      Session.Attends route .empty before id job moves →
      ∃ course, Session.about c s.exchanges =
          course ++ Session.about c (Session.run route .empty before).exchanges ∧
        ∀ e ∈ course, Failed e → (s.memory.record c).state = some awaitingLogin := by
  intro route s
  have minds := minds_routes policy quizUrl
  obtain ⟨undisputed, heldBack⟩ := (Session.outlined_run (postage policy quizUrl blocks) .empty moves
    minds fun c => ⟨nofun, fun later _ _ split => by cases later <;> cases split⟩).resting c
  refine ⟨fun awaiting => ?_, heldBack, fun before id job own attends => ?_⟩
  · obtain ⟨login, code, issued, fields⟩ :=
      (founded_run policy quizUrl moves c).awaiting awaiting
    exact ⟨login, code, issued.mailed (undisputed awaiting), fields⟩
  · subst own
    obtain ⟨course, p, attended⟩ := attends.attended minds
    have lawful := ((along_routes policy quizUrl job).comes attended.comes).2
    refine ⟨course, congrArg Story.past attended.story, fun e mem failed => ?_⟩
    rw [show s.memory.record job.message.conversation = _ from congrArg Story.record attended.story]
    exact Lawful.awaits blocks lawful attended.truthful mem failed

/-- The first e-mail is refused; the login is asked for again, and a second code is delivered. -/
theorem delivered_while_awaiting_second_attempt :
    let message (text : String) : Message := ⟨text, ⟨7, none, none, none⟩, ⟨1, "private"⟩, text, .epoch⟩
    let chance (code : String) (sent : Except EmailError Unit) : Chance :=
      ⟨0, none, .epoch, .ok code, sent, .error (.database ""), .ok ()⟩
    let failing := chance "4711" (.error (.http "refused"))
    let policy : Policy := ⟨4, 60, true, false, none⟩
    let c : Conversation := ⟨1, 7⟩
    let moves : List Move :=
      [.call (message "/register"), .call (message "ann"), .call (message "ann"), .send 0 0,
        .send 0 1, .send 0 2, .start 0, .ask 0 failing, .ask 0 failing, .conclude 1 0, .start 0] ++
      List.replicate 8 (.ask 0 failing) ++ [.conclude 2 0, .start 0] ++
      List.replicate 8 (.ask 0 (chance "1234" (.ok ())))
    let s := Session.run (routes policy none).handle .empty moves
    policy.blockOnEmailFailure = true ∧ (s.memory.record c).state = some awaitingCode ∧
      ∃ login code, Mailed policy c login code (Session.about c s.exchanges) := by
  intro message chance failing policy c moves s
  have awaiting : (s.memory.record c).state = some awaitingCode := by decide +kernel
  have blocks : policy.blockOnEmailFailure = true := rfl
  obtain ⟨login, code, mailed, _⟩ := (delivered_while_awaiting policy blocks none moves c).1 awaiting
  exact ⟨blocks, awaiting, login, code, mailed⟩

end Registrar.Registration
