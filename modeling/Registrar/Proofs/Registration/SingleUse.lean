import Registrar.Proofs.Dispatch.Outline
import Registrar.Proofs.Registration.Expiry

/-!
A code is good for one registration.

The scratch field of a code is not cleared when the code has been accepted, and it may be sent again.
What keeps it from being used again is that a code is only looked at while one is expected, and that
one comes to be expected only when a login has been taken and a fresh code was drawn and stored: the
code is `Renewed` then. Evictions may take the state or the fields away at any moment, but they put
nothing in their place.

* `Redeemable`, `Handled`: what is known of the record between messages, and while one is handled.
* `Handled.ask`: every request of a handler keeps it up.
* `registered_once_per_code`: between two registrations of a conversation a login was taken from
  beginning to end, so that there are no more registrations than codes were drawn.
-/

namespace Registrar

def Exchange.drawnCode? : Exchange → Option String
  | ⟨_, .newCode, .ok code⟩ => some code
  | _ => none

namespace Registration

variable {policy : Policy} {job : Job} {course : List Exchange} {c : Conversation} {code : String}
  {past : List Exchange} {e : Exchange}

/-- From beginning to end a login was taken in the conversation: it was stored, a code was drawn and
stored, an e-mail with it was handed over, and the code came to be expected. -/
def Issue (policy : Policy) (c : Conversation) (code : String) (run : List Exchange) : Prop :=
  ∃ issue sent now issued expires, issue.message.conversation = c ∧
    run = announcing issue (letter policy (Text.trim issue.message.content) code now expires) sent
      now ++ issuing policy issue code issued expires

/-- The code was issued in the conversation, and nobody has been registered since. -/
def Renewed (policy : Policy) (c : Conversation) (code : String) (past : List Exchange) : Prop :=
  ∃ since run before, past = since ++ run ++ before ∧ Issue policy c code run ∧
    ∀ e ∈ since, e.newState? ≠ some registered

theorem Renewed.tell (renewed : Renewed policy c code past) (other : e.newState? ≠ some registered) :
    Renewed policy c code (e :: past) := by
  obtain ⟨since, run, before, rfl, issue, unused⟩ := renewed
  exact ⟨e :: since, run, before, rfl, issue, List.forall_mem_cons.mpr ⟨other, unused⟩⟩

/-- While a code is expected, one was issued and not used, and the scratch field holds no other. -/
def Redeemable (policy : Policy) (c : Conversation) (story : Story) : Prop :=
  story.record.state = some awaitingCode →
    ∃ code, Renewed policy c code story.past ∧ story.record.Holds codeField code

/-- What is known while a message is handled, by its course so far. Until the state changes, whoever
has found that a code is expected knows which one, and whoever has found that a login is expected
knows that no code is; a code that was written is the one that the scratch field holds. -/
structure Handled (policy : Policy) (job : Job) (course : List Exchange) (story : Story) : Prop where
  past : ∃ earlier, story.past = course ++ earlier
  redeemable : Redeemable policy job.message.conversation story
  shown : found job awaitingCode ∈ course → (∀ e ∈ course, e.newState? = none) →
    ∃ code, Renewed policy job.message.conversation code story.past ∧
      story.record.Holds codeField code ∧
      ∀ text, readText job codeField (some text) ∈ course → text = code
  unasked : found job awaitingLogin ∈ course → (∀ e ∈ course, e.newState? = none) →
    story.record.state ≠ some awaitingCode
  noted (code : String) : wroteText job codeField code ∈ course → story.record.Holds codeField code

theorem Redeemable.fades {r r' : Record} (redeemable : Redeemable policy c ⟨r, past⟩)
    (fades : r.Fades r') : Redeemable policy c ⟨r', past⟩ := by
  intro state
  rcases fades.state with same | gone
  · obtain ⟨code, renewed, holds⟩ := redeemable (same.symm.trans state)
    exact ⟨code, renewed, holds.fades fades⟩
  · cases gone.symm.trans state

theorem Handled.fades {r r' : Record} (h : Handled policy job course ⟨r, past⟩)
    (fades : r.Fades r') : Handled policy job course ⟨r', past⟩ where
  past := h.past
  redeemable := h.redeemable.fades fades
  shown found kept := by
    obtain ⟨code, renewed, holds, read⟩ := h.shown found kept
    exact ⟨code, renewed, holds.fades fades, read⟩
  unasked found kept := by
    have before := h.unasked found kept
    rcases fades.state with same | gone
    · exact fun state => before (same.symm.trans state)
    · exact fun state => by cases gone.symm.trans state
  noted code wrote := (h.noted code wrote).fades fades

theorem Handled.start {story : Story} (redeemable : Redeemable policy job.message.conversation story) :
    Handled policy job [] story :=
  ⟨⟨story.past, rfl⟩, redeemable, nofun, nofun, nofun⟩

/-! ### What is asked and answered -/

/-- An exchange that neither changes the state nor writes a code. -/
structure Idle (job : Job) (course : List Exchange) (record record' : Record) (e : Exchange) :
    Prop where
  silent : e.newState? = none
  state : record'.state = record.state
  holds (code : String) : record.Holds codeField code → record'.Holds codeField code
  unwritten : e.writtenField? ≠ some codeField
  /-- A state that is read is that of the record, and it is read first of all. -/
  found (state : State) : e = found job state → state = record.reads ∧ course = []
  /-- A code that is read is that of the record. -/
  read (text : String) : e = readText job codeField (some text) →
    ∀ code, record.Holds codeField code → text = code

theorem Handled.idle {record record' : Record} (h : Handled policy job course ⟨record, past⟩)
    (idle : Idle job course record record' e) : Handled policy job (e :: course) ⟨record', e :: past⟩ := by
  have unused : e.newState? ≠ some registered := by rw [idle.silent]; nofun
  have redeemable : Redeemable policy job.message.conversation ⟨record', e :: past⟩ := by
    intro state
    obtain ⟨code, renewed, holds⟩ := h.redeemable (idle.state.symm.trans state)
    exact ⟨code, renewed.tell unused, idle.holds code holds⟩
  refine ⟨?_, redeemable, fun found kept => ?_, fun found kept => ?_, fun code wrote => ?_⟩
  · obtain ⟨earlier, same⟩ := h.past
    exact ⟨earlier, congrArg (e :: ·) same⟩
  · rcases List.mem_cons.mp found with here | before
    · obtain ⟨state, first⟩ := idle.found _ here.symm
      obtain ⟨code, renewed, holds⟩ := h.redeemable (state_eq_some state.symm (by decide))
      refine ⟨code, renewed.tell unused, idle.holds code holds, fun text read => ?_⟩
      rw [first, List.mem_singleton] at read
      exact idle.read text read.symm code holds
    · obtain ⟨code, renewed, holds, read⟩ :=
        h.shown before fun e' mem => kept e' (List.mem_cons_of_mem _ mem)
      refine ⟨code, renewed.tell unused, idle.holds code holds, fun text mem => ?_⟩
      rcases List.mem_cons.mp mem with here | before
      · exact idle.read text here.symm code holds
      · exact read text before
  · rw [idle.state]
    rcases List.mem_cons.mp found with here | before
    · obtain ⟨state, _⟩ := idle.found _ here.symm
      intro awaiting
      rw [Record.reads, show record.state = _ from awaiting] at state
      exact absurd state (by decide)
    · exact h.unasked before fun e' mem => kept e' (List.mem_cons_of_mem _ mem)
  · rcases List.mem_cons.mp wrote with here | before
    · exact absurd (congrArg Exchange.writtenField? here.symm) idle.unwritten
    · exact idle.holds code (h.noted code before)

/-- The state is changed, when that is due. It becomes that of an expected code only when one was
issued. -/
theorem Handled.set {record : Record} (h : Handled policy job course ⟨record, past⟩) {state : State}
    (due : Due policy job course (.set c state)) :
    Handled policy job (⟨job, .store (.set c state), .ok ()⟩ :: course)
      ⟨{ record with state := some state }, ⟨job, .store (.set c state), .ok ()⟩ :: past⟩ := by
  have changed : ¬ ∀ e ∈ (⟨job, .store (.set c state), .ok ()⟩ : Exchange) :: course,
      e.newState? = none := fun kept => by cases kept _ List.mem_cons_self
  obtain ⟨earlier, history⟩ := h.past
  refine ⟨⟨earlier, congrArg (_ :: ·) history⟩, fun awaiting => ?_, fun _ kept => absurd kept changed,
    fun _ kept => absurd kept changed, fun code wrote => ?_⟩
  · cases due with
    | @codeSent code issued expires now sent course_eq =>
        have wrote : wroteText job codeField code ∈ course := by
          rw [course_eq]
          exact List.mem_append_right [_, _]
            (List.mem_append_right _ (List.mem_cons_of_mem _ List.mem_cons_self))
        have issue : Issue policy job.message.conversation code
            (⟨job, .store (.set job.message.conversation awaitingCode), .ok ()⟩ :: course) :=
          ⟨job, sent, now, issued, expires, rfl, by rw [course_eq]; rfl⟩
        exact ⟨code, ⟨[], _, earlier, congrArg (_ :: ·) history, issue, List.forall_mem_nil _⟩,
          (h.noted code wrote).of_scratch rfl⟩
    | register | sessionGone | expired | complete | loginGone =>
        exact absurd (Option.some.inj awaiting) (by decide)
  · rcases List.mem_cons.mp wrote with here | before
    · cases here
    · exact (h.noted code before).of_scratch rfl

theorem Handled.delete {record : Record} (h : Handled policy job course ⟨record, past⟩) :
    Handled policy job (⟨job, .store (.delete c), .ok ()⟩ :: course)
      ⟨{ record with state := none }, ⟨job, .store (.delete c), .ok ()⟩ :: past⟩ := by
  have changed : ¬ ∀ e ∈ (⟨job, .store (.delete c), .ok ()⟩ : Exchange) :: course,
      e.newState? = none := fun kept => by cases kept _ List.mem_cons_self
  obtain ⟨earlier, history⟩ := h.past
  refine ⟨⟨earlier, congrArg (_ :: ·) history⟩, nofun, fun _ kept => absurd kept changed,
    fun _ kept => absurd kept changed, fun code wrote => ?_⟩
  rcases List.mem_cons.mp wrote with here | before
  · cases here
  · exact (h.noted code before).of_scratch rfl

/-- Whoever writes a scratch field has not found that a code is expected, and writes a code once. -/
theorem Noting.fresh {field text : String} (noting : Noting policy job course field text) :
    (∀ e ∈ course, readState? e ≠ some awaitingCode) ∧
      (field = codeField → ∀ e ∈ course, e.writtenField? ≠ some codeField) := by
  have other : awaitingLogin ≠ awaitingCode := by decide
  have fields : loginField ≠ codeField ∧ expiryField ≠ codeField := by decide
  cases noting with
  | login start => simp [start, other, readState?, Exchange.writtenField?]
  | code drawn => simp [drawn, other, readState?, Exchange.writtenField?, fields]
  | expiry enforced timed => simp [timed, other, readState?, fields]

/-- A scratch field is written. No code is expected then. -/
theorem Handled.setData {record : Record} (h : Handled policy job course ⟨record, past⟩)
    {field text : String} (noting : Noting policy job course field text) :
    Handled policy job (⟨job, .store (.setData c field (.string text)), .ok ()⟩ :: course)
      ⟨(record.perform (.setData c field (.string text))).2,
        ⟨job, .store (.setData c field (.string text)), .ok ()⟩ :: past⟩ := by
  obtain ⟨asked, kept⟩ := noting.awaiting
  obtain ⟨unfound, once⟩ := noting.fresh
  have unasked : record.state ≠ some awaitingCode := h.unasked asked kept
  obtain ⟨earlier, history⟩ := h.past
  refine ⟨⟨earlier, congrArg (_ :: ·) history⟩, fun state => absurd state unasked,
    fun found _ => ?_, fun _ _ => unasked, fun code wrote => ?_⟩
  · rcases List.mem_cons.mp found with here | before
    · cases here
    · exact absurd rfl (unfound _ before)
  · rcases List.mem_cons.mp wrote with here | before
    · cases here
      exact .written record job.message.conversation codeField text
    · by_cases same : field = codeField
      · exact absurd rfl (once same _ before)
      · exact (h.noted code before).setData c _ (Ne.symm same)

/-- Every request of a handler keeps up what is known. -/
theorem Handled.ask {r : Request} {a : r.Answer} {record record' : Record}
    (h : Handled policy job course ⟨record, past⟩) (proper : Proper policy job course r)
    (told : Told record r a record') :
    Handled policy job (⟨job, r, a⟩ :: course) ⟨record', ⟨job, r, a⟩ :: past⟩ := by
  cases told with
  | elsewhere a other =>
      cases r with
      | store call => exact absurd rfl (other call)
      | _ => exact h.idle ⟨rfl, rfl, fun _ => id, nofun, nofun, nofun⟩
  | @refused call fault =>
      cases call <;> exact h.idle ⟨rfl, rfl, fun _ => id, nofun, nofun, nofun⟩
  | @accepted call v answer =>
      cases call with
      | get c =>
          refine h.idle ⟨rfl, rfl, fun _ => id, nofun, fun state same => ⟨?_, proper.fitting⟩, nofun⟩
          cases same
          exact (Except.ok.inj answer).symm
      | getData c field =>
          refine h.idle ⟨rfl, rfl, fun _ => id, nofun, nofun, fun text same code holds => ?_⟩
          cases same
          exact Json.string.inj (holds.value_eq job.message.conversation answer)
      | clearData c => exact h.idle ⟨rfl, rfl, fun _ _ => nofun, nofun, nofun, nofun⟩
      | set c state => exact h.set proper.fitting
      | delete c => exact h.delete
      | setData c field value =>
          obtain ⟨text, rfl, noting⟩ := proper.fitting
          exact h.setData noting

/-! ### Registrations -/

/-- Whoever completes a registration has sent the code that was issued and not used. -/
theorem Handled.redeemed {story : Story} (h : Handled policy job course story) {call : StoreCall}
    (proper : Proper policy job course (.store call)) (completes : call.newState? = some registered) :
    Renewed policy job.message.conversation (Text.trim job.message.content) story.past := by
  cases proper.due_of_change completes with
  | @complete code login check user history text inTime right =>
      have kept : ∀ e ∈ course, e.newState? = none := by
        rw [history]
        cases inTime <;> simp [Exchange.newState?, StoreCall.newState?]
      obtain ⟨issued, renewed, _, read⟩ := h.shown (by simp [history]) kept
      have same : code = issued := read code (by simp [history])
      have typed : Text.trim job.message.content = code := by
        simp only [isRightCode, Bool.and_eq_true, decide_eq_true_eq] at right
        exact right.2
      rw [typed, same]
      exact renewed
  | register | cancel | codeSent | sessionGone | expired | loginGone =>
      exact absurd (Option.some.inj completes) (by decide)

/-- What is known of the conversations of the bot. -/
def redemption (policy : Policy) (quizUrl : Option String) :
    Outline (routes policy quizUrl).handle where
  resting := Redeemable policy
  underway := Handled policy
  resting_fades := Redeemable.fades
  underway_fades := Handled.fades
  start := Handled.start
  leave := Handled.redeemable
  ask h comes told := h.ask ((along_routes policy quizUrl _).comes comes).1.1 told

theorem Issue.draws {run : List Exchange} (issue : Issue policy c code run) :
    ∃ e ∈ run, e.drawnCode? = some code := by
  obtain ⟨job, _, _, _, _, _, rfl⟩ := issue
  refine ⟨⟨job, .newCode, .ok code⟩, ?_, rfl⟩
  exact List.mem_append_right _ (List.mem_append_right _ (by simp))

theorem Issue.unregistered {run : List Exchange} (issue : Issue policy c code run) :
    ∀ e ∈ run, e.newState? ≠ some registered := by
  obtain ⟨job, _, _, _, _, _, rfl⟩ := issue
  have other : awaitingCode ≠ registered := by decide
  rw [issuing, expiryNoted]
  split <;> simp [Exchange.newState?, StoreCall.newState?, other]

/-- Between two registrations of which the later one is for a renewed code, the code was issued. -/
theorem Renewed.between {mid earlier : List Exchange}
    (renewed : Renewed policy c code (mid ++ e :: earlier)) (registers : e.newState? = some registered) :
    ∃ since run before, mid = since ++ run ++ before ∧ Issue policy c code run := by
  obtain ⟨since, run, before, split, issue, unused⟩ := renewed
  rcases List.append_eq_append_iff.mp split with ⟨rest, whole, tail⟩ | ⟨rest, whole, _⟩
  · -- The earlier registration would be within the issue or after it.
    cases rest with
    | nil => exact ⟨since, run, [], by rw [whole, List.append_nil, List.append_nil], issue⟩
    | cons e' rest =>
        obtain ⟨rfl, _⟩ := List.cons.inj tail
        have mem : e ∈ since ++ run := by rw [whole]; simp
        rcases List.mem_append.mp mem with after | within
        · exact absurd registers (unused e after)
        · exact absurd registers (issue.unregistered e within)
  · exact ⟨since, run, rest, whole, issue⟩

/-- Where every registration is for a renewed code, there are no more of them than codes were drawn. -/
theorem registrations_le_draws (past : List Exchange)
    (renewed : ∀ later e earlier, past = later ++ e :: earlier → e.newState? = some registered →
      ∃ code, Renewed policy c code earlier) :
    past.countP (·.newState? = some registered) ≤ past.countP (·.drawnCode?.isSome) := by
  induction length : past.length using Nat.strongRecOn generalizing past with
  | ind n ih =>
  cases past with
  | nil => exact Nat.le_refl _
  | cons e past =>
  have shorter : ∀ later earlier, past = later ++ earlier →
      earlier.countP (·.newState? = some registered) ≤ earlier.countP (·.drawnCode?.isSome) := by
    intro later earlier split
    refine ih earlier.length ?_ earlier (fun later' e' earlier' split' => ?_) rfl
    · rw [← length, split, List.length_cons, List.length_append]
      omega
    · exact renewed (e :: later ++ later') e' earlier' (by rw [split, split']; simp)
  by_cases registers : e.newState? = some registered
  · obtain ⟨code, since, run, before, split, issue, unused⟩ := renewed [] e past rfl registers
    obtain ⟨draw, mem, drawn⟩ := issue.draws
    have one : 1 ≤ run.countP (·.drawnCode?.isSome) :=
      List.countP_pos_iff.mpr ⟨draw, mem, by rw [drawn]; rfl⟩
    have none : (since ++ run).countP (·.newState? = some registered) = 0 := by
      refine List.countP_eq_zero.mpr fun e mem => ?_
      rcases List.mem_append.mp mem with after | within
      · simpa using unused e after
      · simpa using issue.unregistered e within
    have rest := shorter (since ++ run) before split
    calc
      (e :: past).countP (·.newState? = some registered)
          = before.countP (·.newState? = some registered) + 1 := by
            rw [List.countP_cons_of_pos (by simpa using registers), split, List.countP_append, none]
            omega
      _ ≤ before.countP (·.drawnCode?.isSome) + run.countP (·.drawnCode?.isSome) := by omega
      _ ≤ past.countP (·.drawnCode?.isSome) := by
            rw [split, List.countP_append, List.countP_append]
            omega
      _ ≤ (e :: past).countP (·.drawnCode?.isSome) := (List.sublist_cons_self e past).countP_le
  · calc
      (e :: past).countP (·.newState? = some registered)
          = past.countP (·.newState? = some registered) :=
            List.countP_cons_of_neg (by simpa using registers)
      _ ≤ past.countP (·.drawnCode?.isSome) := shorter [] past rfl
      _ ≤ (e :: past).countP (·.drawnCode?.isSome) := (List.sublist_cons_self e past).countP_le

/-- A state other than the default one comes about by an exchange about its conversation. -/
theorem exchange_of_reads {route : Handler} {a a' : Session.Affairs} {move : Move}
    (effect : Session.Effect route a move a') (minding : a.Minding) {state : State}
    (stored : state ≠ .default) (before : (a.memory.record c).reads ≠ state)
    (after : (a'.memory.record c).reads = state) :
    ∃ e, a'.exchanges = e :: a.exchanges ∧ e.conversation = c ∧ e.newState? = some state := by
  cases effect with
  | none | start | finish | kill => exact absurd after before
  | @ask id job r next chance working =>
      have own := (minding id job _ working).1
      by_cases this_one : c = job.message.conversation
      · subst this_one
        obtain ⟨answer, story⟩ := a.story_ask id next chance own
        refine ⟨_, rfl, rfl, ?_⟩
        have record := congrArg Story.record story
        rw [show (a.ask id job r next chance).memory.record _ = _ from record,
          ← chance.carryOut_answer job, Record.reads_carryOut, ← answer] at after
        cases change : Exchange.newState? _ with
        | none =>
            rw [change] at after
            exact absurd after before
        | some state' =>
            rw [change] at after
            exact congrArg some after
      · have record : (a.ask id job r next chance).memory.record c = a.memory.record c :=
          congrArg Story.record (a.story_ask_other next chance own this_one)
        rw [record] at after
        exact absurd after before
  | forgetState c' =>
      rw [Memory.record_forgetState] at after
      split at after
      · exact absurd after.symm stored
      · exact absurd after before
  | forgetScratch c' =>
      rw [Memory.record_forgetScratch] at after
      split at after <;> exact absurd after before

/-- From an empty store, whatever messages come in whatever order, whatever fails and whatever is
evicted when:

The state of a conversation becomes that of a registration only by an exchange about it. Each such
exchange is for a message that says the code that was issued last, from the login to the state in
which the code is expected, and nobody was registered in the conversation since then. So between two
registrations of a conversation a login was taken from beginning to end, with a code drawn for it,
and there are no more registrations than codes were drawn. -/
theorem registered_once_per_code (policy : Policy) (quizUrl : Option String) (moves : List Move)
    (c : Conversation) :
    let route := (routes policy quizUrl).handle
    let s := Session.run route .empty moves
    let log := Session.about c s.exchanges
    (∀ move, (s.memory.record c).reads ≠ registered →
      ((s.step route move).memory.record c).reads = registered →
        ∃ e, (s.step route move).exchanges = e :: s.exchanges ∧ e.conversation = c ∧
          e.newState? = some registered) ∧
    (∀ later e earlier, log = later ++ e :: earlier → e.newState? = some registered →
      Renewed policy c (Text.trim e.job.message.content) earlier) ∧
    (∀ later e mid e' earlier, log = later ++ e :: (mid ++ e' :: earlier) →
      e.newState? = some registered → e'.newState? = some registered →
        ∃ since run before, mid = since ++ run ++ before ∧
          Issue policy c (Text.trim e.job.message.content) run) ∧
    log.countP (·.newState? = some registered) ≤ log.countP (·.drawnCode?.isSome) := by
  intro route s log
  have minds := minds_routes policy quizUrl
  have outlined := Session.outlined_run (redemption policy quizUrl) .empty moves minds
    fun c state => by cases state
  have renewed : ∀ later e earlier, log = later ++ e :: earlier →
      e.newState? = some registered → Renewed policy c (Text.trim e.job.message.content) earlier := by
    intro later e earlier split registers
    obtain ⟨later', earlier', split', rfl, rfl⟩ := Session.about_split split
    obtain ⟨record, course, next, handled, comes⟩ := outlined.asked split'
    obtain ⟨call, v, accepted, changes⟩ := Exchange.accepted_of_newState? registers
    have asked : e.request = .store call := congrArg Exchange.request accepted
    have proper := ((along_routes policy quizUrl e.job).comes comes).1.1
    exact Handled.redeemed handled (asked ▸ proper) changes
  refine ⟨fun move before after => ?_, renewed, fun later e mid e' earlier split registers earlier_one =>
    ?_, registrations_le_draws log fun later e earlier split registers =>
      ⟨_, renewed later e earlier split registers⟩⟩
  · exact exchange_of_reads (Session.effect_step route s move)
      (Session.minding_run .empty moves minds) (by decide) before after
  · exact (renewed later e _ split registers).between earlier_one

end Registration

end Registrar
