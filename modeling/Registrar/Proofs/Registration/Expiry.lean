import Registrar.Proofs.Registration.StateMachine
import Registrar.Proofs.Time.Rfc3339

/-!
No code is honoured after it has expired.

A code without a moment of expiry counts as one that has not expired, so that the expiry of a code
must never be missing while the code is there. What is written for a login, its code and its expiry
is written before a code is expected, and stays or is evicted as a whole; `WhileAwaiting` says so of
whatever the fields should hold, here of their `DatedFields`.

* `upkept_whileAwaiting`: the courses of handlers keep up what is said of a code that is expected.
* `enrolled_in_time`: a user who is entered for a code has sent it in time.
-/

namespace Registrar.Registration

variable {policy : Policy} {c : Conversation} {job : Job} {course past : List Exchange}
  {e : Exchange} {code : String} {expires : Instant}

def StoresCode (e : Exchange) : Prop :=
  ∃ job c v, e = ⟨job, .store (.setData c codeField v), .ok ()⟩

/-- A code was issued in the conversation, to expire at this moment, and no other was stored since. -/
def Dated (policy : Policy) (c : Conversation) (code : String) (expires : Instant)
    (past : List Exchange) : Prop :=
  ∃ issue issued since before, past = since ++ issuing policy issue code issued expires ++ before ∧
    issue.message.conversation = c ∧ issued.addSeconds? policy.validity = some expires ∧
      ∀ e ∈ since, ¬ StoresCode e

/-- While a code is expected, the scratch fields hold what they should after what was exchanged, or
nothing. -/
def WhileAwaiting (sound : (String → Option String) → List Exchange → Prop) (story : Story) : Prop :=
  story.record.state = some awaitingCode → story.record.scratch = none ∨
    sound story.record.text? story.past

/-- Scratch fields hold what they should when a code was issued, and go on to as long as no other is
stored. -/
structure Steady (policy : Policy) (c : Conversation)
    (sound : (String → Option String) → List Exchange → Prop) : Prop where
  issued {texts : String → Option String} {past : List Exchange} {job : Job} {code : String}
    {issued expires : Instant} : job.message.conversation = c →
    issued.addSeconds? policy.validity = some expires →
    texts codeField = some (Json.string code).print →
    (policy.enforceExpiry = true →
      texts expiryField = some (Json.string (Rfc3339.writeOffset expires)).print) →
    sound texts (issuing policy job code issued expires ++ past)
  tell {texts : String → Option String} {past : List Exchange} {e : Exchange} :
    sound texts past → ¬ StoresCode e → sound texts (e :: past)

theorem Dated.tell (dated : Dated policy c code expires past) (silent : ¬ StoresCode e) :
    Dated policy c code expires (e :: past) := by
  obtain ⟨issue, issued, since, before, rfl, own, expiry, latest⟩ := dated
  exact ⟨issue, issued, e :: since, before, rfl, own, expiry,
    List.forall_mem_cons.mpr ⟨silent, latest⟩⟩

/-- The fields of a code and of the moment at which it expires hold those of the code that was issued
last. -/
def DatedFields (policy : Policy) (c : Conversation) (texts : String → Option String)
    (past : List Exchange) : Prop :=
  ∃ code expires, Dated policy c code expires past ∧
    texts codeField = some (Json.string code).print ∧
    texts expiryField = some (Json.string (Rfc3339.writeOffset expires)).print

theorem steady_dated (enforced : policy.enforceExpiry = true) (c : Conversation) :
    Steady policy c (DatedFields policy c) where
  issued := by
    intro texts past job code issued expires own expiry codeText expiryText
    refine ⟨code, expires, ⟨job, issued, [], past, ?_, own, expiry, by simp⟩, codeText,
      expiryText enforced⟩
    rw [List.nil_append]
  tell := by
    rintro texts past e ⟨code, expires, dated, texts⟩ silent
    exact ⟨code, expires, dated.tell silent, texts⟩

variable {sound : (String → Option String) → List Exchange → Prop}

theorem WhileAwaiting.fades {r r' : Record} (awaiting : WhileAwaiting sound ⟨r, past⟩)
    (fades : r.Fades r') : WhileAwaiting sound ⟨r', past⟩ := by
  intro state
  rcases fades.scratch with same | gone
  · have before : r.state = some awaitingCode := by
      rcases fades.state with same | gone
      · exact same.symm.trans state
      · cases gone.symm.trans state
    have text : r'.text? = r.text? := by
      funext field
      rw [Record.text?, same]
      rfl
    have fields := awaiting before
    simp only [← same, ← text] at fields
    exact fields
  · exact .inl gone

/-- An exchange that neither touches the record nor stores a code. -/
theorem WhileAwaiting.tell {r : Record} (awaiting : WhileAwaiting sound ⟨r, past⟩)
    (steady : Steady policy c sound) (silent : ¬ StoresCode e) :
    WhileAwaiting sound ⟨r, e :: past⟩ :=
  fun state => (awaiting state).imp_right (steady.tell · silent)

/-- What is written to a scratch field is written before the state changes. -/
theorem Noting.awaiting {field text : String} (noting : Noting policy job course field text) :
    found job awaitingLogin ∈ course ∧ ∀ e ∈ course, e.newState? = none := by
  cases noting with
  | login start => simp [start, Exchange.newState?, StoreCall.newState?]
  | code drawn => simp [drawn, Exchange.newState?, StoreCall.newState?]
  | expiry enforced timed => simp [timed, Exchange.newState?, StoreCall.newState?]

theorem reads_replay {r : Record} (kept : ∀ e ∈ course, e.newState? = none) :
    (r.replay course).reads = r.reads := by
  induction course with
  | nil => rfl
  | cons e course ih =>
      obtain ⟨here, rest⟩ := List.forall_mem_cons.mp kept
      rw [Record.replay_cons, Record.reads_carryOut, here]
      exact ih rest

/-- What follows when a code was stored until it is expected. -/
abbrev announcing (job : Job) (mail : Email) (sent : Except EmailError Unit) (now : Instant) :
    List Exchange :=
  [⟨job, .store (.set job.message.conversation awaitingCode), .ok ()⟩, ⟨job, .deliver mail, sent⟩,
    ⟨job, .clock, now⟩]

theorem silent_announcing {mail : Email} {sent : Except EmailError Unit} {now : Instant} :
    ∀ e ∈ announcing job mail sent now, ¬ StoresCode e := by
  rintro e mem ⟨_, _, _, rfl⟩
  simp only [List.mem_cons, List.not_mem_nil, or_false] at mem
  rcases mem with same | same | same <;> cases same

/-- When a code comes to be expected, it was stored, together with its expiry if that is enforced. -/
theorem Steady.codeSent (steady : Steady policy job.message.conversation sound)
    {issued now : Instant} {sent : Except EmailError Unit} {mail : Email}
    (expiry : issued.addSeconds? policy.validity = some expires) (r : Record) :
    sound (r.replay (announcing job mail sent now ++ issuing policy job code issued expires)).text?
      (announcing job mail sent now ++ issuing policy job code issued expires ++ past) := by
  have other : codeField ≠ expiryField := by decide
  have silent : ∀ e ∈ announcing job mail sent now, ¬ StoresCode e := silent_announcing
  simp only [List.forall_mem_cons] at silent
  obtain ⟨silent₁, silent₂, silent₃, -⟩ := silent
  refine steady.tell (steady.tell (steady.tell (steady.issued rfl expiry ?_ ?_) silent₃)
    silent₂) silent₁
  · by_cases enforced : policy.enforceExpiry = true
    · rw [issuing, expiryNoted, if_pos enforced]
      change Record.text? (Record.perform (Record.perform _
        (.setData job.message.conversation codeField _)).2
          (.setData job.message.conversation expiryField _)).2 codeField = _
      rw [Record.text?_setData, if_neg other, Record.text?_setData, if_pos rfl]
    · rw [issuing, expiryNoted, if_neg enforced]
      change Record.text? (Record.perform _ (.setData job.message.conversation codeField _)).2
        codeField = _
      rw [Record.text?_setData, if_pos rfl]
  · intro enforced
    rw [issuing, expiryNoted, if_pos enforced]
    change Record.text? (Record.perform _
      (.setData job.message.conversation expiryField _)).2 expiryField = _
    rw [Record.text?_setData, if_pos rfl]

/-- What scratch fields should hold while a code is expected they hold after the course of a message,
too. -/
theorem WhileAwaiting.replay (steady : Steady policy job.message.conversation sound) {r : Record}
    (awaiting : WhileAwaiting sound ⟨r, past⟩) (lawful : Lawful policy job course)
    (truthful : r.Truthful course) :
    WhileAwaiting sound ⟨r.replay course, course ++ past⟩ := by
  induction course with
  | nil => exact awaiting
  | cons e course ih =>
      have before := ih lawful.tail fun later job call v earlier split =>
        truthful (e :: later) job call v earlier (by rw [split]; rfl)
      obtain ⟨own, proper⟩ := lawful [] e course rfl
      obtain ⟨job', request, answer⟩ := e
      have own : job' = job := own
      subst own
      cases request with
      | store call =>
          cases answer with
          | error fault => exact before.tell steady (by rintro ⟨_, _, _, same⟩; cases same)
          | ok v =>
              cases call with
              | get | getData =>
                  exact before.tell steady (by rintro ⟨_, _, _, same⟩; cases same)
              | delete => exact fun state => by cases state
              | clearData => exact fun _ => .inl rfl
              | set c state =>
                  have due : Due policy job' course (.set c state) := proper.fitting
                  cases due with
                  | codeSent history _ _ expiry =>
                      subst history
                      exact fun _ => .inr (steady.codeSent expiry r)
                  | register | sessionGone | expired | complete | loginGone =>
                      exact fun same => absurd (Option.some.inj same) (by decide)
              | setData c field value =>
                  -- Scratch fields are written while a login is expected.
                  obtain ⟨text, _, noting⟩ := proper.fitting
                  obtain ⟨found, kept⟩ := noting.awaiting
                  have login := lawful.tail.read_eq (fun later job call v earlier split =>
                    truthful (_ :: later) job call v earlier (by rw [split]; rfl)) found
                  intro state
                  have state : (r.replay course).state = some awaitingCode := state
                  have reads := reads_replay (r := r) kept
                  rw [← login, Record.reads, state] at reads
                  exact absurd reads (by decide)
      | _ => exact before.tell steady (by rintro ⟨_, _, _, same⟩; cases same)

/-- The courses of handlers keep it up. -/
theorem upkept_whileAwaiting (policy : Policy) (quizUrl : Option String)
    {sound : Conversation → (String → Option String) → List Exchange → Prop}
    (steady : ∀ c, Steady policy c (sound c)) :
    Session.Upkept (routes policy quizUrl).handle fun c => WhileAwaiting (sound c) := by
  intro job story course p awaiting comes truthful
  exact awaiting.replay (steady _) ((along_routes policy quizUrl job).comes comes).2 truthful

/-- What was read from a field in the course is the text that it held. -/
theorem read_eq {r : Record} (truthful : r.Truthful course) {later earlier : List Exchange}
    {field : String} {text? : Option String} {value : String}
    (split : course = later ++ readText job field text? :: earlier)
    (holds : (r.replay earlier).text? field = some (Json.string value).print) :
    text? = some value := by
  have answer := truthful later job (.getData job.message.conversation field) _ earlier split
  rw [Record.perform_getText _ holds] at answer
  cases text? with
  | none => cases answer
  | some text =>
      cases answer
      rfl

/-- A user is entered as one who was registered before, or for a code that was in time and was read
while the scratch fields held what they should. -/
theorem enrolling_of_whileAwaiting {r : Record} {login : String}
    (awaiting : WhileAwaiting sound ⟨r, past⟩) (truthful : r.Truthful course)
    (lawful : Lawful policy job course) (enrolling : Enrolling policy job course login) :
    course = [readText job loginField (some login), found job registered] ∨
      ∃ code check, course = check ++ entered job (some code) (some login) ∧
        InTime policy job check ∧ isRightCode policy code job.message.content = true ∧
        sound r.text? past ∧
        ∀ value, r.text? codeField = some (Json.string value).print → code = value := by
  cases enrolling with
  | again read => exact .inl read
  | @shown code check read inTime right =>
      have state : r.state = some awaitingCode := by
        have mem : found job awaitingCode ∈ course := by simp [read]
        exact state_eq_some (lawful.read_eq truthful mem).symm (by decide)
      have codeRead : course = (check ++ [readText job loginField (some login)]) ++
          readText job codeField (some code) :: [found job awaitingCode] := by simp [read]
      refine .inr ⟨code, check, read, inTime, right, ?_, fun value holds =>
        Option.some.inj (read_eq truthful codeRead holds)⟩
      rcases awaiting state with gone | fields
      · -- The code is there, so the fields have not been evicted.
        have answer := truthful _ job (.getData job.message.conversation codeField) _ _ codeRead
        have nothing : r.text? codeField = none := by rw [Record.text?, gone]; rfl
        simp only [Record.replay_cons, Record.replay_nil, Exchange.carryOut, Record.perform,
          nothing] at answer
        cases answer
      · exact fields

/-- A code whose expiry is in its field is in time only if that was compared with the clock last of
all. -/
theorem InTime.compared {r : Record} {check : List Exchange} {login : String}
    (inTime : InTime policy job check) (enforced : policy.enforceExpiry = true)
    (truthful : r.Truthful (check ++ entered job (some code) (some login)))
    (holds : r.text? expiryField = some (Json.string (Rfc3339.writeOffset expires)).print) :
    ∃ now, check = [⟨job, .clock, now⟩,
        readText job expiryField (some (Rfc3339.writeOffset expires))] ∧
      expires.before now = false := by
  cases inTime with
  | unchecked free => cases enforced.symm.trans free
  | unlimited =>
      have read : [readText job expiryField none] ++ entered job (some code) (some login) =
        [] ++ readText job expiryField none :: entered job (some code) (some login) := rfl
      cases read_eq truthful read holds
  | @early _ raw expires' now readRaw early =>
      have read : [⟨job, .clock, now⟩, readText job expiryField (some raw)] ++
          entered job (some code) (some login) = [⟨job, .clock, now⟩] ++
            readText job expiryField (some raw) :: entered job (some code) (some login) := rfl
      cases read_eq truthful read holds
      have same := Rfc3339.eq_of_readStrict readRaw
      subst same
      exact ⟨now, rfl, early⟩

/-- A user is entered as one who was registered before, or for a code that was read together with its
expiry and compared with the clock last of all. -/
theorem enrolling_of_dated (enforced : policy.enforceExpiry = true) {r : Record} {login : String}
    (awaiting : WhileAwaiting (DatedFields policy job.message.conversation) ⟨r, past⟩)
    (truthful : r.Truthful course) (lawful : Lawful policy job course)
    (enrolling : Enrolling policy job course login) :
    course = [readText job loginField (some login), found job registered] ∨
      ∃ code expires now, course = ⟨job, .clock, now⟩ ::
          readText job expiryField (some (Rfc3339.writeOffset expires)) ::
            entered job (some code) (some login) ∧
        isRightCode policy code job.message.content = true ∧
        Dated policy job.message.conversation code expires past ∧ expires.before now = false := by
  rcases enrolling_of_whileAwaiting awaiting truthful lawful enrolling with
    again | ⟨code, check, read, inTime, right, ⟨_, expires, dated, codeText, expiryText⟩, same⟩
  · exact .inl again
  · cases same _ codeText
    subst read
    obtain ⟨now, rfl, early⟩ := inTime.compared enforced truthful expiryText
    exact .inr ⟨code, expires, now, rfl, right, dated, early⟩

/-- Expiry is enforced, and nothing is evicted while a message of the conversation is handled. Then,
whatever messages come in whatever order, whatever fails and whatever the clock shows: whoever is
entered as a user either was found to be registered, or has sent the code that was issued last, and
the clock that was read last did not show a later time than the moment of expiry, which is the time
that the clock showed when the code was issued and the validity of codes after it. -/
theorem enrolled_in_time (policy : Policy) (enforced : policy.enforceExpiry = true)
    (quizUrl : Option String) (moves : List Move)
    (considerate : Session.Considerate (routes policy quizUrl).handle .empty moves)
    {later earlier : List Exchange} {job : Job} {login : String} {id : Option Int64} {roles : Roles}
    {answer : Except UsersError UserRecord}
    (split : (Session.run (routes policy quizUrl).handle .empty moves).exchanges =
      later ++ ⟨job, .enroll login id roles, answer⟩ :: earlier) :
    ∃ course past, Session.about job.message.conversation earlier = course ++ past ∧
      (course = [readText job loginField (some login), found job registered] ∨
        ∃ code expires now, course = ⟨job, .clock, now⟩ ::
            readText job expiryField (some (Rfc3339.writeOffset expires)) ::
              entered job (some code) (some login) ∧
          Text.trim job.message.content = code ∧
          Dated policy job.message.conversation code expires past ∧
          expires.before now = false) := by
  have kept := Session.kept_run .empty moves (minds_routes policy quizUrl)
    (upkept_whileAwaiting policy quizUrl (steady_dated enforced))
    (fun _ _ _ _ awaiting faded => awaiting.fades faded) (fun c state => by cases state) considerate
  obtain ⟨story, course, next, awaiting, comes, truthful, about⟩ := kept.asked split
  obtain ⟨along, lawful⟩ := (along_routes policy quizUrl job).comes comes
  obtain ⟨_, _, enrolling⟩ := along.1.fitting
  refine ⟨course, story.past, about, ?_⟩
  rcases enrolling_of_dated enforced awaiting truthful lawful enrolling with
    again | ⟨code, expires, now, read, right, dated, early⟩
  · exact .inl again
  · have typed : Text.trim job.message.content = code := by
      have both := right
      simp only [isRightCode, Bool.and_eq_true, decide_eq_true_eq] at both
      exact both.2
    exact .inr ⟨code, expires, now, read, typed, dated, early⟩

/-- A code that comes back within the minute for which it is valid. -/
theorem enrolled_in_time_same_minute :
    let message (text : String) : Message := ⟨text, ⟨7, none, none, none⟩, ⟨1, "private"⟩, text, .epoch⟩
    let chance : Chance := ⟨0, none, .epoch, .ok "4711", .ok (), .error (.database ""), .ok ()⟩
    let policy : Policy := ⟨4, 60, false, true, none⟩
    let moves : List Move :=
      [.call (message "/register"), .call (message " ann "), .call (message "4711"), .send 0 0,
        .send 0 1, .send 0 2, .start 0, .ask 0 chance, .ask 0 chance, .conclude 1 0, .start 0] ++
      List.replicate 10 (.ask 0 chance) ++ [.conclude 2 0, .start 0] ++
      List.replicate 6 (.ask 0 chance)
    policy.enforceExpiry = true ∧ Session.Considerate (routes policy none).handle .empty moves ∧
      ∃ later earlier job answer course past,
        (Session.run (routes policy none).handle .empty moves).exchanges =
          later ++ ⟨job, .enroll "ann" (some 7) Roles.user, answer⟩ :: earlier ∧
        Session.about job.message.conversation earlier = course ++ past ∧
        (course = [readText job loginField (some "ann"), found job registered] ∨
          ∃ code expires now, course = ⟨job, .clock, now⟩ ::
              readText job expiryField (some (Rfc3339.writeOffset expires)) ::
                entered job (some code) (some "ann") ∧
            Text.trim job.message.content = code ∧
            Dated policy job.message.conversation code expires past ∧
            expires.before now = false) := by
  intro message chance policy moves
  have considerate : Session.Considerate (routes policy none).handle .empty moves :=
    Session.considerate_of_all rfl
  have found : (Session.run (routes policy none).handle .empty moves).exchanges.findSome? entered? =
      some ("ann", some 7, Roles.user) := by decide +kernel
  obtain ⟨⟨job, r, answer⟩, mem, entered⟩ := List.exists_of_findSome?_eq_some found
  cases r with
  | enroll login id roles =>
      cases entered
      obtain ⟨later, earlier, split⟩ := List.append_of_mem mem
      obtain ⟨course, past, rest⟩ := enrolled_in_time policy rfl none moves considerate split
      exact ⟨rfl, considerate, later, earlier, job, answer, course, past, split, rest⟩
  | _ => cases entered

end Registrar.Registration
