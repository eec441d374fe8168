import Registrar.Proofs.Registration.Expiry

/-!
Codes that outlive the process that issued them.

A process may end at any moment, and the next one may be set up in another way. It goes on from the
states and scratch fields that it finds, and whether it enforces that codes expire says nothing of
whether those before it did. A code was stored together with its expiry just if that was enforced when
it was issued, so that the invariant of one process (`Steady`) has to be carried from each to the next
with the history of all of them.

* `Legacy.Sound.next`: what a process finds sound it leaves sound, however it is set up.
* `Legacy.asked_after`: whatever was ever asked belongs to the course of a message that found things
  sound.
* `enrolled_in_time_after_restarts`: where expiry is enforced, nobody is entered late for a code that
  was issued where it was enforced.
* `undated_code_honoured`: for any other code somebody may be.
-/

namespace Registrar.Registration

/-! ### Processes one after another -/

/-- How a process is set up, and what happens until it ends. -/
structure Life where
  policy : Policy
  quizUrl : Option String
  moves : List Move

namespace Life

def route (life : Life) : Handler := (routes life.policy life.quizUrl).handle

/-- What becomes of the process, which finds this stored. -/
def session (life : Life) (memory : Memory) : Session := Session.run life.route memory life.moves

end Life

/-- What processes leave behind: what is stored, and what was exchanged under which policy, the latest
first. -/
structure Legacy where
  memory : Memory
  history : List (Policy × Exchange)

namespace Legacy

def next (legacy : Legacy) (life : Life) : Legacy :=
  let session := life.session legacy.memory
  ⟨session.memory, session.exchanges.map (life.policy, ·) ++ legacy.history⟩

/-- What processes leave behind of which the first finds nothing. -/
def after (lives : List Life) : Legacy := lives.foldl next ⟨.empty, []⟩

theorem after_concat (lives : List Life) (life : Life) :
    after (lives ++ [life]) = (after lives).next life :=
  List.foldl_concat ..

/-- What is in the history after one process more either was there before, or was exchanged by that
process. -/
theorem split_next {legacy : Legacy} {life : Life} {later earlier : List (Policy × Exchange)}
    {policy : Policy} {e : Exchange}
    (split : (legacy.next life).history = later ++ (policy, e) :: earlier) :
    (∃ later', legacy.history = later' ++ (policy, e) :: earlier) ∨
      ∃ later' earlier', (life.session legacy.memory).exchanges = later' ++ e :: earlier' ∧
        policy = life.policy ∧ earlier = earlier'.map (life.policy, ·) ++ legacy.history := by
  rcases List.append_eq_append_iff.mp split with ⟨later', -, old⟩ | ⟨recent, own, rest⟩
  · exact .inl ⟨later', old⟩
  · rcases List.cons_eq_append_iff.mp rest with ⟨-, old⟩ | ⟨recent, rfl, rfl⟩
    · exact .inl ⟨[], old⟩
    · obtain ⟨later', rest, exchanges, -, rest_eq⟩ := List.map_eq_append_iff.mp own
      obtain ⟨e', earlier', rfl, same, rfl⟩ := List.map_eq_cons_iff.mp rest_eq
      cases same
      exact .inr ⟨later', earlier', exchanges, rfl, rfl⟩

/-- Nothing of a conversation is evicted while a process handles one of its messages. -/
def Considerate (lives : List Life) : Prop :=
  ∀ before life rest, lives = before ++ life :: rest →
    Session.Considerate life.route (after before).memory life.moves

/-- Nothing is evicted at all. -/
theorem considerate_of_all {lives : List Life}
    (none : (lives.all fun life => life.moves.all (!·.isEviction)) = true) : Considerate lives := by
  intro before life rest split
  exact Session.considerate_of_all (List.all_eq_true.mp none life (by rw [split]; simp))

theorem Considerate.init {lives : List Life} {life : Life} (considerate : Considerate (lives ++ [life])) :
    Considerate lives := by
  intro before first rest split
  refine considerate before first (rest ++ [life]) ?_
  rw [split, List.append_assoc, List.cons_append]

def about (c : Conversation) (history : List (Policy × Exchange)) : List (Policy × Exchange) :=
  history.filter (·.2.conversation = c)

theorem about_append_map (c : Conversation) (policy : Policy) (exchanges : List Exchange)
    (history : List (Policy × Exchange)) :
    about c (exchanges.map (policy, ·) ++ history) =
      (Session.about c exchanges).map (policy, ·) ++ about c history := by
  rw [about, List.filter_append, List.filter_map]
  rfl

end Legacy

/-! ### Codes that are found -/

variable {policy : Policy} {c : Conversation} {lives : List Life} {life : Life} {legacy : Legacy}

/-- A code was issued in the conversation under this policy, to be valid until this moment, and no
other was stored since. -/
def IssuedUnder (policy : Policy) (c : Conversation) (code : String) (expires : Instant)
    (history : List (Policy × Exchange)) : Prop :=
  ∃ issue issued since before,
    history = since ++ (issuing policy issue code issued expires).map (policy, ·) ++ before ∧
      issue.message.conversation = c ∧ issued.addSeconds? policy.validity = some expires ∧
        ∀ e ∈ since, ¬ StoresCode e.2

/-- The field of a code holds the one that was issued last, and that of its expiry holds it if that was
enforced then. -/
def IssuedFields (c : Conversation) (texts : String → Option String)
    (history : List (Policy × Exchange)) : Prop :=
  ∃ policy code expires, IssuedUnder policy c code expires history ∧
    texts codeField = some (Json.string code).print ∧
    (policy.enforceExpiry = true →
      texts expiryField = some (Json.string (Rfc3339.writeOffset expires)).print)

/-- A process keeps this up, whatever was exchanged before it began. -/
theorem steady_issuedFields (policy : Policy) (c : Conversation)
    (before : List (Policy × Exchange)) :
    Steady policy c fun texts past => IssuedFields c texts (past.map (policy, ·) ++ before) where
  issued := by
    intro texts past job code issued expires own expiry codeText expiryText
    refine ⟨policy, code, expires, ⟨job, issued, [], past.map (policy, ·) ++ before, ?_, own, expiry,
      by simp⟩, codeText, expiryText⟩
    rw [List.nil_append, List.map_append, List.append_assoc]
  tell := by
    rintro texts past e ⟨issuer, code, expires, ⟨issue, issued, since, rest, split, own, expiry,
      latest⟩, fields⟩ silent
    refine ⟨issuer, code, expires, ⟨issue, issued, (policy, e) :: since, rest, ?_, own, expiry,
      List.forall_mem_cons.mpr ⟨silent, latest⟩⟩, fields⟩
    rw [List.map_cons, List.cons_append, split]
    rfl

/-- While a code is expected in a conversation, its fields are those of the code that was issued
last, or nothing. -/
def Legacy.Sound (legacy : Legacy) : Prop :=
  ∀ c, WhileAwaiting (fun texts _ => IssuedFields c texts (about c legacy.history))
    ⟨legacy.memory.record c, []⟩

/-- A process that begins with sound fields keeps them so. -/
theorem Legacy.Sound.kept (sound : legacy.Sound) (life : Life)
    (considerate : Session.Considerate life.route legacy.memory life.moves) :
    Session.Kept life.route
      (fun c => WhileAwaiting fun texts past =>
        IssuedFields c texts (past.map (life.policy, ·) ++ about c legacy.history))
      (life.session legacy.memory).affairs :=
  Session.kept_run legacy.memory life.moves (minds_routes life.policy life.quizUrl)
    (upkept_whileAwaiting life.policy life.quizUrl fun c =>
      steady_issuedFields life.policy c (about c legacy.history))
    (fun _ _ _ _ awaiting faded => awaiting.fades faded) sound considerate

theorem Legacy.Sound.next (sound : legacy.Sound)
    (considerate : Session.Considerate life.route legacy.memory life.moves) :
    (legacy.next life).Sound := by
  intro c
  have fields := (sound.kept life considerate).story c
  rw [Legacy.next, about_append_map]
  exact fields

theorem Legacy.sound_after (considerate : Considerate lives) : (after lives).Sound := by
  induction lives using List.reverseRecOn with
  | nil => exact fun c state => by cases state
  | append_singleton lives life ih =>
      rw [after_concat]
      exact (ih considerate.init).next (considerate lives life [] rfl)

/-- Every request was the next one of a message that had found sound fields and had exchanged this
since, under the policy of its process. -/
theorem Legacy.asked_after (considerate : Considerate lives)
    {later earlier : List (Policy × Exchange)} {e : Exchange}
    (split : (after lives).history = later ++ (policy, e) :: earlier) :
    ∃ quizUrl record course next past,
      WhileAwaiting (fun texts _ => IssuedFields e.conversation texts past) ⟨record, []⟩ ∧
      ((routes policy quizUrl).handle e.job.message).run.Comes e.job course (.ask e.request next) ∧
      record.Truthful course ∧
      about e.conversation earlier = course.map (policy, ·) ++ past := by
  induction lives using List.reverseRecOn generalizing later with
  | nil => cases (List.append_eq_nil_iff.mp split.symm).2
  | append_singleton lives life ih =>
      rw [after_concat] at split
      rcases split_next split with ⟨later', old⟩ | ⟨later', earlier', own, rfl, rfl⟩
      · exact ih considerate.init old
      · have kept := (sound_after considerate.init).kept life (considerate lives life [] rfl)
        obtain ⟨story, course, next, awaiting, comes, truthful, about_eq⟩ := kept.asked own
        refine ⟨life.quizUrl, story.record, course, next,
          story.past.map (life.policy, ·) ++ about e.conversation (after lives).history,
          awaiting, comes, truthful, ?_⟩
        rw [about_append_map, about_eq, List.map_append, List.append_assoc]

/-- Processes follow one another on the same store, each set up in its own way, and nothing of a
conversation is evicted while one of its messages is handled. Then, whatever messages come in whatever
order, whatever fails and whenever a process ends: whoever is entered by a process that enforces that
codes expire either was found to be registered, or has sent the code that was issued last. If expiry
was enforced where that was issued, the clock that was read last did not show a later time than the
moment of expiry, which is the time that the clock showed when the code was issued and the validity
of codes then. -/
theorem enrolled_in_time_after_restarts (lives : List Life) (considerate : Legacy.Considerate lives)
    {later earlier : List (Policy × Exchange)} {policy : Policy} {job : Job} {login : String}
    {id : Option Int64} {roles : Roles} {answer : Except UsersError UserRecord}
    (split : (Legacy.after lives).history =
      later ++ (policy, ⟨job, .enroll login id roles, answer⟩) :: earlier)
    (enforced : policy.enforceExpiry = true) :
    ∃ course past,
      Legacy.about job.message.conversation earlier = course.map (policy, ·) ++ past ∧
      (course = [readText job loginField (some login), found job registered] ∨
        ∃ check issuer code expires, course = check ++ entered job (some code) (some login) ∧
          Text.trim job.message.content = code ∧
          IssuedUnder issuer job.message.conversation code expires past ∧
          (issuer.enforceExpiry = true → ∃ now, check = [⟨job, .clock, now⟩,
              readText job expiryField (some (Rfc3339.writeOffset expires))] ∧
            expires.before now = false)) := by
  obtain ⟨quizUrl, record, course, next, past, awaiting, comes, truthful, about_eq⟩ :=
    Legacy.asked_after considerate split
  obtain ⟨along, lawful⟩ := (along_routes policy quizUrl job).comes comes
  obtain ⟨_, _, enrolling⟩ := along.1.fitting
  refine ⟨course, past, about_eq, ?_⟩
  rcases enrolling_of_whileAwaiting awaiting truthful lawful enrolling with
    again | ⟨code, check, rfl, inTime, right, ⟨issuer, _, expires, issued, codeText, expiryText⟩,
      same⟩
  · exact .inl again
  · cases same _ codeText
    have typed : Text.trim job.message.content = code := by
      simp only [isRightCode, Bool.and_eq_true, decide_eq_true_eq] at right
      exact right.2
    exact .inr ⟨check, issuer, code, expires, rfl, typed, issued, fun dated =>
      inTime.compared enforced truthful (expiryText dated)⟩

/-! ### One user and three processes -/

/-- Codes of four bytes are valid for so many seconds, and expire then or not. -/
def briefPolicy (validity : Nat) (enforceExpiry : Bool) : Policy :=
  ⟨4, validity, false, enforceExpiry, none⟩

def saying (text : String) : Message := ⟨text, ⟨7, none, none, none⟩, ⟨1, "private"⟩, text, .epoch⟩

def ann : UserRecord := ⟨"1", "ann", some 7, Roles.user, .epoch, .epoch⟩

/-- What is answered when the clock shows this, and this would be the next code. -/
def atTime (clock : Instant) (code : String) : Chance :=
  ⟨0, none, clock, .ok code, .ok (), .ok ann, .ok ()⟩

/-- The user asks to be registered and says a login, for which so many requests are made. -/
def issuingLife (policy : Policy) (code : String) (requests : Nat) : Life :=
  ⟨policy, none, [.call (saying "/register"), .call (saying "ann"), .send 0 0, .send 0 1, .start 0,
    .ask 0 (atTime .epoch code), .ask 0 (atTime .epoch code), .conclude 1 0, .start 0] ++
      List.replicate requests (.ask 0 (atTime .epoch code))⟩

/-- The user says a code when the clock shows this, for which so many requests are made. -/
def redeemingLife (policy : Policy) (clock : Instant) (requests : Nat) : Life :=
  ⟨policy, none, [.call (saying "4711"), .send 0 0, .start 0] ++
    List.replicate requests (.ask 0 (atTime clock "1234"))⟩

/-- The message with the login, where it was taken up second. -/
def loginJob : Job := ⟨1, saying "ann"⟩

def codeJob : Job := ⟨0, saying "4711"⟩

def enrolment : Exchange := ⟨codeJob, .enroll "ann" (some 7) Roles.user, .ok ann⟩

def minuteLater : Instant := ⟨60, 0, by decide, by decide⟩

def hourLater : Instant := ⟨3600, 0, by decide, by decide⟩

def dayLater : Instant := ⟨86400, 0, by decide, by decide⟩

set_option maxRecDepth 8000 in
theorem history_dated :
    (Legacy.after [issuingLife (briefPolicy 60 true) "4711" 9,
        redeemingLife (briefPolicy 86400 true) .epoch 6]).history =
      [] ++ (briefPolicy 86400 true, enrolment) ::
        (([⟨codeJob, .clock, .epoch⟩,
            readText codeJob expiryField (some (Rfc3339.writeOffset minuteLater))] ++
          entered codeJob (some "4711") (some "ann")).map (briefPolicy 86400 true, ·) ++
            (Legacy.after [issuingLife (briefPolicy 60 true) "4711" 9]).history) := by
  with_unfolding_all rfl

/-- A code that is sent to a process for which codes are valid longer than where it was issued. -/
theorem enrolled_in_time_after_restarts_other_validity :
    let policy := briefPolicy 86400 true
    let lives := [issuingLife (briefPolicy 60 true) "4711" 9, redeemingLife policy .epoch 6]
    Legacy.Considerate lives ∧ policy.enforceExpiry = true ∧
      ∃ earlier course past, (Legacy.after lives).history = [] ++ (policy, enrolment) :: earlier ∧
        Legacy.about codeJob.message.conversation earlier = course.map (policy, ·) ++ past ∧
        (course = [readText codeJob loginField (some "ann"), found codeJob registered] ∨
          ∃ check issuer code expires,
            course = check ++ entered codeJob (some code) (some "ann") ∧
            Text.trim codeJob.message.content = code ∧
            IssuedUnder issuer codeJob.message.conversation code expires past ∧
            (issuer.enforceExpiry = true → ∃ now, check = [⟨codeJob, .clock, now⟩,
                readText codeJob expiryField (some (Rfc3339.writeOffset expires))] ∧
              expires.before now = false)) := by
  intro policy lives
  have considerate : Legacy.Considerate lives := Legacy.considerate_of_all (by decide)
  obtain ⟨course, past, rest⟩ :=
    enrolled_in_time_after_restarts lives considerate history_dated rfl
  exact ⟨considerate, rfl, _, course, past, history_dated, rest⟩

/-- The lenient process has issued a code that is valid for a minute. -/
theorem issuedUnder_of_history {history : List (Policy × Exchange)}
    (split : history =
      (announcing loginJob (letter (briefPolicy 60 false) "ann" "4711" .epoch minuteLater) (.ok ())
          .epoch).map (briefPolicy 60 false, ·) ++
        (issuing (briefPolicy 60 false) loginJob "4711" .epoch minuteLater).map
          (briefPolicy 60 false, ·) ++ history.drop 8) :
    IssuedUnder (briefPolicy 60 false) ⟨1, 7⟩ "4711" minuteLater history :=
  ⟨loginJob, .epoch, _, _, split, rfl, rfl, List.forall_mem_map.mpr silent_announcing⟩

set_option maxRecDepth 8000 in
/-- Where expiry is not enforced, a code is issued without it, to be valid for a minute. After an hour
it is sent to a process that enforces expiry. The user is entered without a look at the clock. If an
earlier code was issued where expiry was enforced, the field still holds the expiry of that one, and
the user is entered when the clock shows that the minute is over. -/
theorem undated_code_honoured :
    let undated := [issuingLife (briefPolicy 60 false) "4711" 8]
    let misdated := issuingLife (briefPolicy 86400 true) "1234" 9 :: undated
    let redeeming := redeemingLife (briefPolicy 86400 true) hourLater
    minuteLater.before hourLater = true ∧
      (Legacy.Considerate (undated ++ [redeeming 5]) ∧
        IssuedUnder (briefPolicy 60 false) ⟨1, 7⟩ "4711" minuteLater (Legacy.after undated).history ∧
        (Legacy.after (undated ++ [redeeming 5])).history = (briefPolicy 86400 true, enrolment) ::
          (([readText codeJob expiryField none] ++
            entered codeJob (some "4711") (some "ann")).map (briefPolicy 86400 true, ·) ++
              (Legacy.after undated).history)) ∧
      Legacy.Considerate (misdated ++ [redeeming 6]) ∧
        IssuedUnder (briefPolicy 60 false) ⟨1, 7⟩ "4711" minuteLater
          (Legacy.after misdated).history ∧
        (Legacy.after (misdated ++ [redeeming 6])).history = (briefPolicy 86400 true, enrolment) ::
          (([⟨codeJob, .clock, hourLater⟩,
              readText codeJob expiryField (some (Rfc3339.writeOffset dayLater))] ++
            entered codeJob (some "4711") (some "ann")).map (briefPolicy 86400 true, ·) ++
              (Legacy.after misdated).history) := by
  refine ⟨by decide, ⟨Legacy.considerate_of_all (by decide), issuedUnder_of_history ?_, ?_⟩,
    Legacy.considerate_of_all (by decide), issuedUnder_of_history ?_, ?_⟩
  · with_unfolding_all rfl
  · with_unfolding_all rfl
  · with_unfolding_all rfl
  · with_unfolding_all rfl

end Registrar.Registration
