import Registrar.Proofs.Registration.StateMachine

/-!
What an earlier attempt has left behind is never seen.

A new registration does not clear the scratch fields, so that the login, the code and the moment of
expiry of an earlier attempt are still there while a login is expected. They are looked at only while
a code is expected or after a registration, and by then they have been written anew.

Two stores that differ in nothing but the scratch fields of one conversation are compared. Their
records of it are `Alike`: where the state is one in which fields are looked at, these fields agree.
While a message is handled they are `Attuned`: the fields that it has written agree, and so do all
fields that matter once it has found such a state.

* `Attuned.ask`: both records give the same answer to what a handler asks, and stay attuned.
* `Twin.step`: two sessions on such stores go on alike.
* `leftovers_unobservable`: nothing that happens in them differs.
-/

namespace Registrar.Registration

variable {policy : Policy} {job : Job} {course : List Exchange} {r r' : Record}

/-- A field that handlers look at. -/
def Consulted (policy : Policy) (field : String) : Prop :=
  field = loginField ∨ field = codeField ∨ field = expiryField ∧ policy.enforceExpiry = true

/-- A state in which handlers look at fields. -/
def Telling (state : State) : Prop := state = awaitingCode ∨ state = registered

/-- The records have the same state, and if fields are looked at in it, the fields agree. -/
structure Alike (policy : Policy) (r r' : Record) : Prop where
  state : r.state = r'.state
  fields (state : State) : r.state = some state → Telling state →
    ∀ field, Consulted policy field → r.text? field = r'.text? field

/-- The records are alike while a message is handled that has come along the course. -/
structure Attuned (policy : Policy) (course : List Exchange) (r r' : Record) : Prop where
  alike : Alike policy r r'
  written {e : Exchange} {field : String} : e ∈ course → e.writtenField? = some field →
    r.text? field = r'.text? field
  told {e : Exchange} {state : State} : e ∈ course → readState? e = some state → Telling state →
    ∀ field, Consulted policy field → r.text? field = r'.text? field

theorem Attuned.start (alike : Alike policy r r') : Attuned policy [] r r' :=
  ⟨alike, nofun, nofun⟩

/-- An exchange that tells no state and writes no field. -/
theorem Attuned.tell (h : Attuned policy course r r') {e : Exchange} (unread : readState? e = none)
    (unwritten : e.writtenField? = none) : Attuned policy (e :: course) r r' where
  alike := h.alike
  written mem wrote := by
    rcases List.mem_cons.mp mem with rfl | before
    · cases unwritten.symm.trans wrote
    · exact h.written before wrote
  told mem read := by
    rcases List.mem_cons.mp mem with rfl | before
    · cases unread.symm.trans read
    · exact h.told before read

/-- Both records were changed in the same way: fields that agreed still do, and if the state is now
one in which fields are looked at, they agreed before. -/
theorem Attuned.change {after after' : Record} (h : Attuned policy course r r')
    (state : after.state = after'.state)
    (texts : ∀ field, r.text? field = r'.text? field → after.text? field = after'.text? field)
    (telling : ∀ s, after.state = some s → Telling s → ∀ field, Consulted policy field →
      r.text? field = r'.text? field) : Attuned policy course after after' where
  alike := ⟨state, fun s same tells field consulted =>
    texts field (telling s same tells field consulted)⟩
  written mem wrote := texts _ (h.written mem wrote)
  told mem read tells field consulted := texts field (h.told mem read tells field consulted)

/-! ### What is asked and answered -/

/-- The state is read. -/
theorem Attuned.get (h : Attuned policy course r r') (c : Conversation) :
    Attuned policy (⟨job, .store (.get c), .ok (r.state.getD .default)⟩ :: course) r r' where
  alike := h.alike
  written mem wrote := by
    rcases List.mem_cons.mp mem with rfl | before
    · cases wrote
    · exact h.written before wrote
  told mem read telling := by
    rcases List.mem_cons.mp mem with rfl | before
    · refine h.alike.fields _ (state_eq_some (Option.some.inj read) ?_) telling
      rcases telling with rfl | rfl <;> decide
    · exact h.told before read telling

/-- When the state comes to be one in which fields are looked at, they were written for this attempt,
or they were looked at already. -/
theorem Attuned.due (h : Attuned policy course r r') {c : Conversation} {state : State}
    (due : Due policy job course (.set c state)) (telling : Telling state) :
    ∀ field, Consulted policy field → r.text? field = r'.text? field := by
  intro field consulted
  cases due with
  | @codeSent code issued expires now sent history =>
      have wrote : ∀ text, wroteText job field text ∈ issuing policy job code issued expires →
          r.text? field = r'.text? field := by
        intro text mem
        refine h.written (e := wroteText job field text) ?_ rfl
        rw [history]
        exact List.mem_cons_of_mem _ (List.mem_cons_of_mem _ mem)
      rcases consulted with rfl | rfl | ⟨rfl, enforced⟩
      · exact wrote (Text.trim job.message.content) (by simp)
      · exact wrote code (by simp)
      · exact wrote (Rfc3339.writeOffset expires) (by simp [enforced])
  | complete history =>
      exact h.told (e := found job awaitingCode) (by simp [history]) rfl (.inl rfl) field consulted
  | register | sessionGone | expired | loginGone =>
      rcases telling with same | same <;> exact absurd same (by decide)

/-- A field that is looked at was written for this attempt. -/
theorem Attuned.reading (h : Attuned policy course r r') {field : String}
    (reading : Reading policy job course field) : r.text? field = r'.text? field := by
  cases reading with
  | code expected =>
      exact h.told (e := found job awaitingCode) (by simp [expected]) rfl (.inl rfl) _ (.inr (.inl rfl))
  | login read =>
      exact h.told (e := found job awaitingCode) (by simp [read]) rfl (.inl rfl) _ (.inl rfl)
  | expiry enforced read =>
      exact h.told (e := found job awaitingCode) (by simp [read]) rfl (.inl rfl) _
        (.inr (.inr ⟨rfl, enforced⟩))
  | greeting known =>
      exact h.told (e := found job registered) (by simp [known]) rfl (.inr rfl) _ (.inl rfl)

/-- A field is written. -/
theorem Attuned.setData (h : Attuned policy course r r') (c : Conversation) (field : String)
    (value : Json) : Attuned policy (⟨job, .store (.setData c field value), .ok ()⟩ :: course)
      (r.perform (.setData c field value)).2 (r'.perform (.setData c field value)).2 := by
  have changed : Attuned policy course (r.perform (.setData c field value)).2
      (r'.perform (.setData c field value)).2 := by
    refine h.change h.alike.state (fun field' same => ?_) h.alike.fields
    rw [Record.text?_setData, Record.text?_setData, same]
  refine ⟨changed.alike, fun mem wrote => ?_, fun mem read => ?_⟩
  · rcases List.mem_cons.mp mem with rfl | before
    · obtain rfl := Option.some.inj wrote
      rw [Record.text?_setData, Record.text?_setData, if_pos rfl, if_pos rfl]
    · exact changed.written before wrote
  · rcases List.mem_cons.mp mem with rfl | before
    · cases read
    · exact changed.told before read

/-- Both records give the same answer to a call that is proper, and stay attuned. -/
theorem Attuned.perform (h : Attuned policy course r r') {call : StoreCall}
    (proper : Proper policy job course (.store call)) :
    (r.perform call).1 = (r'.perform call).1 ∧ ∀ v, (r.perform call).1 = .ok v →
      Attuned policy (⟨job, .store call, .ok v⟩ :: course) (r.perform call).2
        (r'.perform call).2 := by
  cases call with
  | get c =>
      refine ⟨by simp only [Record.perform, h.alike.state], fun v answer => ?_⟩
      obtain rfl := Except.ok.inj answer
      exact h.get c
  | getData c field =>
      exact ⟨congrArg Record.valueOf (h.reading proper.fitting), fun v _ => h.tell rfl rfl⟩
  | setData c field value => exact ⟨rfl, fun _ _ => h.setData c field value⟩
  | set c state =>
      refine ⟨rfl, fun v _ => Attuned.tell ?_ rfl rfl⟩
      refine h.change rfl (fun _ => id) fun s same telling => ?_
      obtain rfl := Option.some.inj same
      exact h.due proper.fitting telling
  | delete c =>
      refine ⟨rfl, fun v _ => Attuned.tell ?_ rfl rfl⟩
      exact h.change rfl (fun _ => id) fun s same => by cases same
  | clearData c =>
      refine ⟨rfl, fun v _ => Attuned.tell ?_ rfl rfl⟩
      exact h.change h.alike.state (fun _ _ => rfl) h.alike.fields

/-- Both records give the same answer to what a handler asks, and stay attuned. -/
theorem Attuned.ask (h : Attuned policy course r r') {request : Request}
    (proper : Proper policy job course request) (chance : Chance) :
    (chance.answer Record.perform r request).1 = (chance.answer Record.perform r' request).1 ∧
      Attuned policy (⟨job, request, (chance.answer Record.perform r request).1⟩ :: course)
        (chance.answer Record.perform r request).2 (chance.answer Record.perform r' request).2 := by
  cases request with
  | store call =>
      simp only [Chance.answer]
      cases chance.storeFault with
      | some fault => exact ⟨rfl, h.tell (by cases call <;> rfl) (by cases call <;> rfl)⟩
      | none =>
          obtain ⟨same, after⟩ := h.perform proper
          refine ⟨same, ?_⟩
          cases answer : (r.perform call).1 with
          | ok v => exact after v answer
          | error fault =>
              simp only
              rw [Record.perform_eq_of_error answer,
                Record.perform_eq_of_error (same.symm.trans answer)]
              exact h.tell (by cases call <;> rfl) (by cases call <;> rfl)
  | _ => exact ⟨rfl, h.tell rfl rfl⟩

/-- The state is evicted from both records, or the scratch fields are. -/
theorem Attuned.forgetState (h : Attuned policy course r r') :
    Attuned policy course { r with state := none } { r' with state := none } :=
  h.change rfl (fun _ => id) fun s same => by cases same

theorem Attuned.forgetScratch (h : Attuned policy course r r') :
    Attuned policy course { r with scratch := none } { r' with scratch := none } :=
  h.change h.alike.state (fun _ _ => rfl) h.alike.fields

/-! ### Sessions -/

def reaches : Move → Bool
  | .ask _ _ => true
  | .forgetState _ => true
  | .forgetScratch _ => true
  | _ => false

/-- What the store has no part in goes on in the same way whatever the store holds. -/
theorem step_unreached (route : Handler) (traffic : Traffic Work) (exchanges : List Exchange)
    {move : Move} (unreached : reaches move = false) :
    ∃ after, ∀ memory, (⟨traffic, memory, exchanges⟩ : Session).step route move =
      ⟨after, memory, exchanges⟩ := by
  cases move with
  | ask | forgetState | forgetScratch => cases unreached
  | conclude now id =>
      simp only [Session.step, Session.working?, Session.happen]
      cases traffic.dispatcher.working? id with
      | none => exact ⟨traffic, fun _ => rfl⟩
      | some w =>
          obtain ⟨job, p⟩ := w
          simp only
          cases p.ending?.map (EventLoop.outcomeOf job.message) with
          | none => exact ⟨traffic, fun _ => rfl⟩
          | some outcome? =>
              cases outcome? with
              | none => exact ⟨_, fun _ => rfl⟩
              | some outcome => exact ⟨_, fun _ => rfl⟩
  | call message => exact ⟨traffic.step (.call message), fun _ => rfl⟩
  | send now ticket => exact ⟨traffic.step (.send now ticket), fun _ => rfl⟩
  | discard ticket => exact ⟨traffic.step (.discard ticket), fun _ => rfl⟩
  | start id =>
      exact ⟨traffic.step (.start id fun message => (route message).run), fun _ => rfl⟩
  | kill id => exact ⟨traffic.step (.kill id), fun _ => rfl⟩
  | retire id => exact ⟨traffic.step (.retire id), fun _ => rfl⟩

variable {quizUrl : Option String} {k : Conversation} {s s' : Session}

/-- The same has happened in both sessions; their stores hold the same for every conversation but `k`,
and records of `k` that are attuned to the message that is handled there. -/
structure Twin (policy : Policy) (quizUrl : Option String) (k : Conversation) (s s' : Session) :
    Prop where
  traffic : s.traffic = s'.traffic
  exchanges : s.exchanges = s'.exchanges
  others (c : Conversation) : c ≠ k → s.memory.record c = s'.memory.record c
  alike : Alike policy (s.memory.record k) (s'.memory.record k)
  working {id : Nat} {job : Job} {p : Work} : s.working? id = some (job, p) →
    job.message.conversation = k → ∃ course,
      ((routes policy quizUrl).handle job.message).run.Comes job course p ∧
        Attuned policy course (s.memory.record k) (s'.memory.record k)

theorem Twin.unreached (twin : Twin policy quizUrl k s s') {move : Move}
    (unreached : reaches move = false) :
    Twin policy quizUrl k (s.step (routes policy quizUrl).handle move)
      (s'.step (routes policy quizUrl).handle move) := by
  obtain ⟨traffic, memory, exchanges⟩ := s
  obtain ⟨_, memory', _⟩ := s'
  obtain rfl : traffic = _ := twin.traffic
  obtain rfl : exchanges = _ := twin.exchanges
  have effect := Session.effect_step (routes policy quizUrl).handle ⟨traffic, memory, exchanges⟩ move
  obtain ⟨after, same⟩ := step_unreached (routes policy quizUrl).handle traffic exchanges unreached
  rw [same memory] at effect
  rw [same memory, same memory']
  refine ⟨rfl, rfl, twin.others, twin.alike, fun working own => ?_⟩
  rcases effect.at_work working with before | begun | ⟨_, rfl⟩
  · exact twin.working before own
  · exact ⟨[], begun ▸ .begin, .start twin.alike⟩
  · cases unreached

/-- A worker goes on with the answer to its request. -/
def asked (s : Session) (id : Nat) (job : Job) (r : Request) (next : r.Answer → Work)
    (chance : Chance) : Session :=
  let answered := chance.answer (Memory.perform chance.now) s.memory r
  ⟨s.traffic.step (.progress id (next answered.1)), answered.2,
    ⟨job, r, answered.1⟩ :: s.exchanges⟩

section Asked

variable {id : Nat} {job : Job} {r : Request} {next : r.Answer → Work}

/-- Nobody else goes on. -/
theorem working_asked (working : s.working? id = some (job, .ask r next)) (chance : Chance) {i : Nat}
    {job' : Job} {p' : Work} (after : (asked s id job r next chance).working? i = some (job', p')) :
    (i = id ∧ job' = job ∧ p' = next (chance.answer (Memory.perform chance.now) s.memory r).1) ∨
      (i ≠ id ∧ s.working? i = some (job', p')) := by
  have progressed := (Dispatcher.newWork_progress (d := s.traffic.dispatcher) working
    (next (chance.answer (Memory.perform chance.now) s.memory r).1)).working
  have now : Function.update s.working? id _ i = some (job', p') :=
    (congrFun progressed i).symm.trans after
  rw [Function.update_apply] at now
  split at now
  · rename_i this_one
    cases now
    exact .inl ⟨this_one, rfl, rfl⟩
  · rename_i other
    exact .inr ⟨other, now⟩

/-- The request is about the conversation whose records may differ. -/
theorem Twin.asked_own (twin : Twin policy quizUrl k s s') (unique : s.affairs.Unique)
    (own : ∀ call, r = .store call → call.conversation = job.message.conversation)
    (working : s.working? id = some (job, .ask r next)) (this_one : job.message.conversation = k)
    (chance : Chance) :
    Twin policy quizUrl k (asked s id job r next chance) (asked s' id job r next chance) := by
  subst this_one
  obtain ⟨answer, here⟩ := chance.answer_record s.memory own
  obtain ⟨answer', here'⟩ := chance.answer_record s'.memory own
  obtain ⟨course, comes, attuned⟩ := twin.working working rfl
  obtain ⟨same, after⟩ := attuned.ask (proper_of_comes comes) chance
  have answers := answer.trans (same.trans answer'.symm)
  refine ⟨by simp only [asked, answers, twin.traffic], by simp only [asked, answers, twin.exchanges],
    fun c other => ?_, ?_, fun {i job' p'} working' own' => ?_⟩
  · simp only [asked]
    rw [chance.record_answer_other s.memory own other, chance.record_answer_other s'.memory own other]
    exact twin.others c other
  · simp only [asked]
    rw [here, here']
    exact after.alike
  · rcases working_asked working chance working' with ⟨_, rfl, rfl⟩ | ⟨other, before⟩
    · simp only [asked]
      rw [here, here', answer]
      exact ⟨_, comes.ask _, after⟩
    · exact absurd (unique i id job' job _ _ before working own') other

/-- The request is about a conversation of which both stores hold the same. -/
theorem Twin.asked_other (twin : Twin policy quizUrl k s s')
    (own : ∀ call, r = .store call → call.conversation = job.message.conversation)
    (working : s.working? id = some (job, .ask r next)) (other_one : job.message.conversation ≠ k)
    (chance : Chance) :
    Twin policy quizUrl k (asked s id job r next chance) (asked s' id job r next chance) := by
  obtain ⟨answer, here⟩ := chance.answer_record s.memory own
  obtain ⟨answer', here'⟩ := chance.answer_record s'.memory own
  have same_record := twin.others _ other_one
  have answers : (chance.answer (Memory.perform chance.now) s.memory r).1 =
      (chance.answer (Memory.perform chance.now) s'.memory r).1 := by
    rw [answer, answer', same_record]
  have kept : (asked s id job r next chance).memory.record k = s.memory.record k :=
    chance.record_answer_other s.memory own (Ne.symm other_one)
  have kept' : (asked s' id job r next chance).memory.record k = s'.memory.record k :=
    chance.record_answer_other s'.memory own (Ne.symm other_one)
  refine ⟨by simp only [asked, answers, twin.traffic], by simp only [asked, answers, twin.exchanges],
    fun c other => ?_, ?_, fun {i job' p'} working' own' => ?_⟩
  · simp only [asked]
    by_cases its_own : c = job.message.conversation
    · rw [its_own, here, here', same_record]
    · rw [chance.record_answer_other s.memory own its_own,
        chance.record_answer_other s'.memory own its_own]
      exact twin.others c other
  · rw [kept, kept']
    exact twin.alike
  · rcases working_asked working chance working' with ⟨_, rfl, _⟩ | ⟨_, before⟩
    · exact absurd own' other_one
    · rw [kept, kept']
      exact twin.working before own'

end Asked

/-- A worker makes its next request. -/
theorem Twin.ask (twin : Twin policy quizUrl k s s') (minding : s.affairs.Minding)
    (unique : s.affairs.Unique) (id : Nat) (chance : Chance) :
    Twin policy quizUrl k (s.step (routes policy quizUrl).handle (.ask id chance))
      (s'.step (routes policy quizUrl).handle (.ask id chance)) := by
  have same : s'.working? id = s.working? id := by simp only [Session.working?, twin.traffic]
  simp only [Session.step, same]
  cases working : s.working? id with
  | none => exact twin
  | some w =>
      obtain ⟨job, p⟩ := w
      cases p with
      | done | panic | crash => exact twin
      | ask r next =>
          have own := (minding id job _ working).1
          by_cases this_one : job.message.conversation = k
          · exact twin.asked_own unique own working this_one chance
          · exact twin.asked_other own working this_one chance

/-- Something is evicted from both stores. -/
theorem Twin.fade (twin : Twin policy quizUrl k s s') {memory memory' : Memory}
    (others : ∀ c, c ≠ k → memory.record c = memory'.record c)
    (fades : ∀ course, Attuned policy course (s.memory.record k) (s'.memory.record k) →
      Attuned policy course (memory.record k) (memory'.record k)) :
    Twin policy quizUrl k { s with memory := memory } { s' with memory := memory' } := by
  refine ⟨twin.traffic, twin.exchanges, others, (fades [] (.start twin.alike)).alike,
    fun working own => ?_⟩
  obtain ⟨course, comes, attuned⟩ := twin.working working own
  exact ⟨course, comes, fades course attuned⟩

theorem Twin.forgetState (twin : Twin policy quizUrl k s s') (c : Conversation) :
    Twin policy quizUrl k { s with memory := s.memory.forgetState c }
      { s' with memory := s'.memory.forgetState c } := by
  refine twin.fade (fun c' other => ?_) fun course attuned => ?_
  · rw [Memory.record_forgetState, Memory.record_forgetState, twin.others c' other]
  · rw [Memory.record_forgetState, Memory.record_forgetState]
    split
    · exact attuned.forgetState
    · exact attuned

theorem Twin.forgetScratch (twin : Twin policy quizUrl k s s') (c : Conversation) :
    Twin policy quizUrl k { s with memory := s.memory.forgetScratch c }
      { s' with memory := s'.memory.forgetScratch c } := by
  refine twin.fade (fun c' other => ?_) fun course attuned => ?_
  · rw [Memory.record_forgetScratch, Memory.record_forgetScratch, twin.others c' other]
  · rw [Memory.record_forgetScratch, Memory.record_forgetScratch]
    split
    · exact attuned.forgetScratch
    · exact attuned

/-- Whatever happens next happens in both sessions. -/
theorem Twin.step (twin : Twin policy quizUrl k s s') (minding : s.affairs.Minding)
    (unique : s.affairs.Unique) (move : Move) :
    Twin policy quizUrl k (s.step (routes policy quizUrl).handle move)
      (s'.step (routes policy quizUrl).handle move) := by
  cases move with
  | ask id chance => exact twin.ask minding unique id chance
  | forgetState c => exact twin.forgetState c
  | forgetScratch c => exact twin.forgetScratch c
  | call | send | discard | start | conclude | kill | retire => exact twin.unreached rfl

theorem twin_run (quizUrl : Option String) {m m' : Memory}
    (others : ∀ c, c ≠ k → m.record c = m'.record c)
    (alike : Alike policy (m.record k) (m'.record k)) (moves : List Move) :
    Twin policy quizUrl k (Session.run (routes policy quizUrl).handle m moves)
      (Session.run (routes policy quizUrl).handle m' moves) := by
  induction moves using List.reverseRecOn with
  | nil => exact ⟨rfl, rfl, others, alike, nofun⟩
  | append_singleton moves move ih =>
      rw [Session.run_concat, Session.run_concat]
      exact ih.step (Session.minding_run m moves (minds_routes policy quizUrl))
        (Session.unique_run _ m moves) move

/-- Two stores hold the same for every conversation but one, and in both a login is expected there;
its scratch fields may hold anything. Then whatever messages of whatever conversations come, in
whatever order, and whatever is drawn, shown by the clock, answered by others, refused or evicted, the
two sessions do not differ: the same messages are accepted and handled with the same outcomes, the
same requests are made, so that the same messages and e-mails are sent and the same users are entered,
and every conversation has the same state throughout. -/
theorem leftovers_unobservable (policy : Policy) (quizUrl : Option String) {k : Conversation}
    {m m' : Memory} (others : ∀ c, c ≠ k → m.record c = m'.record c)
    (waiting : (m.record k).state = some awaitingLogin)
    (waiting' : (m'.record k).state = some awaitingLogin) (moves : List Move) :
    let s := Session.run (routes policy quizUrl).handle m moves
    let s' := Session.run (routes policy quizUrl).handle m' moves
    s.traffic = s'.traffic ∧ s.exchanges = s'.exchanges ∧
      ∀ c, (s.memory.record c).state = (s'.memory.record c).state := by
  have alike : Alike policy (m.record k) (m'.record k) := by
    refine ⟨waiting.trans waiting'.symm, fun state same telling => ?_⟩
    obtain rfl := Option.some.inj (waiting.symm.trans same)
    rcases telling with same | same <;> exact absurd same (by decide)
  have twin := twin_run quizUrl others alike moves
  refine ⟨twin.traffic, twin.exchanges, fun c => ?_⟩
  by_cases this_one : c = k
  · rw [this_one]
    exact twin.alike.state
  · rw [twin.others c this_one]

/-- An old code is still there when a new registration begins, and is sent after a login. -/
theorem leftovers_unobservable_old_code :
    let message (text : String) : Message := ⟨text, ⟨7, none, none, none⟩, ⟨1, "private"⟩, text, .epoch⟩
    let chance : Chance := ⟨0, none, .epoch, .ok "0815", .ok (), .error (.database ""), .ok ()⟩
    let policy : Policy := ⟨4, 60, false, true, none⟩
    let k : Conversation := ⟨1, 7⟩
    let m := (Memory.empty.perform 0 (.set k awaitingLogin)).2
    let m' := (m.perform 0 (.setData k codeField (.string "4711"))).2
    let moves : List Move :=
      [.call (message "ann"), .call (message "4711"), .send 0 0, .send 0 1, .start 0] ++
      List.replicate 10 (.ask 0 chance) ++ [.conclude 1 0, .start 0] ++
      List.replicate 6 (.ask 0 chance) ++ [.conclude 2 0]
    let s := Session.run (routes policy none).handle m moves
    let s' := Session.run (routes policy none).handle m' moves
    (m.record k).text? codeField ≠ (m'.record k).text? codeField ∧
      (∀ c, c ≠ k → m.record c = m'.record c) ∧ (m.record k).state = some awaitingLogin ∧
      (m'.record k).state = some awaitingLogin ∧ s.traffic = s'.traffic ∧
      s.exchanges = s'.exchanges ∧ ∀ c, (s.memory.record c).state = (s'.memory.record c).state := by
  intro message chance policy k m m' moves s s'
  have others : ∀ c, c ≠ k → m.record c = m'.record c := fun c other =>
    ((Memory.record_perform 0 m (.setData k codeField (.string "4711")) c).trans (if_neg other)).symm
  exact ⟨by decide, others, rfl, rfl, leftovers_unobservable policy none others rfl rfl moves⟩

end Registrar.Registration
