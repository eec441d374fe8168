import Registrar.Proofs.Dispatch.Routing
import Registrar.Proofs.Handler.Operations
import Registrar.Proofs.Registration.Leftovers

/-!
Conversations without a state, and conversations in the default state.

A state that is removed and a state that is replaced by the default one leave different records behind.
Nobody can tell them apart: a call of the store gets the same answer in both cases, and afterwards the
records differ in this and in nothing else again. So whatever is done with two stores that differ in
this way, by whatever handlers, comes to the same.

* `Record.Akin.perform`: one call.
* `Agree.run`: a program, in surroundings that remember all that they were asked.
* `absence_is_default`: operations and messages one after another, over any two stores that keep
  records.
* `absence_in_sessions`: workers that share a store, in any order.
-/

namespace Registrar

/-! ### Records -/

/-- Two records differ at most in this: a state is absent from one, and the default one in the other. -/
structure Record.Akin (r r' : Record) : Prop where
  state : r.state = r'.state ∨ (r.state = none ∧ r'.state = some .default) ∨
    (r.state = some .default ∧ r'.state = none)
  scratch : r.scratch = r'.scratch

namespace Record.Akin

variable {r r' : Record}

/-- The state is the same, where an absent one is the default one. -/
theorem current (akin : r.Akin r') : r.state.getD .default = r'.state.getD .default := by
  rcases akin.state with same | ⟨absent, stored⟩ | ⟨stored, absent⟩
  · rw [same]
  · rw [absent, stored]
    rfl
  · rw [stored, absent]
    rfl

theorem text? (akin : r.Akin r') (field : String) : r.text? field = r'.text? field := by
  rw [Record.text?, Record.text?, akin.scratch]

/-- A call gets the same answer from both, and they differ no more after it than before. -/
theorem perform (akin : r.Akin r') (call : StoreCall) :
    (r.perform call).1 = (r'.perform call).1 ∧ (r.perform call).2.Akin (r'.perform call).2 := by
  cases call with
  | get c => exact ⟨congrArg Except.ok akin.current, akin⟩
  | set | delete => exact ⟨rfl, .inl rfl, akin.scratch⟩
  | getData c field => exact ⟨congrArg valueOf (akin.text? field), akin⟩
  | setData c field value =>
      exact ⟨rfl, akin.state, by simp only [Record.perform, akin.scratch]⟩
  | clearData => exact ⟨rfl, akin.state, rfl⟩

/-- What is evicted from both is no difference. -/
theorem forgetState (akin : r.Akin r') : Akin { r with state := none } { r' with state := none } :=
  ⟨.inl rfl, akin.scratch⟩

theorem forgetScratch (akin : r.Akin r') :
    Akin { r with scratch := none } { r' with scratch := none } :=
  ⟨akin.state, rfl⟩

end Record.Akin

/-- A conversation that is finished is akin to one whose state is reset. -/
theorem Records.akin_finish_reset (records : Records) (k c : Conversation) :
    ((records.perform (.delete k)).2 c).Akin ((records.perform (.set k .default)).2 c) := by
  change (Function.update records k { records k with state := none } c).Akin
    (Function.update records k { records k with state := some .default } c)
  rw [Function.update_apply, Function.update_apply]
  split
  · exact ⟨.inr (.inl ⟨rfl, rfl⟩), rfl⟩
  · exact ⟨.inl rfl, rfl⟩

/-! ### Undertakings -/

/-- Something that is done with a conversation: an operation, or a message that is handled. -/
inductive Undertaking : Type 1 where
  | operation {α : Type} (c : Conversation) (op : Operation α)
  | message (message : Message)

def Routes.chosen? {σ : Type} (routes : Routes) (answer : σ → (r : Request) → r.Answer × σ) (s : σ)
    (message : Message) : Option Handler :=
  match message.command with
  | some name => routes.get? (.command name)
  | none =>
    match (answer s (.store (.get message.conversation))).1 with
    | .ok state => routes.get? (.state state)
    | .error _ => none

/-- A message is handled by the chosen handler, at once or after the state has been read. -/
theorem Routes.run_handle_of_chosen {σ : Type} {routes : Routes}
    {answer : σ → (r : Request) → r.Answer × σ} {s : σ} {message : Message} {handler : Handler}
    (chosen : routes.chosen? answer s message = some handler) :
    (routes.handle message).run.run answer s = (handler message).run.run answer
      (if message.isCommand then s else (answer s (.store (.get message.conversation))).2) := by
  unfold chosen? at chosen
  cases command : message.command with
  | some name =>
      rw [command] at chosen
      simp only at chosen
      rw [routes.handle_command command, chosen, if_pos (by rw [Message.isCommand, command]; rfl)]
  | none =>
      rw [command] at chosen
      rw [routes.run_handle_text command,
        if_neg (by rw [Message.isCommand, command]; exact Bool.false_ne_true)]
      obtain ⟨⟨read, s'⟩, answered⟩ : ∃ a, answer s (.store (.get message.conversation)) = a :=
        ⟨_, rfl⟩
      rw [answered] at chosen ⊢
      cases read with
      | error fault => cases chosen
      | ok state =>
          simp only at chosen
          simp only [chosen]

namespace Undertaking

def Result : Undertaking → Type
  | @operation α _ _ => α
  | message _ => Unit

def handling (routes : Routes) : (u : Undertaking) → Handling u.Result
  | operation c op => op.handling c
  | message m => routes.handle m

def chosen? {σ : Type} (routes : Routes) (answer : σ → (r : Request) → r.Answer × σ) (s : σ) :
    Undertaking → Option Handler
  | operation _ _ => none
  | message m => routes.chosen? answer s m

end Undertaking

structure Report where
  undertaking : Undertaking
  chosen : Option Handler
  ending : Ending (Except BotError undertaking.Result)

def undertake {σ : Type} (routes : Routes) (answer : σ → (r : Request) → r.Answer × σ) :
    List Undertaking → σ → List Report × σ
  | [], s => ([], s)
  | u :: us, s =>
    let ran := (u.handling routes).run.run answer s
    let rest := undertake routes answer us ran.2
    (⟨u, u.chosen? routes answer s, ran.1⟩ :: rest.1, rest.2)

/-! ### Surroundings that remember -/

/-- All surroundings but the store. What they have ready for a request may depend on whatever they were
asked before, and on what came of it. -/
structure World (ω : Type) where
  chance : ω → Request → Chance
  next : ω → (r : Request) → r.Answer → ω

/-- The answer to a request, with a store on which calls are performed in some way. -/
def World.answer {σ ω : Type} (world : World ω)
    (perform : Nat → σ → (call : StoreCall) → call.Answer × σ) (s : σ × ω) (r : Request) :
    r.Answer × σ × ω :=
  let chance := world.chance s.2 r
  let answered := chance.answer (perform chance.now) s.1 r
  (answered.1, answered.2, world.next s.2 r answered.1)

/-- Two stores show records that differ at most in absent and default states. -/
def Matched {σ σ' : Type} (shows : σ → Records → Prop) (shows' : σ' → Records → Prop) (s : σ)
    (s' : σ') : Prop :=
  ∃ records records', shows s records ∧ shows' s' records' ∧ ∀ c, (records c).Akin (records' c)

/-- The stores are matched, and the other surroundings remember the same. -/
structure Agree {σ σ' ω : Type} (shows : σ → Records → Prop) (shows' : σ' → Records → Prop)
    (s : σ × ω) (s' : σ' × ω) : Prop where
  stores : Matched shows shows' s.1 s'.1
  world : s.2 = s'.2

/-! ### The same with both stores -/

section Stores

variable {σ σ' ω : Type} {perform : Nat → σ → (call : StoreCall) → call.Answer × σ}
  {perform' : Nat → σ' → (call : StoreCall) → call.Answer × σ'} {shows : σ → Records → Prop}
  {shows' : σ' → Records → Prop} (keeping : Keeping perform shows)
  (keeping' : Keeping perform' shows')

include keeping keeping'

theorem Matched.answer {s : σ} {s' : σ'} (matched : Matched shows shows' s s') (chance : Chance)
    (r : Request) :
    (chance.answer (perform chance.now) s r).1 = (chance.answer (perform' chance.now) s' r).1 ∧
      Matched shows shows' (chance.answer (perform chance.now) s r).2
        (chance.answer (perform' chance.now) s' r).2 := by
  cases r with
  | store call =>
      simp only [Chance.answer]
      cases chance.storeFault with
      | some fault => exact ⟨rfl, matched⟩
      | none =>
          obtain ⟨records, records', shown, shown', akin⟩ := matched
          refine ⟨?_, (records.perform call).2, (records'.perform call).2,
            keeping.after chance.now call shown, keeping'.after chance.now call shown', fun c => ?_⟩
          · calc
              (perform chance.now s call).1 = ((records call.conversation).perform call).1 :=
                keeping.answer chance.now call shown
              _ = ((records' call.conversation).perform call).1 := ((akin _).perform call).1
              _ = (perform' chance.now s' call).1 :=
                (keeping'.answer chance.now call shown').symm
          · rw [Records.perform_apply, Records.perform_apply]
            split
            · exact ((akin c).perform call).2
            · exact akin c
  | _ => exact ⟨rfl, matched⟩

variable (world : World ω) {s : σ × ω} {s' : σ' × ω}

theorem Agree.answer (agree : Agree shows shows' s s') (r : Request) :
    (world.answer perform s r).1 = (world.answer perform' s' r).1 ∧
      Agree shows shows' (world.answer perform s r).2 (world.answer perform' s' r).2 := by
  obtain ⟨store, w⟩ := s
  obtain ⟨store', w'⟩ := s'
  obtain ⟨matched, rfl⟩ := agree
  obtain ⟨same, after⟩ := matched.answer keeping keeping' (world.chance w r) r
  exact ⟨same, after, congrArg (world.next w r) same⟩

/-- A program does the same with both stores. -/
theorem Agree.run {α : Type} (p : Program α) (agree : Agree shows shows' s s') :
    (p.run (world.answer perform) s).1 = (p.run (world.answer perform') s').1 ∧
      Agree shows shows' (p.run (world.answer perform) s).2 (p.run (world.answer perform') s').2 := by
  induction p generalizing s s' with
  | done | panic | crash => exact ⟨rfl, agree⟩
  | ask r next ih =>
      obtain ⟨same, after⟩ := agree.answer keeping keeping' world r
      simp only [Program.run]
      rw [same]
      exact ih _ after

/-- A message goes to the same handler with both stores. -/
theorem Agree.chosen? (agree : Agree shows shows' s s') (routes : Routes) (u : Undertaking) :
    u.chosen? routes (world.answer perform) s = u.chosen? routes (world.answer perform') s' := by
  cases u with
  | operation => rfl
  | message m =>
      have read := (agree.answer keeping keeping' world (.store (.get m.conversation))).1
      simp only [Undertaking.chosen?, Routes.chosen?]
      rw [read]

/-- The same comes of all undertakings with both stores. -/
theorem Agree.undertake (agree : Agree shows shows' s s') (routes : Routes) (us : List Undertaking) :
    (undertake routes (world.answer perform) us s).1 =
        (undertake routes (world.answer perform') us s').1 ∧
      Agree shows shows' (undertake routes (world.answer perform) us s).2
        (undertake routes (world.answer perform') us s').2 := by
  induction us generalizing s s' with
  | nil => exact ⟨rfl, agree⟩
  | cons u us ih =>
      obtain ⟨ending, after⟩ := agree.run keeping keeping' world (u.handling routes).run
      obtain ⟨reports, agree'⟩ := ih after
      refine ⟨?_, agree'⟩
      simp only [Registrar.undertake]
      rw [agree.chosen? keeping keeping' world routes u, ending, reports]

/-- Two stores show records that are the same but for states that are absent on one side and the
default state on the other. Then operations and messages, whatever handlers are registered for these,
and whatever the surroundings answer or refuse, come to the same with both: everything ends in the same
way and with the same result, every message goes to the same handler, and the surroundings have been
asked the same. Afterwards the records differ in no more than before; the scratch fields are the same. -/
theorem absence_is_default {store : σ} {store' : σ'} {records records' : Records}
    (shown : shows store records) (shown' : shows' store' records')
    (akin : ∀ c, (records c).Akin (records' c)) (routes : Routes) (world : World ω) (w : ω)
    (us : List Undertaking) :
    let ran := undertake routes (world.answer perform) us (store, w)
    let ran' := undertake routes (world.answer perform') us (store', w)
    ran.1 = ran'.1 ∧ ran.2.2 = ran'.2.2 ∧
      ∃ after after', shows ran.2.1 after ∧ shows' ran'.2.1 after' ∧
        ∀ c, (after c).Akin (after' c) ∧ (after c).scratch = (after' c).scratch := by
  have agree : Agree shows shows' (store, w) (store', w) :=
    ⟨⟨records, records', shown, shown', akin⟩, rfl⟩
  obtain ⟨reports, ⟨after, after', shown, shown', akin⟩, seen⟩ :=
    agree.undertake keeping keeping' world routes us
  exact ⟨reports, seen, after, after', shown, shown', fun c => ⟨akin c, (akin c).scratch⟩⟩

end Stores

/-- A conversation is finished in a store in memory, and its state is reset on a server. With both, the
next text goes to the handler for the default state. -/
theorem absence_is_default_after_finish :
    let k : Conversation := ⟨1, 7⟩
    let greets : Handler := fun message => do
      message.conversation.setState ⟨"greeted"⟩
      Handling.send (.plain message.chat.id "Hello!")
    let routes := Routes.ofAppointments [⟨.state .default, greets⟩]
    let server : Redis.Store := ⟨"quiz:data:", 60000⟩
    let store := (Memory.empty.perform 0 (.delete k)).2
    let store' := (server.perform .empty (.set k .default)).2
    let records := (Records.empty.perform (.delete k)).2
    let records' := (Records.empty.perform (.set k .default)).2
    let chance : Chance := ⟨0, none, .epoch, .ok "0815", .ok (), .error (.database ""), .ok ()⟩
    let world : World (List Request) := ⟨fun _ _ => chance, fun asked r _ => r :: asked⟩
    let us : List Undertaking := [.operation k .current, .operation k (.isInState [.default]),
      .message ⟨"1", ⟨7, none, none, none⟩, ⟨1, "private"⟩, "hi", .epoch⟩, .operation k .current]
    let ran := undertake routes (world.answer Memory.perform) us (store, [])
    let ran' := undertake routes (world.answer fun _ => server.perform) us (store', [])
    server.lifetime / 1000 < Text.signedBound ∧ (∀ c, store.record c = records c) ∧
      server.Shows store' records' ∧ (∀ c, (records c).Akin (records' c)) ∧
      ran.1 = ran'.1 ∧ ran.2.2 = ran'.2.2 ∧ ran.1.map Report.chosen = [none, none, some greets, none] ∧
      ∃ after after' : Records, (∀ c, ran.2.1.record c = after c) ∧ server.Shows ran'.2.1 after' ∧
        ∀ c, (after c).Akin (after' c) ∧ (after c).scratch = (after' c).scratch := by
  intro k greets routes server store store' records records' chance world us ran ran'
  have keeping' := server.keeping (by decide)
  have shown : ∀ c, store.record c = records c :=
    Memory.keeping.after 0 (.delete k) Memory.record_empty
  have shown' : server.Shows store' records' :=
    keeping'.after 0 (.set k .default) (.empty server)
  have akin := Records.empty.akin_finish_reset k
  obtain ⟨reports, asked, stores⟩ :=
    absence_is_default Memory.keeping keeping' shown shown' akin routes world [] us
  exact ⟨by decide, shown, shown', akin, reports, asked, rfl, stores⟩

/-! ### Sessions -/

/-- The same has happened in both sessions, and their stores differ at most in absent and default
states. -/
structure Session.Akin (s s' : Session) : Prop where
  traffic : s.traffic = s'.traffic
  exchanges : s.exchanges = s'.exchanges
  records (c : Conversation) : (s.memory.record c).Akin (s'.memory.record c)

namespace Session.Akin

variable {route : Handler} {s s' : Session}

/-- What the store has no part in. -/
theorem unreached (akin : s.Akin s') {move : Move} (unreached : Registration.reaches move = false) :
    (s.step route move).Akin (s'.step route move) := by
  obtain ⟨traffic, memory, exchanges⟩ := s
  obtain ⟨_, memory', _⟩ := s'
  obtain ⟨rfl, rfl, records⟩ := akin
  obtain ⟨after, same⟩ := Registration.step_unreached route traffic exchanges unreached
  rw [same memory, same memory']
  exact ⟨rfl, rfl, records⟩

/-- A worker makes its next request. -/
theorem ask (akin : s.Akin s') (id : Nat) (chance : Chance) :
    (s.step route (.ask id chance)).Akin (s'.step route (.ask id chance)) := by
  have same : s'.working? id = s.working? id := by simp only [working?, akin.traffic]
  simp only [step, same]
  cases working : s.working? id with
  | none => exact akin
  | some w =>
      obtain ⟨job, p⟩ := w
      cases p with
      | done | panic | crash => exact akin
      | ask r next =>
          obtain ⟨answer, records, records', shown, shown', records_akin⟩ :=
            Matched.answer Memory.keeping Memory.keeping
              ⟨_, _, fun _ => rfl, fun _ => rfl, akin.records⟩ chance r
          refine ⟨?_, ?_, fun c => ?_⟩
          · simp only [answer, akin.traffic]
          · simp only [answer, akin.exchanges]
          · simp only
            rw [shown, shown']
            exact records_akin c

theorem forget (akin : s.Akin s') {memory memory' : Memory}
    (records : ∀ c, (memory.record c).Akin (memory'.record c)) :
    Akin { s with memory := memory } { s' with memory := memory' } :=
  ⟨akin.traffic, akin.exchanges, records⟩

/-- Whatever happens next happens in both sessions. -/
theorem step (akin : s.Akin s') (move : Move) : (s.step route move).Akin (s'.step route move) := by
  cases move with
  | ask id chance => exact akin.ask id chance
  | forgetState k =>
      refine akin.forget fun c => ?_
      rw [Memory.record_forgetState, Memory.record_forgetState]
      split
      · exact (akin.records c).forgetState
      · exact akin.records c
  | forgetScratch k =>
      refine akin.forget fun c => ?_
      rw [Memory.record_forgetScratch, Memory.record_forgetScratch]
      split
      · exact (akin.records c).forgetScratch
      · exact akin.records c
  | call | send | discard | start | conclude | kill | retire => exact akin.unreached rfl

end Session.Akin

/-- Workers that share a store do not find out about absent and default states either, in whatever
order they take their steps, even if records are evicted, as long as the same ones are. -/
theorem absence_in_sessions (route : Handler) {m m' : Memory}
    (akin : ∀ c, (m.record c).Akin (m'.record c)) (moves : List Move) :
    (Session.run route m moves).Akin (Session.run route m' moves) := by
  induction moves using List.reverseRecOn with
  | nil => exact ⟨rfl, rfl, akin⟩
  | append_singleton moves move ih =>
      rw [Session.run_concat, Session.run_concat]
      exact ih.step move

end Registrar
