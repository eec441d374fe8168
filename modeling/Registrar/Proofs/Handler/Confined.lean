import Registrar.Dispatch.Routing
import Registrar.Handler.Script
import Registrar.Proofs.Dispatch.Session

/-!
Handlers that see nothing but their conversation.

A program is confined to a conversation if what it does depends on what the store answers about that
conversation, and on no other answer: it may wait, send and leave notes, but goes on in the same way
whatever comes of it.

* `Confined.run_eq`: the end of a confined program, and the record that it leaves, depend on the
  record that it finds.
* `confined_script`, `Routes.Confined.handle`: the handlers that act through their conversation are
  confined, and so is the choice between confined handlers.
-/

namespace Registrar

/-- What the program does depends on what the store answers about the conversation only. -/
inductive Program.Confined {α : Type} (c : Conversation) : Program α → Prop where
  | done (a : α) : Confined c (.done a)
  | panic : Confined c .panic
  | crash : Confined c .crash
  | store {call : StoreCall} {next : (Request.store call).Answer → Program α}
      (own : call.conversation = c) (rest : ∀ a, Confined c (next a)) :
      Confined c (.ask (.store call) next)
  | heedless {r : Request} {next : r.Answer → Program α} {p : Program α}
      (elsewhere : ∀ call, r ≠ .store call) (same : ∀ a, next a = p) (rest : Confined c p) :
      Confined c (.ask r next)

/-- The store does not refuse the request. -/
structure Chance.Faultless (chance : Chance) : Prop where
  storeFault : chance.storeFault = none

namespace Program

variable {α β : Type} {c : Conversation}

/-- A confined program asks the store about its conversation only. -/
theorem Confined.own {r : Request} {next : r.Answer → Program α}
    (confined : (ask r next).Confined c) (call : StoreCall) (same : r = .store call) :
    call.conversation = c := by
  cases confined with
  | store own rest =>
      cases same
      exact own
  | heedless elsewhere _ _ => exact absurd same (elsewhere call)

/-- The end of a confined program, and the record that it leaves, depend on the record that it
finds: not on the rest of the store, the time, or the other answers. -/
theorem Confined.run_eq {p : Program α} (confined : p.Confined c) {chance chance' : Chance}
    (faultless : chance.Faultless) (faultless' : chance'.Faultless) (m : Memory) :
    (p.run (chance.answer (Memory.perform chance.now)) m).1 =
        (p.run (chance'.answer Record.perform) (m.record c)).1 ∧
      (p.run (chance.answer (Memory.perform chance.now)) m).2.record c =
        (p.run (chance'.answer Record.perform) (m.record c)).2 := by
  induction confined generalizing m with
  | done | panic | crash => exact ⟨rfl, rfl⟩
  | @store call next own rest ih =>
      simp only [run, Chance.answer, faultless.storeFault, faultless'.storeFault]
      have after := Memory.record_perform chance.now m call c
      rw [if_pos own.symm] at after
      rw [Memory.answer_perform, own, ← after]
      exact ih _ _
  | @heedless r next p elsewhere same rest ih =>
      simp only [run, same, Chance.answer_elsewhere _ _ _ elsewhere]
      exact ih m

/-- A confined program that has been answered is confined. -/
theorem Confined.next {r : Request} {next : r.Answer → Program α}
    (confined : (ask r next).Confined c) (a : r.Answer) : (next a).Confined c := by
  cases confined with
  | store own rest => exact rest a
  | heedless elsewhere same rest => exact (same a).symm ▸ rest

/-- A confined program that is answered out of a store goes on as it would with the record alone. -/
theorem Confined.step {r : Request} {next : r.Answer → Program α}
    (confined : (ask r next).Confined c) {chance chance' : Chance}
    (faultless : chance.Faultless) (faultless' : chance'.Faultless) (m : Memory) :
    (next (chance.answer (Memory.perform chance.now) m r).1).run (chance'.answer Record.perform)
        ((chance.answer (Memory.perform chance.now) m r).2.record c) =
      (ask r next).run (chance'.answer Record.perform) (m.record c) := by
  cases confined with
  | @store call _ own rest =>
      simp only [run, Chance.answer, faultless.storeFault, faultless'.storeFault]
      rw [Memory.answer_perform, Memory.record_perform, if_pos own.symm, own]
  | heedless elsewhere same rest =>
      simp only [run, same, Chance.answer_elsewhere _ _ _ elsewhere]

theorem Confined.bind {p : Program α} {k : α → Program β} (first : p.Confined c)
    (rest : ∀ a, (k a).Confined c) : (p.bind k).Confined c := by
  induction first with
  | done a => exact rest a
  | panic => exact .panic
  | crash => exact .crash
  | store own _ ih => exact .store own ih
  | heedless elsewhere same _ ih =>
      exact .heedless elsewhere (fun a => congrArg (Program.bind · k) (same a)) ih

end Program

/-! ### Confined handlings -/

namespace Handling

variable {α β : Type} {c : Conversation}

/-- Whatever is done is confined to the conversation. -/
def Confined (c : Conversation) (x : Handling α) : Prop := Program.Confined c x.run

theorem Confined.pure (a : α) : Confined c (Pure.pure a : Handling α) := .done _

theorem Confined.throw (e : BotError) : Confined c (MonadExcept.throw e : Handling α) := .done _

theorem Confined.bind {x : Handling α} {f : α → Handling β} (first : Confined c x)
    (rest : ∀ a, Confined c (f a)) : Confined c (x >>= f) := by
  refine Program.Confined.bind first fun result => ?_
  cases result with
  | ok a => exact rest a
  | error e => exact .done _

theorem Confined.store {call : StoreCall} (own : call.conversation = c) :
    Confined c (Handling.store call) :=
  Program.Confined.bind (.store own fun _ => .done _) fun _ => .done _

/-- What is asked without an answer that matters. -/
theorem Confined.tell {r : Request} (elsewhere : ∀ call, r ≠ .store call)
    {f : r.Answer → Handling β} {x : Handling β} (same : ∀ a, f a = x) (rest : Confined c x) :
    Confined c (Handling.ask r >>= f) :=
  .heedless elsewhere (fun a => congrArg ExceptT.run (same a)) rest

variable (c)

theorem confined_current : Confined c c.current := .store rfl

theorem confined_setState (s : State) : Confined c (c.setState s) := .store rfl

theorem confined_finish : Confined c c.finish := .store rfl

theorem confined_resetState : Confined c c.resetState := .store rfl

theorem confined_getData (field : String) : Confined c (c.getData field) := .store rfl

theorem confined_setData (field : String) (value : Json) : Confined c (c.setData field value) :=
  .store rfl

theorem confined_clearData : Confined c c.clearData := .store rfl

theorem confined_isInState (states : List State) : Confined c (c.isInState states) :=
  (confined_current c).bind fun _ => .pure _

theorem confined_getAs (field : String) (read : Json → Except DecodeError α) :
    Confined c (c.getAs field read) := by
  refine (confined_getData c field).bind fun v => ?_
  cases v with
  | none => exact .pure _
  | some v =>
      cases found : read v with
      | ok a =>
          simp only [found]
          exact .pure _
      | error e =>
          simp only [found]
          exact .throw _

theorem confined_setAs (field : String) (write : α → Except JsonFault Json) (a : α) :
    Confined c (c.setAs field write a) := by
  unfold Conversation.setAs
  split
  · exact confined_setData c field _
  · exact .throw _

/-- Reading a field and writing it back changed is confined, as two calls. -/
theorem confined_updateData (field : String) (change : Option Json → Json) :
    Confined c (c.updateData field change) :=
  (confined_getData c field).bind fun v => confined_setData c field (change v)

theorem confined_perform (message : Message) (action : Action) :
    Confined message.conversation (action.perform message) := by
  cases action with
  | log word => exact .tell (fun _ => by simp) (fun _ => rfl) (.pure _)
  | setState state => exact (confined_setState _ state).bind fun _ => .pure _
  | finish => exact (confined_finish _).bind fun _ => .pure _
  | resetState => exact (confined_resetState _).bind fun _ => .pure _
  | clearData => exact (confined_clearData _).bind fun _ => .pure _
  | setData field value => exact (confined_setData _ field value).bind fun _ => .pure _
  | append field =>
      refine (confined_getAs _ field _).bind fun texts => ?_
      exact .tell (fun _ => by simp) (fun _ => rfl) ((confined_setData _ field _).bind fun _ => .pure _)
  | showField field =>
      refine (confined_getData _ field).bind fun value => ?_
      exact .tell (fun _ => by simp) (fun _ => rfl) (.pure _)
  | pause milliseconds => exact .tell (fun _ => by simp) (fun _ => rfl) (.pure _)
  | permit => exact .tell (fun _ => by simp) (fun _ => rfl) (.pure _)
  | fail reason => exact .throw reason
  | panic => exact .panic
  | crash => exact .crash
  | only text => exact .pure _

/-- A list of actions sees nothing but its conversation. -/
theorem confined_script (actions : List Action) (message : Message) :
    Confined message.conversation (script actions message) := by
  induction actions with
  | nil => exact .pure _
  | cons action rest ih =>
      refine (confined_perform message action).bind fun goOn => ?_
      cases goOn with
      | true => exact ih
      | false => exact .pure _

end Handling

structure Routes.Confined (routes : Routes) : Prop where
  commands {name : String} {handler : Handler} :
    routes.commands.handlers.get? name = some handler →
      ∀ message, Handling.Confined message.conversation (handler message)
  states {state : State} {handler : Handler} :
    routes.states.handlers.get? state = some handler →
      ∀ message, Handling.Confined message.conversation (handler message)

/-- The choice between confined handlers looks at the message and at its conversation's state. -/
theorem Routes.Confined.handle {routes : Routes} (confined : routes.Confined) (message : Message) :
    Handling.Confined message.conversation (routes.handle message) := by
  unfold Routes.handle
  split
  · unfold CommandRoutes.handle
    split
    · exact .throw _
    · split
      · exact .throw _
      · rename_i found
        exact confined.commands found message
  · refine (Handling.confined_current _).bind fun state => ?_
    split
    · exact .throw _
    · rename_i found
      exact confined.states found message

end Registrar
