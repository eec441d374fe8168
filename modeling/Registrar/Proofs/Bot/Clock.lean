import Registrar.Proofs.Bot.Installation
import Registrar.Proofs.Dispatch.Visits
import Registrar.Proofs.Handler.Evaluation
import Registrar.Proofs.Registration.StateMachine

/-!
The bot at work on its clock.

* `BotConfig.prompt_setting`: the bot is done with every message in one go.
* `EventLoop.stateOf_eq`, `EventLoop.fieldOf_eq`: what an observer reads about a conversation is what
  is left of its records.
* `Registration.brings_text`: a text goes to the handler of the state that is left.
-/

namespace Registrar

namespace Registration

open Handling

/-- No handler waits, and none takes its worker along. -/
theorem prompt_along {policy : Policy} {job : Job} {p : Work} {course : List Exchange}
    (along : p.Along job (rules policy job) course) : p.Prompt := by
  induction p generalizing course with
  | done | panic => trivial
  | crash => cases along
  | ask r next ih =>
      refine ⟨fun waits => ?_, fun a => ih a (along.2 a)⟩
      cases r with
      | pause | permit | note => exact along.1.fitting
      | _ => cases waits

/-- A text goes to the handler of the state that is read. -/
theorem brings_state {σ : Type} {answer : σ → (r : Request) → r.Answer × σ} {s s' : σ}
    {policy : Policy} {quizUrl : Option String} {message : Message} {state : State}
    {handler : Handler} {Q : Ending Outcome → σ → Prop} (text : message.command = none)
    (answered : answer s (.store (.get message.conversation)) = (.ok state, s'))
    (found : (stateRoutes policy).handlers.get? state = some handler)
    (rest : Brings answer (handler message) s' Q) :
    Brings answer ((routes policy quizUrl).handle message) s Q := by
  have other : message.isCommand = false := by rw [Message.isCommand, text]; rfl
  rw [Routes.handle, if_neg (by rw [other]; exact Bool.false_ne_true)]
  refine brings_store answered ?_
  simp only [routes, found]
  exact rest

/-- A text goes to the handler of the state that is left of the record by then. -/
theorem brings_text {b : Installation} {interval swept touched now : Nat} {policy : Policy}
    {quizUrl : Option String} {message : Message} {slot : Option (Stamped State)}
    {scratch : Option (Stamped (Table String String))} {state : State} {handler : Handler}
    {Q : Ending Outcome → Installation → Prop}
    (text : message.command = none)
    (holds : b.store.Holds interval swept message.conversation slot scratch)
    (left : Memory.aged interval swept now slot = some ⟨state, touched⟩)
    (found : (stateRoutes policy).handlers.get? state = some handler)
    (rest : ∀ s', s'.Holds interval now message.conversation (some ⟨state, now⟩)
        (Memory.aged interval swept now scratch) →
      Brings (Installation.answer now) (handler message) { b with store := s' } Q) :
    Brings (Installation.answer now) ((routes policy quizUrl).handle message) b Q := by
  obtain ⟨s', answered, holds'⟩ :=
    Installation.answer_store now (.get message.conversation) holds rfl
  rw [left] at answered holds'
  exact brings_state text answered found (rest s' holds')

end Registration

/-- The bot at work: how it answers requests, its handlers, and when its workers retire. -/
def BotConfig.setting (c : BotConfig) : Setting Installation :=
  ⟨Installation.answer, (Installation.routes c).handle, 1000 * c.idleTimeout⟩

theorem BotConfig.prompt_setting (c : BotConfig) : c.setting.Prompt := fun message =>
  Registration.prompt_along (Registration.along_routes c.policy c.quizUrl ⟨0, message⟩)

/-- The bot has nothing to do between two messages, and is what it was put together as. -/
theorem made_after {c : BotConfig} {site : Site} {b : Installation}
    (memory : c.store.kind = .memory) (built : Installation.build c site = .ok b)
    (visits : List (Nat × Message)) :
    let m := (EventLoop.start b).after c.setting visits
    m.Settled ∧ m.surroundings.Made c site.origin :=
  ⟨((EventLoop.settled_start b).after c.prompt_setting visits).1,
    (EventLoop.settled_start b).after_keeps c.prompt_setting visits
      (Installation.made_build memory built) fun _ _ _ _ _ made => made.run _⟩

namespace EventLoop

def stateOf (m : EventLoop Installation) (key : Conversation) : Except StorageError State :=
  (m.surroundings.store.perform m.now (.get key)).1

def fieldOf (m : EventLoop Installation) (key : Conversation) (field : String) :
    Except StorageError (Option Json) :=
  (m.surroundings.store.perform m.now (.getData key field)).1

variable {m : EventLoop Installation} {interval swept : Nat} {key : Conversation}
  {slot : Option (Stamped State)} {scratch : Option (Stamped (Table String String))}

/-- The state reads as what is left of its record, and as the default one if nothing is. -/
theorem stateOf_eq (holds : m.surroundings.store.Holds interval swept key slot scratch) :
    m.stateOf key =
      .ok (((Memory.aged interval swept m.now slot).map Stamped.value).getD .default) := by
  have own : (StoreCall.get key).conversation = key := rfl
  obtain ⟨s', performed, -⟩ := holds.perform own m.now
  rw [stateOf, performed]
  rfl

/-- A state other than the default one is read from a record that is left. -/
theorem left_of_stateOf {state : State}
    (holds : m.surroundings.store.Holds interval swept key slot scratch)
    (reads : m.stateOf key = .ok state) (moved : state ≠ .default) :
    ∃ touched, Memory.aged interval swept m.now slot = some ⟨state, touched⟩ := by
  have found := Except.ok.inj ((stateOf_eq holds).symm.trans reads)
  cases left : Memory.aged interval swept m.now slot with
  | none =>
      rw [left] at found
      exact absurd found.symm moved
  | some r =>
      rw [left] at found
      obtain rfl := found
      exact ⟨r.touched, rfl⟩

/-- A field that holds a text reads as that text. -/
theorem fieldOf_eq {fields : Table String String} {touched : Nat} {field text : String}
    (holds : m.surroundings.store.Holds interval m.now key slot (some ⟨fields, touched⟩))
    (found : fields.get? field = some (Json.string text).print) :
    m.fieldOf key field = .ok (some (.string text)) := by
  obtain ⟨s', answered, -⟩ := Installation.answer_getText (b := m.surroundings) holds found
  exact congrArg Prod.fst answered

end EventLoop

end Registrar
