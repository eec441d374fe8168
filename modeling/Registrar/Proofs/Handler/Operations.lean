import Registrar.Proofs.Handler.Evaluation
import Registrar.Proofs.Store.Interchange

/-!
The operations of a conversation on a store that may refuse calls.

Handlers see a store through a handful of operations. Most of them are one call; one reads a field
and writes it back. An operation makes all it changes with its last call, and it says that it has
failed exactly if that call, or one before it, has not been carried out: so a failure leaves nothing
behind.

* `Operation`: the operations, what they answer and what they change in a record.
* `Operation.unfit_iff`: which operations fail by themselves.
* `Trial`: surroundings in which any calls are refused.
* `Operation.atomic`: an operation is carried out as a whole, or not at all.
-/

namespace Registrar

/-! ### Operations -/

/-- What handlers do with their conversation, by what it gives them. -/
inductive Operation : Type → Type 1 where
  | current : Operation State
  | isInState (states : List State) : Operation Bool
  | setState (s : State) : Operation Unit
  | finish : Operation Unit
  | resetState : Operation Unit
  | getData (field : String) : Operation (Option Json)
  | setData (field : String) (value : Json) : Operation Unit
  | clearData : Operation Unit
  | getAs {α : Type} (field : String) (read : Json → Except DecodeError α) : Operation (Option α)
  | setAs {α : Type} (field : String) (write : α → Except JsonFault Json) (a : α) : Operation Unit
  | updateData (field : String) (change : Option Json → Json) : Operation Unit

inductive Effect where
  | nothing
  /-- The state is replaced, or removed. -/
  | state (s : Option State)
  /-- The value of one field is replaced. -/
  | field (name : String) (value : Json)
  /-- All fields are removed. -/
  | noFields

/-- The second record is what has become of the first: the one thing is replaced or removed, and
everything else is as it was. -/
structure Effect.Made (e : Effect) (r r' : Record) : Prop where
  state : r'.state =
    match e with
    | .state s => s
    | _ => r.state
  fields (name : String) : r'.text? name =
    match e with
    | .field changed value => if name = changed then some value.print else r.text? name
    | .noFields => none
    | _ => r.text? name

def StoreCall.effect : StoreCall → Effect
  | set _ s => .state (some s)
  | delete _ => .state none
  | setData _ field value => .field field value
  | clearData _ => .noFields
  | get _ => .nothing
  | getData _ _ => .nothing

theorem StoreCall.made (call : StoreCall) (r : Record) : call.effect.Made r (r.perform call).2 := by
  cases call with
  | get | set | delete | getData | clearData => exact ⟨rfl, fun _ => rfl⟩
  | setData c field value => exact ⟨rfl, r.text?_setData c field value⟩

namespace Record

def read (r : Record) (field : String) : Except BotError (Option Json) :=
  (valueOf (r.text? field)).mapError .storage

/-- A scratch field holds a text that is not JSON. -/
def Unreadable (r : Record) (field : String) : Prop :=
  ∃ text fault, r.text? field = some text ∧ Memory.decodeText text = .error fault

/-- A scratch field holds a value of another type. -/
def WrongType {α : Type} (r : Record) (field : String) (decode : Json → Except DecodeError α) :
    Prop :=
  ∃ v e, r.read field = .ok (some v) ∧ decode v = .error e

theorem read_eq_error_iff {r : Record} {field : String} :
    (∃ e, r.read field = .error e) ↔ r.Unreadable field := by
  unfold read Unreadable
  cases r.text? field with
  | none =>
      constructor
      · rintro ⟨_, no⟩
        cases no
      · rintro ⟨_, _, no, -⟩
        cases no
  | some text =>
      rw [valueOf]
      cases decoded : Memory.decodeText text with
      | error fault =>
          constructor
          · intro _
            exact ⟨text, fault, rfl, decoded⟩
          · intro _
            exact ⟨.storage fault, rfl⟩
      | ok v =>
          constructor
          · rintro ⟨_, no⟩
            cases no
          · rintro ⟨text', _, same, no⟩
            rw [← Option.some.inj same, decoded] at no
            cases no

end Record

namespace Operation

variable {α : Type}

def handling (c : Conversation) : {α : Type} → Operation α → Handling α
  | _, current => c.current
  | _, isInState states => c.isInState states
  | _, setState s => c.setState s
  | _, finish => c.finish
  | _, resetState => c.resetState
  | _, getData field => c.getData field
  | _, setData field value => c.setData field value
  | _, clearData => c.clearData
  | _, getAs field read => c.getAs field read
  | _, setAs field write a => c.setAs field write a
  | _, updateData field change => c.updateData field change

def decoded {β : Type} (field : String) (decode : Json → Except DecodeError β) :
    Option Json → Except BotError (Option β)
  | none => .ok none
  | some v =>
    match decode v with
    | .ok a => .ok (some a)
    | .error e => .error (.storage (.typeMismatch field e.message))

/-- What an operation gives if no call is refused. -/
def answer (r : Record) : {α : Type} → Operation α → Except BotError α
  | _, current => .ok (r.state.getD .default)
  | _, isInState states => .ok (decide (r.state.getD .default ∈ states))
  | _, setState _ => .ok ()
  | _, finish => .ok ()
  | _, resetState => .ok ()
  | _, getData field => r.read field
  | _, setData _ _ => .ok ()
  | _, clearData => .ok ()
  | _, getAs field decode => r.read field >>= decoded field decode
  | _, setAs _ write a =>
    match write a with
    | .ok _ => .ok ()
    | .error fault => .error (.storage (.serialization fault.message))
  | _, updateData field _ => (r.read field).map fun _ => ()

def effect (r : Record) : {α : Type} → Operation α → Effect
  | _, setState s => .state (some s)
  | _, finish => .state none
  | _, resetState => .state (some .default)
  | _, setData field value => .field field value
  | _, clearData => .noFields
  | _, setAs field write a =>
    match write a with
    | .ok v => .field field v
    | .error _ => .nothing
  | _, updateData field change =>
    match r.read field with
    | .ok v => .field field (change v)
    | .error _ => .nothing
  | _, current => .nothing
  | _, isInState _ => .nothing
  | _, getData _ => .nothing
  | _, getAs _ _ => .nothing

/-- The record or the value that is given does not allow an operation. -/
def Unfit (r : Record) : {α : Type} → Operation α → Prop
  | _, getData field => r.Unreadable field
  | _, getAs field read => r.Unreadable field ∨ r.WrongType field read
  | _, setAs _ write a => ∃ fault, write a = .error fault
  | _, updateData field _ => r.Unreadable field
  | _, _ => False

def calls : {α : Type} → Operation α → Nat
  | _, updateData _ _ => 2
  | _, _ => 1

theorem not_error_of_ok {ε β : Type} {b : β} : ¬ ∃ e, (.ok b : Except ε β) = .error e := by
  rintro ⟨_, no⟩
  cases no

/-- An operation fails by itself exactly if it is not fit for the record. -/
theorem unfit_iff (op : Operation α) (r : Record) : op.Unfit r ↔ ∃ e, op.answer r = .error e := by
  cases op with
  | current | isInState | setState | finish | resetState | setData | clearData =>
      exact iff_of_false id not_error_of_ok
  | getData field => exact Record.read_eq_error_iff.symm
  | updateData field change =>
      refine Record.read_eq_error_iff.symm.trans ?_
      rw [answer]
      cases r.read field with
      | error e => exact ⟨fun _ => ⟨e, rfl⟩, fun _ => ⟨e, rfl⟩⟩
      | ok v => exact iff_of_false not_error_of_ok not_error_of_ok
  | setAs field write a =>
      simp only [Unfit, answer]
      cases write a with
      | error fault => exact ⟨fun _ => ⟨_, rfl⟩, fun _ => ⟨fault, rfl⟩⟩
      | ok v => exact iff_of_false not_error_of_ok not_error_of_ok
  | getAs field decode =>
      simp only [Unfit, ← Record.read_eq_error_iff, Record.WrongType, answer]
      cases r.read field with
      | error e => exact ⟨fun _ => ⟨e, rfl⟩, fun _ => .inl ⟨e, rfl⟩⟩
      | ok found =>
          change _ ↔ ∃ e, decoded field decode found = .error e
          cases found with
          | none => simp [decoded]
          | some v => cases fits : decode v <;> simp [decoded, fits]

/-- What an operation leaves of the records when it ends. A failure leaves everything as it was, and
it was either bound to come or is that of a refused call. Success means that no call was refused and
that what had to be changed is changed, and nothing about any other conversation. -/
structure Atomic (op : Operation α) (c : Conversation) (refusals : Nat → Option StorageError)
    (records after : Records) (result : Except BotError α) : Prop where
  unchanged : ∀ e, result = .error e → after = records
  reason : ∀ e, result = .error e → op.answer (records c) = .error e ∨
    ∃ n < op.calls, ∃ fault, refusals n = some fault ∧ e = .storage fault
  unrefused : ∀ a, result = .ok a → ∀ n < op.calls, refusals n = none
  answered : (∀ n < op.calls, refusals n = none) → result = op.answer (records c)
  made : ∀ a, result = .ok a → (op.effect (records c)).Made (records c) (after c)
  others : ∀ other, other ≠ c → after other = records other

namespace Atomic

variable {op : Operation α} {c : Conversation} {refusals : Nat → Option StorageError}
  {records after : Records} {result : Except BotError α}

theorem of_refused {n : Nat} {fault : StorageError} (made : n < op.calls)
    (refused : refusals n = some fault) :
    op.Atomic c refusals records records (.error (.storage fault)) where
  unchanged _ _ := rfl
  reason _ failed := .inr ⟨n, made, fault, refused, (Except.error.inj failed).symm⟩
  unrefused _ no := by cases no
  answered granted := by
    have none := granted n made
    rw [refused] at none
    cases none
  made _ no := by cases no
  others _ _ := rfl

theorem of_error {e : BotError} (answer : op.answer (records c) = .error e) :
    op.Atomic c refusals records records (.error e) where
  unchanged _ _ := rfl
  reason _ failed := .inl (answer.trans failed)
  unrefused _ no := by cases no
  answered _ := answer.symm
  made _ no := by cases no
  others _ _ := rfl

theorem of_ok {a : α} {call : StoreCall} (granted : ∀ n < op.calls, refusals n = none)
    (answer : op.answer (records c) = .ok a) (own : call.conversation = c)
    (effect : op.effect (records c) = call.effect) :
    op.Atomic c refusals records (records.perform call).2 (.ok a) where
  unchanged _ no := by cases no
  reason _ no := by cases no
  unrefused _ _ := granted
  answered _ := answer.symm
  made _ _ := by
    rw [effect, Records.perform_apply, if_pos own.symm]
    exact call.made _
  others other differs := by
    rw [Records.perform_apply, own, if_neg differs]

/-- An operation that is not fit for the record fails, whatever else goes wrong. -/
theorem error_of_unfit (atomic : op.Atomic c refusals records after result)
    (unfit : op.Unfit (records c)) : ∃ e, result = .error e := by
  obtain ⟨e, answer⟩ := (op.unfit_iff _).mp unfit
  cases result with
  | error e => exact ⟨e, rfl⟩
  | ok a =>
      have same := atomic.answered (atomic.unrefused a rfl)
      rw [answer] at same
      cases same

end Atomic

end Operation

/-! ### Surroundings that refuse calls -/

/-- Surroundings in which calls are refused. The store is called at any times; a refused call does
nothing. -/
structure Trial (σ : Type) where
  store : σ
  times : Nat → Nat
  /-- Why a call is refused, if it is, by its number. -/
  refusals : Nat → Option StorageError

namespace Trial

open Handling

variable {σ : Type} {perform : Nat → σ → (call : StoreCall) → call.Answer × σ}
  {shows : σ → Records → Prop} {others : (r : Request) → r.Answer}

def after (s : Trial σ) (store : σ) : Trial σ :=
  ⟨store, fun n => s.times (n + 1), fun n => s.refusals (n + 1)⟩

def answer (perform : Nat → σ → (call : StoreCall) → call.Answer × σ)
    (others : (r : Request) → r.Answer) (s : Trial σ) : (r : Request) → r.Answer × Trial σ
  | .store call =>
    match s.refusals 0 with
    | some fault => (.error fault, s.after s.store)
    | none =>
      let (answer, store) := perform (s.times 0) s.store call
      (answer, s.after store)
  | r => (others r, s)

/-- A call is refused, or carried out on the record. -/
theorem brings_call (keeping : Keeping perform shows) {β : Type} {s : Trial σ} {records : Records}
    {c : Conversation} {call : StoreCall} (own : call.conversation = c)
    (shown : shows s.store records) {f : call.Result → Handling β}
    {Q : Ending (Except BotError β) → Trial σ → Prop}
    (refused : ∀ fault, s.refusals 0 = some fault →
      Q (.done (.error (.storage fault))) (s.after s.store))
    (failed : ∀ fault store, s.refusals 0 = none → ((records c).perform call).1 = .error fault →
      shows store records → Q (.done (.error (.storage fault))) (s.after store))
    (passed : ∀ v store, s.refusals 0 = none → ((records c).perform call).1 = .ok v →
      shows store (records.perform call).2 →
      Brings (answer perform others) (f v) (s.after store) Q) :
    Brings (answer perform others) (Handling.store call >>= f) s Q := by
  subst own
  cases granted : s.refusals 0 with
  | some fault =>
      have answered : s.answer perform others (.store call) = (.error fault, s.after s.store) := by
        rw [answer, granted]
      exact Program.brings_ask answered (refused fault granted)
  | none =>
      have answered : s.answer perform others (.store call) =
          (((records call.conversation).perform call).1,
            s.after (perform (s.times 0) s.store call).2) := by
        rw [answer, granted]
        exact Prod.ext (keeping.answer _ call shown) rfl
      have shown' := keeping.after (s.times 0) call shown
      refine Program.brings_ask answered ?_
      cases result : ((records call.conversation).perform call).1 with
      | error fault =>
          rw [Records.perform_of_same (Record.perform_eq_of_error result)] at shown'
          exact failed fault _ granted result shown'
      | ok v => exact passed v _ granted result shown'

/-- The operation has ended, and was carried out as a whole or not at all. -/
def Settles (shows : σ → Records → Prop) {α : Type} (op : Operation α) (c : Conversation)
    (refusals : Nat → Option StorageError) (records : Records) (ending : Ending (Except BotError α))
    (s' : Trial σ) : Prop :=
  ∃ result after, ending = .done result ∧ shows s'.store after ∧
    op.Atomic c refusals records after result

section Operations

variable (keeping : Keeping perform shows) {α : Type} {s : Trial σ} {records : Records}
  (shown : shows s.store records) (c : Conversation)

include keeping shown

/-- An operation that is one call, whose result is looked at afterwards. -/
theorem brings_single {op : Operation α} (call : StoreCall)
    (look : call.Result → Except BotError α) (own : call.conversation = c)
    (form : op.handling c = Handling.store call >>= fun v => ExceptT.mk (.done (look v)))
    (once : op.calls = 1) (effect : op.effect (records c) = call.effect)
    (answer : op.answer (records c) = (((records c).perform call).1.mapError .storage >>= look))
    (reads : ∀ v e, look v = .error e → ((records c).perform call).2 = records c) :
    Brings (Trial.answer perform others) (op.handling c) s
      (Settles shows op c s.refusals records) := by
  rw [form]
  refine brings_call keeping own shown (fun fault refused => ?_)
    (fun fault store _ failed shown => ?_) fun v store granted passed shown => ?_
  · exact ⟨_, records, rfl, shown, .of_refused (n := 0) (once ▸ Nat.one_pos) refused⟩
  · rw [failed] at answer
    exact ⟨_, records, rfl, shown, .of_error answer⟩
  · rw [passed] at answer
    cases looked : look v with
    | error e =>
        rw [Records.perform_of_same (own ▸ reads v e looked)] at shown
        exact ⟨_, records, rfl, shown, .of_error (answer.trans looked)⟩
    | ok a =>
        refine ⟨_, _, rfl, shown, .of_ok ?_ (answer.trans looked) own effect⟩
        rw [once]
        intro n first
        rw [Nat.lt_one_iff.mp first]
        exact granted

/-- An operation that is one call, and gives what the call gives. -/
theorem brings_plain (call : StoreCall) {op : Operation call.Result} (own : call.conversation = c)
    (form : op.handling c = Handling.store call) (once : op.calls = 1)
    (effect : op.effect (records c) = call.effect)
    (answer : op.answer (records c) = ((records c).perform call).1.mapError .storage) :
    Brings (Trial.answer perform others) (op.handling c) s
      (Settles shows op c s.refusals records) := by
  refine brings_single keeping shown c call .ok own (form.trans (bind_pure _).symm) once effect
    (answer.trans ?_) fun _ _ no => by cases no
  cases ((records c).perform call).1 <;> rfl

/-- A field is read, and what it holds is decoded. -/
theorem brings_getAs {β : Type} (field : String) (decode : Json → Except DecodeError β) :
    Brings (Trial.answer perform others) ((Operation.getAs field decode).handling c) s
      (Settles shows (.getAs field decode) c s.refusals records) := by
  refine brings_single keeping shown c (.getData c field) (Operation.decoded field decode) rfl ?_ rfl
    rfl rfl fun _ _ _ => rfl
  refine congrArg (Handling.store (.getData c field) >>= ·) (funext fun found => ?_)
  cases found with
  | none => rfl
  | some v =>
      simp only [Operation.decoded]
      cases decode v <;> rfl

/-- A value is encoded, and a field is replaced by it. -/
theorem brings_setAs {β : Type} (field : String) (write : β → Except JsonFault Json) (a : β) :
    Brings (Trial.answer perform others) ((Operation.setAs field write a).handling c) s
      (Settles shows (.setAs field write a) c s.refusals records) := by
  cases written : write a with
  | error fault =>
      have form : (Operation.setAs field write a).handling c =
          throw (.storage (.serialization fault.message)) := by
        simp only [Operation.handling, Conversation.setAs, written]
      have answer : (Operation.setAs field write a).answer (records c) =
          .error (.storage (.serialization fault.message)) := by
        simp only [Operation.answer, written]
      rw [form]
      exact brings_throw ⟨_, records, rfl, shown, .of_error answer⟩
  | ok v =>
      refine brings_plain keeping shown c (.setData c field v) rfl ?_ rfl ?_ ?_
      · simp only [Operation.handling, Conversation.setAs, written, Conversation.setData]
      · simp only [Operation.effect, written]
        rfl
      · simp only [Operation.answer, written]
        rfl

/-- A field is read and written back; the writing is all that changes anything. -/
theorem brings_updateData (field : String) (change : Option Json → Json) :
    Brings (Trial.answer perform others) ((Operation.updateData field change).handling c) s
      (Settles shows (.updateData field change) c s.refusals records) := by
  have own : (StoreCall.getData c field).conversation = c := rfl
  have own' (v : Json) : (StoreCall.setData c field v).conversation = c := rfl
  refine brings_call keeping own shown (fun fault refused => ?_)
    (fun fault store _ failed shown => ?_) fun v store granted passed shown => ?_
  · exact ⟨_, records, rfl, shown, .of_refused Nat.two_pos refused⟩
  · refine ⟨_, records, rfl, shown, .of_error ?_⟩
    change ((((records c).perform (.getData c field)).1.mapError BotError.storage).map _) = _
    rw [failed]
    rfl
  · rw [Records.perform_of_same rfl] at shown
    have found : (records c).read field = .ok v := by
      change ((records c).perform (.getData c field)).1.mapError BotError.storage = _
      rw [passed]
      rfl
    change Brings _ (Handling.store (.setData c field (change v))) _ _
    rw [← bind_pure (Handling.store _)]
    refine brings_call keeping (own' (change v)) shown (fun fault refused => ?_)
      (fun fault store _ failed _ => by cases failed) fun _ store granted' _ shown => ?_
    · exact ⟨_, records, rfl, shown, .of_refused Nat.one_lt_two refused⟩
    · refine ⟨_, _, rfl, shown, .of_ok ?_ ?_ (own' _) ?_⟩
      · rintro (_ | _ | n) few
        · exact granted
        · exact granted'
        · exact absurd few (by simp [Operation.calls])
      · simp only [Operation.answer, found]
        rfl
      · simp only [Operation.effect, found]
        rfl

/-- Every operation, in any such surroundings. -/
theorem brings_handling (op : Operation α) :
    Brings (Trial.answer perform others) (op.handling c) s
      (Settles shows op c s.refusals records) := by
  cases op with
  | current => exact brings_plain keeping shown c (.get c) rfl rfl rfl rfl rfl
  | setState state => exact brings_plain keeping shown c (.set c state) rfl rfl rfl rfl rfl
  | finish => exact brings_plain keeping shown c (.delete c) rfl rfl rfl rfl rfl
  | resetState => exact brings_plain keeping shown c (.set c .default) rfl rfl rfl rfl rfl
  | getData field => exact brings_plain keeping shown c (.getData c field) rfl rfl rfl rfl rfl
  | setData field value =>
      exact brings_plain keeping shown c (.setData c field value) rfl rfl rfl rfl rfl
  | clearData => exact brings_plain keeping shown c (.clearData c) rfl rfl rfl rfl rfl
  | isInState states =>
      exact brings_single keeping shown c (.get c) (fun v : State => .ok (decide (v ∈ states)))
        rfl rfl rfl rfl rfl fun _ _ _ => rfl
  | getAs field decode => exact brings_getAs keeping shown c field decode
  | setAs field write a => exact brings_setAs keeping shown c field write a
  | updateData field change => exact brings_updateData keeping shown c field change

end Operations

end Trial

/-! ### All of them -/

/-- Every operation of every conversation ends, whatever the store holds and whichever calls are
refused, for whatever reasons. It is carried out as a whole or not at all: if it fails, all states
and all scratch fields of all conversations are as they were; if it succeeds, no call was refused,
what the operation is about is changed, and nothing else is. It fails if a field that it reads is
not JSON or not of the type that is asked for, or if its value cannot be written as JSON. The store
may be the one in memory (`Memory.keeping`) or one on a server (`Redis.Store.keeping`). -/
theorem Operation.atomic {σ : Type} {perform : Nat → σ → (call : StoreCall) → call.Answer × σ}
    {shows : σ → Records → Prop} (keeping : Keeping perform shows)
    (others : (r : Request) → r.Answer) {α : Type} (op : Operation α) (c : Conversation)
    (s : Trial σ) (records : Records) (shown : shows s.store records) :
    let ran := (op.handling c).run.run (Trial.answer perform others) s
    ∃ result after, ran.1 = .done result ∧ shows ran.2.store after ∧
      op.Atomic c s.refusals records after result ∧
      (op.Unfit (records c) → ∃ e, result = .error e) := by
  have settles : Handling.Brings (Trial.answer perform others) (op.handling c) s
      (Trial.Settles shows op c s.refusals records) := Trial.brings_handling keeping shown c op
  obtain ⟨result, after, ended, shown', atomic⟩ := settles
  exact ⟨result, after, ended, shown', atomic, atomic.error_of_unfit⟩

/-- A counter whose new value is refused keeps its old one. -/
theorem Operation.atomic_of_refused_write :
    let c : Conversation := ⟨1, 7⟩
    let store : Memory := ⟨.empty, .ofList [(c, ⟨.ofList [("count", "1")], 0⟩)]⟩
    let op : Operation Unit := .updateData "count" fun _ => .string "two"
    let others : (r : Request) → r.Answer
      | .store _ => .error (.backend "")
      | .clock => Instant.epoch
      | .newCode => .error (.otp "")
      | .deliver _ => .ok ()
      | .enroll _ _ _ => .error (.database "")
      | .send _ => .ok ()
      | .pause _ => ()
      | .permit => ()
      | .note _ => ()
    let ran := (op.handling c).run.run (Trial.answer Memory.perform others)
      ⟨store, fun n => n, fun n => if n = 1 then some (.backend "full") else none⟩
    (∃ e, ran.1 = .done (.error e)) ∧ ∀ c', ran.2.store.record c' = store.record c' := by
  intro c store op others ran
  obtain ⟨result, after, ended, shown, atomic, -⟩ := Operation.atomic Memory.keeping others op c
    ⟨store, fun n => n, fun n => if n = 1 then some (.backend "full") else none⟩ store.record
    fun _ => rfl
  cases result with
  | error e =>
      have same := atomic.unchanged e rfl
      subst same
      exact ⟨⟨e, ended⟩, shown⟩
  | ok a => exact absurd (atomic.unrefused a rfl 1 (by decide)) (by simp)

end Registrar
