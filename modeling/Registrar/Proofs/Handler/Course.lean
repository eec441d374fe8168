import Registrar.Proofs.Dispatch.Session

/-!
What a program asks, and in which order.

The course of a program is the list of the exchanges that it has made so far, the latest first. A
program `Comes` along its course whatever the answers are; what it may ask after which course, and
with which it may end, is a matter of its tree alone (`Along`). Since every answer is in the course,
a handler is taken through its requests one by one, with the whole course at hand at each of them.

A record is changed by the calls that a course tells to have been accepted, and by nothing else
(`Record.replay`).

* `Program.Along.comes`: what a program may ask, it is held to along every course.
* `along_store`, `along_getText`, ...: one request of a handler.
-/

namespace Registrar

namespace Program

variable {α : Type} {job : Job}

/-- The program was begun for the message and has made these exchanges, the latest first; this
remains of it. -/
inductive Comes (job : Job) (p : Program α) : List Exchange → Program α → Prop where
  | begin : Comes job p [] p
  | ask {course : List Exchange} {r : Request} {next : r.Answer → Program α}
      (before : Comes job p course (.ask r next)) (a : r.Answer) :
      Comes job p (⟨job, r, a⟩ :: course) (next a)

/-- What may be asked after a course, and how a program may end after one. -/
structure Rules (α : Type) where
  allows : List Exchange → Request → Prop
  ends : Ending α → List Exchange → Prop

/-- Whatever the answers are, the program keeps to the rules from here on. -/
def Along (job : Job) (rules : Rules α) : Program α → List Exchange → Prop
  | done a, course => rules.ends (.done a) course
  | panic, course => rules.ends .panic course
  | crash, course => rules.ends .crash course
  | ask r next, course =>
    rules.allows course r ∧ ∀ a, (next a).Along job rules (⟨job, r, a⟩ :: course)

variable {rules : Rules α} {p p' : Program α} {course : List Exchange}

/-- What remains of a program keeps to the rules, and what it has asked was allowed. -/
theorem Along.comes (along : p.Along job rules []) (comes : Comes job p course p') :
    p'.Along job rules course ∧ ∀ later e earlier, course = later ++ e :: earlier →
      e.job = job ∧ rules.allows earlier e.request := by
  induction comes with
  | begin => exact ⟨along, fun later e earlier split => by simp at split⟩
  | @ask course r next before a ih =>
      obtain ⟨⟨allowed, rest⟩, asked⟩ := ih
      refine ⟨rest a, fun later e earlier split => ?_⟩
      rcases List.cons_eq_append_iff.mp split with ⟨_, first⟩ | ⟨later', _, split⟩
      · cases first
        exact ⟨rfl, allowed⟩
      · exact asked later' e earlier split

/-- A program that has ended has ended by the rules. -/
theorem Along.ended {ending : Ending α} (along : p.Along job rules course)
    (ended : p.ending? = some ending) : rules.ends ending course := by
  cases p with
  | ask r next => cases ended
  | done | panic | crash =>
      cases ended
      exact along

end Program

/-! ### The requests of handlers -/

namespace Handling

variable {α β : Type} {job : Job} {rules : Program.Rules (Except BotError β)}
  {course : List Exchange}

abbrev Along (job : Job) (rules : Program.Rules (Except BotError β)) (x : Handling β)
    (course : List Exchange) : Prop := Program.Along job rules x.run course

theorem along_throw {e : BotError} (ends : rules.ends (.done (.error e)) course) :
    Along job rules (throw e) course := ends

theorem along_store {call : StoreCall} {f : call.Result → Handling β}
    (allowed : rules.allows course (.store call))
    (refused : ∀ fault, rules.ends (.done (.error (.storage fault)))
      (⟨job, .store call, .error fault⟩ :: course))
    (rest : ∀ v, Along job rules (f v) (⟨job, .store call, .ok v⟩ :: course)) :
    Along job rules (Handling.store call >>= f) course := by
  refine ⟨allowed, fun a => ?_⟩
  cases a with
  | ok v => exact rest v
  | error fault => exact refused fault

/-- A field is read as a text. -/
theorem along_getText {c : Conversation} {field : String} {f : Option String → Handling β}
    (allowed : rules.allows course (.store (.getData c field)))
    (refused : ∀ e (a : Except StorageError (Option Json)), (∀ text? : Option String, a ≠ .ok (text?.map .string)) →
      rules.ends (.done (.error e)) (⟨job, .store (.getData c field), a⟩ :: course))
    (rest : ∀ text? : Option String,
      Along job rules (f text?) (⟨job, .store (.getData c field), .ok (text?.map .string)⟩ :: course)) :
    Along job rules (c.getAs field Decode.string >>= f) course := by
  refine ⟨allowed, fun a => ?_⟩
  cases a with
  | error fault => exact refused _ _ fun _ same => by cases same
  | ok v? =>
      cases v? with
      | none => exact rest none
      | some v =>
          cases v with
          | string text => exact rest (some text)
          | _ => exact refused _ _ fun text? same => by cases text? <;> cases same

theorem along_clock {f : Instant → Handling β} (allowed : rules.allows course .clock)
    (rest : ∀ now, Along job rules (f now) (⟨job, .clock, now⟩ :: course)) :
    Along job rules ((Handling.ask .clock : Handling Instant) >>= f) course :=
  ⟨allowed, rest⟩

theorem along_newCode {f : String → Handling β} (allowed : rules.allows course .newCode)
    (refused : ∀ e, rules.ends (.done (.error e)) (⟨job, .newCode, .error e⟩ :: course))
    (rest : ∀ code, Along job rules (f code) (⟨job, .newCode, .ok code⟩ :: course)) :
    Along job rules (Handling.attempt id (Program.request .newCode) >>= f) course := by
  refine ⟨allowed, fun a => ?_⟩
  cases a with
  | ok code => exact rest code
  | error e => exact refused e

/-- The last thing that a handler does is to send a message. -/
theorem along_send {rules : Program.Rules Outcome} {message : Outgoing} (allowed : rules.allows course (.send message))
    (ends : ∀ a : Outcome, rules.ends (.done a) (⟨job, .send message, a⟩ :: course)) :
    Along job rules (Handling.send message) course := by
  refine ⟨allowed, fun a => ?_⟩
  cases a with
  | ok u => exact ends (.ok u)
  | error e => exact ends (.error e)

end Handling

/-! ### Records -/

/-- What an exchange makes of the record of its conversation: a call that was accepted is carried out. -/
def Exchange.carryOut : Exchange → Record → Record
  | ⟨_, .store call, .ok _⟩, r => (r.perform call).2
  | _, r => r

namespace Record

def replay (r : Record) (course : List Exchange) : Record := course.foldr Exchange.carryOut r

/-- What the store answered in the course is what the record, as it was then, says. -/
def Truthful (r : Record) (course : List Exchange) : Prop :=
  ∀ later job call v earlier, course = later ++ ⟨job, .store call, .ok v⟩ :: earlier →
    ((r.replay earlier).perform call).1 = .ok v

@[simp] theorem replay_nil (r : Record) : r.replay [] = r := rfl

@[simp] theorem replay_cons (r : Record) (e : Exchange) (course : List Exchange) :
    r.replay (e :: course) = e.carryOut (r.replay course) := rfl

theorem Truthful.tail {r : Record} {e : Exchange} {course : List Exchange}
    (truthful : r.Truthful (e :: course)) : r.Truthful course :=
  fun later job call v earlier split =>
    truthful (e :: later) job call v earlier (by rw [split]; rfl)

end Record

/-- An exchange with the record carries out what it tells. -/
theorem Chance.carryOut_answer (chance : Chance) (job : Job) (record : Record) (r : Request) :
    (⟨job, r, (chance.answer Record.perform record r).1⟩ : Exchange).carryOut record =
      (chance.answer Record.perform record r).2 := by
  cases r with
  | store call =>
      simp only [answer]
      cases chance.storeFault with
      | some fault => rfl
      | none =>
          simp only
          cases answer : (record.perform call).1 with
          | ok v => rfl
          | error fault => exact (Record.perform_eq_of_error answer).symm
  | _ => rfl

/-- The course goes on with an exchange with the record. -/
theorem Record.Truthful.ask {record : Record} {course : List Exchange}
    (truthful : record.Truthful course) (chance : Chance) (job : Job) (r : Request) :
    record.Truthful
      (⟨job, r, (chance.answer Record.perform (record.replay course) r).1⟩ :: course) := by
  intro later job' call v earlier split
  rcases List.cons_eq_append_iff.mp split with ⟨_, first⟩ | ⟨later', _, split⟩
  · obtain ⟨same, rfl⟩ := List.cons.inj first
    cases r with
    | store call' =>
        simp only [Chance.answer] at same
        cases refused : chance.storeFault with
        | some fault =>
            rw [refused] at same
            cases same
        | none =>
            rw [refused] at same
            injection same with _ request answer
            injection request with request
            subst request
            exact (eq_of_heq answer).symm
    | _ => cases same
  · exact truthful later' job' call v earlier split

end Registrar
