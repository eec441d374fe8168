import Registrar.Proofs.Dispatch.Attendance

/-!
What is known while a message is handled, even if records are evicted meanwhile.

Where something may be evicted between two requests, the record of a conversation is no longer what
the course of the message at work makes of it. What is known of it then is an `Outline`: a property
for the time between messages, and one for each course. Both have to survive evictions, and the
latter every further request.

* `outlined_run`: in every session the first holds of every conversation throughout, and the second
  held whenever a request was made.
-/

namespace Registrar

/-- What a request and its answer make of the record of the conversation: a call is accepted, and is
answered and carried out as the record has it, or the record is left alone. -/
inductive Told (record : Record) : (r : Request) → r.Answer → Record → Prop where
  | accepted {call : StoreCall} {v : call.Result} (answer : (record.perform call).1 = .ok v) :
      Told record (.store call) (.ok v) (record.perform call).2
  | refused {call : StoreCall} (fault : StorageError) :
      Told record (.store call) (.error fault) record
  | elsewhere {r : Request} (a : r.Answer) (other : ∀ call, r ≠ .store call) : Told record r a record

theorem Chance.told (chance : Chance) (record : Record) (r : Request) :
    Told record r (chance.answer Record.perform record r).1
      (chance.answer Record.perform record r).2 := by
  cases r with
  | store call =>
      simp only [answer]
      cases chance.storeFault with
      | some fault => exact .refused fault
      | none =>
          simp only
          cases answer : (record.perform call).1 with
          | ok v => exact .accepted answer
          | error fault =>
              rw [Record.perform_eq_of_error answer]
              exact .refused fault
  | _ => exact .elsewhere _ fun _ same => by cases same

/-- What holds of the story of a conversation between messages, and what holds of it while a message
is handled that has come along a course. -/
structure Outline (route : Handler) where
  resting : Conversation → Story → Prop
  underway : Job → List Exchange → Story → Prop
  resting_fades {c : Conversation} {r r' : Record} {past : List Exchange} :
    resting c ⟨r, past⟩ → r.Fades r' → resting c ⟨r', past⟩
  underway_fades {job : Job} {course : List Exchange} {r r' : Record} {past : List Exchange} :
    underway job course ⟨r, past⟩ → r.Fades r' → underway job course ⟨r', past⟩
  /-- A message is taken up. -/
  start {job : Job} {story : Story} :
    resting job.message.conversation story → underway job [] story
  /-- A message may be left at any point. -/
  leave {job : Job} {course : List Exchange} {story : Story} :
    underway job course story → resting job.message.conversation story
  /-- A request is made and answered. -/
  ask {job : Job} {course : List Exchange} {r : Request} {next : r.Answer → Work} {a : r.Answer}
    {record record' : Record} {past : List Exchange} : underway job course ⟨record, past⟩ →
    (route job.message).run.Comes job course (.ask r next) → Told record r a record' →
    underway job (⟨job, r, a⟩ :: course) ⟨record', ⟨job, r, a⟩ :: past⟩

namespace Outline

variable {route : Handler} (outline : Outline route)

/-- The terms on which a conversation is handled: requests are made underway. -/
def terms (c : Conversation) : Terms where
  invariant := outline.resting c
  allows job story r := ∃ course next, outline.underway job course story ∧
    (route job.message).run.Comes job course (.ask r next)
  fades := outline.resting_fades

/-- Whatever is evicted and whatever is answered, a program goes on underway. -/
theorem safe {job : Job} {course : List Exchange} {p : Work} {story : Story}
    (minds : p.Minds job.message.conversation)
    (comes : (route job.message).run.Comes job course p)
    (underway : outline.underway job course story) :
    p.Safe (outline.terms job.message.conversation) job (fun _ _ => True) story := by
  induction p generalizing course story with
  | done | panic | crash => trivial
  | ask r next ih =>
      refine ⟨minds.1, fun record fades _ => ?_⟩
      have here := outline.underway_fades underway fades
      refine ⟨⟨course, next, here, comes⟩, fun chance => ?_⟩
      have after := outline.ask here comes (chance.told record r)
      exact ⟨outline.leave after, ih _ (minds.2 _) (comes.ask _) after⟩

end Outline

namespace Session

/-- Where the exchanges about a conversation are divided, all exchanges are. -/
theorem about_split {c : Conversation} {exchanges later earlier : List Exchange} {e : Exchange}
    (split : about c exchanges = later ++ e :: earlier) :
    ∃ later' earlier', exchanges = later' ++ e :: earlier' ∧ about c earlier' = earlier ∧
      e.conversation = c := by
  obtain ⟨later', rest, rfl, _, rest_eq⟩ := List.filter_eq_append_iff.mp split
  obtain ⟨skipped, earlier', rfl, _, own, earlier_eq⟩ := List.filter_eq_cons_iff.mp rest_eq
  exact ⟨later' ++ skipped, earlier', by rw [List.append_assoc], earlier_eq, of_decide_eq_true own⟩

/-- The outline holds of every conversation, and held of every message when it made a request. -/
structure Outlined {route : Handler} (outline : Outline route) (a : Affairs) : Prop where
  resting (c : Conversation) : outline.resting c (a.story c)
  asked {later earlier : List Exchange} {e : Exchange} : a.exchanges = later ++ e :: earlier →
    ∃ record course next,
      outline.underway e.job course ⟨record, about e.conversation earlier⟩ ∧
        (route e.job.message).run.Comes e.job course (.ask e.request next)

/-- An outline that holds at first holds throughout, whatever is evicted. -/
theorem outlined_run {route : Handler} (outline : Outline route) (memory : Memory)
    (moves : List Move) (minds : ∀ message, (route message).run.Minds message.conversation)
    (begins : ∀ c, outline.resting c ⟨memory.record c, []⟩) :
    Outlined outline (run route memory moves).affairs := by
  have orderly : Orderly outline.terms (run route memory moves).affairs :=
    orderly_run memory moves
      (fun job story resting => outline.safe (minds job.message) .begin (outline.start resting))
      begins
  refine ⟨orderly.invariant, fun split => ?_⟩
  obtain ⟨record, _, course, next, underway, comes⟩ := orderly.allowed split
  exact ⟨record, course, next, underway, comes⟩

end Session

end Registrar
