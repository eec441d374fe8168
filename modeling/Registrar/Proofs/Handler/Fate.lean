import Registrar.Proofs.Handler.Course
import Registrar.Proofs.Handler.Evaluation
import Mathlib.Data.Stream.Init

/-!
What a handler meets with.

A `Fate` says what comes of everything that may be asked for one message: which calls the store refuses,
and what the first, the second, ... of the requests of any other kind brings. With the record that the
store holds, it fixes what a handler does from beginning to end.

* `Fate.run_eq`: a course whose answers a fate gives is the one that its run takes.
* `Fate.exists_gives`: the answers of every course in which no call is made twice are given by a fate.
* `Fate.brings_write`, `Fate.brings_text`: one call on the store, whether it is refused or not.
-/

namespace Registrar

/-- What comes of everything that may be asked. -/
structure Fate where
  /-- The reason for which the store refuses a call, if it does. -/
  refusal : StoreCall → Option StorageError
  moments : Stream' Instant
  codes : Stream' (Except BotError String)
  mails : Stream' (Except EmailError Unit)
  enrolments : Stream' (Except UsersError UserRecord)
  replies : Stream' (Except BotError Unit)

namespace Fate

variable {s : Record × Fate} {r : Record} {fate : Fate} {course : List Exchange} {job : Job}

def accepts (fate : Fate) (call : StoreCall) : Bool := (fate.refusal call).isNone

/-- The answer to a request, the record after it, and what is still to come. -/
def answer (s : Record × Fate) : (r : Request) → r.Answer × (Record × Fate)
  | .store call =>
    match s.2.refusal call with
    | some fault => (.error fault, s)
    | none => ((s.1.perform call).1, (s.1.perform call).2, s.2)
  | .clock => (s.2.moments.head, s.1, { s.2 with moments := s.2.moments.tail })
  | .newCode => (s.2.codes.head, s.1, { s.2 with codes := s.2.codes.tail })
  | .deliver _ => (s.2.mails.head, s.1, { s.2 with mails := s.2.mails.tail })
  | .enroll _ _ _ => (s.2.enrolments.head, s.1, { s.2 with enrolments := s.2.enrolments.tail })
  | .send _ => (s.2.replies.head, s.1, { s.2 with replies := s.2.replies.tail })
  | .pause _ => ((), s)
  | .permit => ((), s)
  | .note _ => ((), s)

/-- The record after a course, and what is still to come. -/
def after (s : Record × Fate) (course : List Exchange) : Record × Fate :=
  course.foldr (fun e s => (answer s e.request).2) s

/-- Every answer in a course is the one that the fate has for it. -/
def Gives (s : Record × Fate) : List Exchange → Prop
  | [] => True
  | e :: course => e.answer = (answer (after s course) e.request).1 ∧ Gives s course

theorem after_concat (s : Record × Fate) (course : List Exchange) (e : Exchange) :
    after s (course ++ [e]) = after (answer s e.request).2 course :=
  List.foldr_append

theorem gives_concat {e : Exchange} : Gives s (course ++ [e]) ↔
    e.answer = (answer s e.request).1 ∧ Gives (answer s e.request).2 course := by
  induction course with
  | nil => exact Iff.rfl
  | cons e' course ih =>
      rw [List.cons_append, Gives, Gives, ih, after_concat, and_left_comm]

/-! ### A fate and its course -/

/-- A program that has come along a course whose answers are given goes on as its run does. -/
theorem run_eq {α : Type} {p p' : Program α} (comes : p.Comes job course p')
    (gives : Gives s course) : p.run answer s = p'.run answer (after s course) := by
  induction comes with
  | begin => rfl
  | ask before a ih =>
      obtain ⟨given, gives⟩ := gives
      rw [ih gives, Program.run, show a = _ from given]
      rfl

/-- An answer that is given tells what becomes of the record. -/
theorem carryOut_answer (s : Record × Fate) (job : Job) (r : Request) :
    (⟨job, r, (answer s r).1⟩ : Exchange).carryOut s.1 = (answer s r).2.1 := by
  cases r with
  | store call =>
      cases verdict : s.2.refusal call with
      | some fault =>
          simp only [answer, verdict]
          rfl
      | none =>
          simp only [answer, verdict]
          cases performed : (s.1.perform call).1 with
          | ok v => rfl
          | error fault => exact (Record.perform_eq_of_error performed).symm
  | _ => rfl

theorem record_after (gives : Gives s course) : (after s course).1 = s.1.replay course := by
  induction course with
  | nil => rfl
  | cons e course ih =>
      obtain ⟨given, gives⟩ := gives
      have carried := carryOut_answer (after s course) e.job e.request
      rw [← given, ih gives] at carried
      exact carried.symm

/-! ### A course and its fate -/

open Classical in
noncomputable def withVerdict (fate : Fate) (call : StoreCall) (verdict : Option StorageError) :
    Fate :=
  { fate with refusal := fun other => if other = call then verdict else fate.refusal other }

theorem refusal_withVerdict (fate : Fate) (call : StoreCall) (verdict : Option StorageError) :
    (fate.withVerdict call verdict).refusal call = verdict :=
  if_pos rfl

theorem refusal_withVerdict_of_ne {call other : StoreCall} (differs : other ≠ call)
    (fate : Fate) (verdict : Option StorageError) :
    (fate.withVerdict call verdict).refusal other = fate.refusal other :=
  if_neg differs

theorem answer_withVerdict {call : StoreCall} {request : Request} (other : request ≠ .store call)
    (s : Record × Fate) (verdict : Option StorageError) :
    answer (s.1, s.2.withVerdict call verdict) request =
      ((answer s request).1, (answer s request).2.1,
        (answer s request).2.2.withVerdict call verdict) := by
  cases request with
  | store call' =>
      have same := refusal_withVerdict_of_ne (fun same => other (congrArg Request.store same)) s.2
        verdict
      cases refusal : s.2.refusal call' with
      | none | some => simp only [answer, same, refusal]
  | _ => rfl

/-- Nothing else is answered otherwise. -/
theorem gives_withVerdict {call : StoreCall} (verdict : Option StorageError)
    (others : ∀ e ∈ course, e.request ≠ .store call) (gives : Gives (r, fate) course) :
    after (r, fate.withVerdict call verdict) course =
        ((after (r, fate) course).1, (after (r, fate) course).2.withVerdict call verdict) ∧
      Gives (r, fate.withVerdict call verdict) course := by
  induction course with
  | nil => exact ⟨rfl, trivial⟩
  | cons e course ih =>
      obtain ⟨other, others⟩ := List.forall_mem_cons.mp others
      obtain ⟨given, gives⟩ := gives
      obtain ⟨same, gives⟩ := ih others gives
      have answered := answer_withVerdict other (after (r, fate) course) verdict
      refine ⟨?_, ?_, gives⟩
      · change (answer (after (r, fate.withVerdict call verdict) course) e.request).2 = _
        rw [same, answered]
        rfl
      · rw [same, answered]
        exact given

/-- No call is made twice. -/
def Distinct (course : List Exchange) : Prop :=
  ∀ later e earlier call, course = later ++ e :: earlier → e.request = .store call →
    ∀ e' ∈ earlier, e'.request ≠ .store call

/-- Every course in which no call is made twice has a fate that gives its answers. -/
theorem exists_gives (truthful : r.Truthful course) (distinct : Distinct course) :
    ∃ fate, Gives (r, fate) course := by
  induction course using List.reverseRecOn generalizing r with
  | nil =>
      exact ⟨⟨fun _ => none, .const .epoch, .const (.ok ""), .const (.ok ()),
        .const (.error (.database "")), .const (.ok ())⟩, trivial⟩
  | append_singleton course e ih =>
      -- The fate of what came later meets with the first exchange as well.
      have first : ∀ call, e.request = .store call → ∀ e' ∈ course, e'.request ≠ .store call := by
        intro call asked e' mem again
        obtain ⟨later, earlier, split⟩ := List.append_of_mem mem
        refine distinct later e' (earlier ++ [e]) call (by simp [split]) again e (by simp) asked
      obtain ⟨fate, gives⟩ := ih (r := e.carryOut r)
        (fun later job call v earlier split => by
          have answered := truthful later job call v (earlier ++ [e]) (by simp [split])
          rwa [Record.replay, List.foldr_append] at answered)
        (fun later e' earlier call split asked e'' mem =>
          distinct later e' (earlier ++ [e]) call (by simp [split]) asked e'' (by simp [mem]))
      obtain ⟨job, request, a⟩ := e
      simp only [gives_concat]
      cases request with
      | store call =>
          cases a with
          | error fault =>
              refine ⟨fate.withVerdict call (some fault), ?_⟩
              simp only [answer, refusal_withVerdict]
              exact ⟨rfl, (gives_withVerdict _ (first call rfl) gives).2⟩
          | ok v =>
              refine ⟨fate.withVerdict call none, ?_⟩
              simp only [answer, refusal_withVerdict]
              exact ⟨(truthful course job call v [] rfl).symm,
                (gives_withVerdict _ (first call rfl) gives).2⟩
      | clock => exact ⟨{ fate with moments := .cons a fate.moments }, rfl, gives⟩
      | newCode => exact ⟨{ fate with codes := .cons a fate.codes }, rfl, gives⟩
      | deliver mail => exact ⟨{ fate with mails := .cons a fate.mails }, rfl, gives⟩
      | enroll login id roles =>
          exact ⟨{ fate with enrolments := .cons a fate.enrolments }, rfl, gives⟩
      | send message => exact ⟨{ fate with replies := .cons a fate.replies }, rfl, gives⟩
      | pause | permit | note => exact ⟨fate, rfl, gives⟩

/-! ### Calls on the store -/

open Handling

variable {β : Type} {Q : Ending (Except BotError β) → Record × Fate → Prop}

/-- A call that cannot fail by itself. -/
theorem brings_write {call : StoreCall} {v : call.Result} {after : Record}
    {f : call.Result → Handling β} (performed : r.perform call = (.ok v, after))
    (refused : fate.accepts call = false → ∀ fault, Q (.done (.error fault)) (r, fate))
    (accepted : fate.accepts call = true → Brings answer (f v) (after, fate) Q) :
    Brings answer (Handling.store call >>= f) (r, fate) Q := by
  cases verdict : fate.refusal call with
  | some fault =>
      have answered : answer (r, fate) (.store call) = (.error fault, r, fate) := by
        simp only [answer, verdict]
      exact Program.brings_ask answered (refused (by rw [accepts, verdict]; rfl) _)
  | none =>
      have answered : answer (r, fate) (.store call) = (.ok v, after, fate) := by
        simp only [answer, verdict, performed]
      exact brings_store answered (accepted (by rw [accepts, verdict]; rfl))

/-- What is read from a scratch field as a text, if that can be told. -/
def text? (fate : Fate) (r : Record) (c : Conversation) (field : String) : Option (Option String) :=
  if fate.accepts (.getData c field) then
    match (r.perform (.getData c field)).1 with
    | .ok none => some none
    | .ok (some (.string text)) => some (some text)
    | _ => none
  else none

theorem brings_text {c : Conversation} {field : String} {f : Option String → Handling β}
    (unread : fate.text? r c field = none → ∀ fault, Q (.done (.error fault)) (r, fate))
    (read : ∀ text?, fate.text? r c field = some text? → Brings answer (f text?) (r, fate) Q) :
    Brings answer (c.getAs field Decode.string >>= f) (r, fate) Q := by
  cases verdict : fate.refusal (.getData c field) with
  | some fault =>
      have answered : answer (r, fate) (.store (.getData c field)) = (.error fault, r, fate) := by
        simp only [answer, verdict]
      exact Program.brings_ask answered (unread (by simp [text?, accepts, verdict]) _)
  | none =>
      have accepted : fate.accepts (.getData c field) = true := by rw [accepts, verdict]; rfl
      have answered : answer (r, fate) (.store (.getData c field)) =
          ((r.perform (.getData c field)).1, r, fate) := by
        simp only [answer, verdict]
        rfl
      rw [text?, if_pos accepted] at unread read
      cases value : (r.perform (.getData c field)).1 with
      | error fault =>
          rw [value] at answered unread
          exact Program.brings_ask answered (unread rfl _)
      | ok v? =>
          rw [value] at answered unread read
          cases v? with
          | none => exact Program.brings_ask answered (read none rfl)
          | some v =>
              cases v with
              | string text => exact Program.brings_ask answered (read (some text) rfl)
              | _ => exact Program.brings_ask answered (unread rfl _)

end Fate

end Registrar
