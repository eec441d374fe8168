import Registrar.Proofs.Dispatch.Conduct
import Registrar.Proofs.Handler.Course

/-!
What happens to a conversation while one of its messages is handled.

From the moment a worker takes up a message until it is done with it, nobody else touches the record
of its conversation, unless part of it is evicted. So if nothing is, the record is what the course of
the program makes of the record as it was, and the answers of the store are what that record says.

* `Attends.course`: the course of a message, and the record after it.
* `attended_run`: what evictions between messages and the courses of handlers keep up holds in every
  session in which nothing of a conversation is evicted while one of its messages is handled.
-/

namespace Registrar

def Move.Evicts (c : Conversation) : Move → Prop
  | .forgetState c' => c' = c
  | .forgetScratch c' => c' = c
  | _ => False

def Move.isEviction : Move → Bool
  | .forgetState _ => true
  | .forgetScratch _ => true
  | _ => false

theorem Move.Evicts.isEviction {c : Conversation} {move : Move} (evicts : move.Evicts c) :
    move.isEviction = true := by
  cases move with
  | forgetState | forgetScratch => rfl
  | _ => cases evicts

/-- The program asks the store about the conversation only. -/
def Program.Minds {α : Type} (c : Conversation) : Program α → Prop
  | done _ => True
  | panic => True
  | crash => True
  | ask r next => (∀ call, r = .store call → call.conversation = c) ∧ ∀ a, (next a).Minds c

theorem Program.Along.minds {α : Type} {job : Job} {rules : Program.Rules α} {c : Conversation}
    (own : ∀ course r, rules.allows course r → ∀ call, r = .store call → call.conversation = c)
    {p : Program α} {course : List Exchange} (along : p.Along job rules course) : p.Minds c := by
  induction p generalizing course with
  | done | panic | crash => trivial
  | ask r next ih => exact ⟨own course r along.1, fun a => ih a (along.2 a)⟩

/-- Whatever is answered and whatever is evicted, a program that goes by rules keeps to the terms that
the allowed requests keep up. -/
theorem Program.Along.safe {α : Type} {job : Job} {rules : Program.Rules α} {terms : Terms}
    (own : ∀ course r, rules.allows course r → ∀ call, r = .store call →
      call.conversation = job.message.conversation)
    (allowed : ∀ course r story, rules.allows course r → terms.invariant story →
      terms.allows job story r)
    (kept : ∀ course r record past (chance : Chance), rules.allows course r →
      terms.invariant ⟨record, past⟩ → terms.invariant ⟨(chance.answer Record.perform record r).2,
        ⟨job, r, (chance.answer Record.perform record r).1⟩ :: past⟩)
    {p : Program α} {course : List Exchange} (along : p.Along job rules course) (story : Story) :
    p.Safe terms job (fun _ _ => True) story := by
  induction p generalizing course story with
  | done | panic | crash => trivial
  | ask r next ih =>
      refine ⟨own course r along.1, fun record _ invariant =>
        ⟨allowed course r _ along.1 invariant, fun chance => ?_⟩⟩
      exact ⟨kept course r record story.past chance along.1 invariant, ih _ (along.2 _) _⟩

namespace Session

variable {route : Handler} {a a' : Affairs}

/-- Whoever is at work asks the store about the conversation of its message only. -/
def Affairs.Minding (a : Affairs) : Prop :=
  ∀ id job p, a.working id = some (job, p) → p.Minds job.message.conversation

theorem Affairs.Minding.effect (h : a.Minding) {move : Move} (effect : Effect route a move a')
    (minds : ∀ message, (route message).run.Minds message.conversation) : a'.Minding := by
  intro i job' p' working'
  cases effect with
  | none | forgetState | forgetScratch => exact h i job' p' working'
  | start begun free =>
      rw [a.working_assign] at working'
      split at working'
      · cases working'
        exact minds job'.message
      · exact h i job' p' working'
  | ask chance working =>
      rw [a.working_ask] at working'
      split at working'
      · cases working'
        exact (h _ _ _ working).2 _
      · exact h i job' p' working'
  | finish working | kill _ _ working => exact h i job' p' (Affairs.working_of_free working').1

theorem minding_run (memory : Memory) (moves : List Move)
    (minds : ∀ message, (route message).run.Minds message.conversation) :
    (run route memory moves).affairs.Minding := by
  induction moves using List.reverseRecOn with
  | nil => exact fun i job p working => by cases working
  | append_singleton moves move ih =>
      rw [run_concat]
      exact ih.effect (effect_step route _ move) minds

/-! ### One message -/

/-- Worker `id` took up a message after the moves `before`, and has been at work on it, or has just
been set free, after these moves; nothing of its conversation was evicted in between. -/
inductive Attends (route : Handler) (memory : Memory) (before : List Move) (id : Nat) (job : Job) :
    List Move → Prop where
  | start (free : (run route memory before).working? id = none) {p : Work}
      (begun : (run route memory (before ++ [.start id])).working? id = some (job, p)) :
      Attends route memory before id job (before ++ [.start id])
  | step {moves : List Move} (attends : Attends route memory before id job moves) {p : Work}
      (working : (run route memory moves).working? id = some (job, p)) {move : Move}
      (kept : ¬ move.Evicts job.message.conversation) :
      Attends route memory before id job (moves ++ [move])

/-- The course of the message so far is this one, and this remains of the program. -/
structure Attended (route : Handler) (a a' : Affairs) (id : Nat) (job : Job) (course : List Exchange)
    (p : Work) : Prop where
  comes : (route job.message).run.Comes job course p
  story : a'.story job.message.conversation =
    ⟨(a.story job.message.conversation).record.replay course,
      course ++ (a.story job.message.conversation).past⟩
  truthful : (a.story job.message.conversation).record.Truthful course
  working : a'.working id = some (job, p) ∨ a'.working id = none

variable {a₀ : Affairs} {id : Nat} {job : Job} {course : List Exchange} {p : Work}

/-- The story has not changed, and the worker is still at work or was set free. -/
theorem Attended.stay (h : Attended route a₀ a id job course p)
    (story : a'.story job.message.conversation = a.story job.message.conversation)
    (working : a'.working id = some (job, p) ∨ a'.working id = none) :
    Attended route a₀ a' id job course p :=
  ⟨h.comes, story.trans h.story, h.truthful, working⟩

/-- The worker makes its next request. -/
theorem Attended.ask {r : Request} {next : r.Answer → Work}
    (h : Attended route a₀ a id job course (.ask r next)) (chance : Chance)
    (own : ∀ call, r = .store call → call.conversation = job.message.conversation) :
    ∃ answer, Attended route a₀ (a.ask id job r next chance) id job (⟨job, r, answer⟩ :: course)
      (next answer) := by
  obtain ⟨answer, story⟩ := a.story_ask id next chance own
  have record : a.memory.record job.message.conversation =
      (a₀.story job.message.conversation).record.replay course := congrArg Story.record h.story
  refine ⟨_, h.comes.ask _, ?_, h.truthful.ask chance job r, .inl ?_⟩
  · rw [story, record, Record.replay_cons, chance.carryOut_answer, h.story]
    rfl
  · rw [a.working_ask, if_pos rfl, answer, record]

theorem Attended.effect (h : Attended route a₀ a id job course p)
    (working : a.working id = some (job, p)) {move : Move} (effect : Effect route a move a')
    (minding : a.Minding) (unique : a.Unique) (kept : ¬ move.Evicts job.message.conversation) :
    ∃ course' p', Attended route a₀ a' id job course' p' := by
  -- A worker that is set free is this one, or leaves it at work.
  have freed : ∀ i, (a.assign i none).working id = some (job, p) ∨
      (a.assign i none).working id = none := by
    intro i
    rw [a.working_assign]
    split
    · exact .inr rfl
    · exact .inl working
  cases effect with
  | none => exact ⟨course, p, h⟩
  | start begun free =>
      refine ⟨course, p, h.stay rfl (.inl ?_)⟩
      rw [a.working_assign, if_neg fun same => ?_]
      · exact working
      · rw [← same, working] at free
        cases free
  | @ask i job' r next chance working' =>
      have own := (minding i job' _ working').1
      by_cases this_one : i = id
      · subst this_one
        rw [working] at working'
        cases working'
        obtain ⟨answer, after⟩ := h.ask chance own
        exact ⟨_, _, after⟩
      · have other : job.message.conversation ≠ job'.message.conversation := fun same =>
          this_one (unique i id job' job _ _ working' working same.symm)
        refine ⟨course, p, h.stay (a.story_ask_other next chance own other) (.inl ?_)⟩
        rw [a.working_ask, if_neg (Ne.symm this_one)]
        exact working
  | finish => exact ⟨course, p, h.stay rfl (freed _)⟩
  | kill => exact ⟨course, p, h.stay rfl (freed _)⟩
  | forgetState c =>
      refine ⟨course, p, h.stay ?_ (.inl working)⟩
      simp only [Affairs.story]
      rw [Memory.record_forgetState, if_neg fun same => kept same.symm]
  | forgetScratch c =>
      refine ⟨course, p, h.stay ?_ (.inl working)⟩
      simp only [Affairs.story]
      rw [Memory.record_forgetScratch, if_neg fun same => kept same.symm]

/-- A worker that was free and is at work now has just taken up its message. -/
theorem Attended.begin (effect : Effect route a (.start id) a') (free : a.working id = none)
    (begun : a'.working id = some (job, p)) :
    Attended route a a' id job [] (route job.message).run := by
  cases effect with
  | none =>
      rw [free] at begun
      cases begun
  | start job' =>
      rw [a.working_assign_self] at begun
      cases begun
      exact ⟨.begin, rfl, fun _ _ _ _ _ split => by simp at split, .inl (a.working_assign_self ..)⟩
  | kill =>
      have before := (Affairs.working_of_free begun).1
      rw [free] at before
      cases before

/-- A message has a course from when it is taken up. -/
theorem Attends.attended {memory : Memory} {before moves : List Move}
    (minds : ∀ message, (route message).run.Minds message.conversation)
    (attends : Attends route memory before id job moves) :
    ∃ course p, Attended route (run route memory before).affairs (run route memory moves).affairs id
      job course p := by
  induction attends with
  | start free begun =>
      have effect := effect_step route (run route memory before) (.start id)
      rw [← run_concat] at effect
      exact ⟨_, _, .begin effect free begun⟩
  | @step moves attends p working move kept ih =>
      obtain ⟨course, p', h⟩ := ih
      have working' : (run route memory moves).affairs.working id = some (job, p) := working
      rcases h.working with same | free
      · rw [run_concat]
        exact h.effect same (effect_step route _ move) (minding_run memory moves minds)
          (unique_run route memory moves) kept
      · rw [free] at working'
        cases working'

/-! ### All messages -/

/-- Nothing of a conversation is evicted while one of its messages is handled. -/
def Considerate (route : Handler) (memory : Memory) (moves : List Move) : Prop :=
  ∀ before move rest, moves = before ++ move :: rest → ∀ id job p,
    (run route memory before).working? id = some (job, p) →
      ¬ move.Evicts job.message.conversation

/-- Nothing is evicted at all. -/
theorem considerate_of_all {memory : Memory} {moves : List Move}
    (none : moves.all (!·.isEviction) = true) : Considerate route memory moves := by
  intro before move rest split _ _ _ _ evicts
  have kept := List.all_eq_true.mp none move (by rw [split]; simp)
  rw [evicts.isEviction] at kept
  cases kept

/-- Something is kept up about every conversation; about one with a message at work it was kept up
when the message was taken up, too, and so it was whenever a request was made. -/
structure Kept (route : Handler) (holds : Conversation → Story → Prop) (a : Affairs) : Prop where
  story (c : Conversation) : holds c (a.story c)
  course {id : Nat} {job : Job} {p : Work} : a.working id = some (job, p) → ∃ a₀ course,
    holds job.message.conversation (a₀.story job.message.conversation) ∧
      Attended route a₀ a id job course p
  asked {later earlier : List Exchange} {e : Exchange} : a.exchanges = later ++ e :: earlier →
    ∃ story course next, holds e.conversation story ∧
      (route e.job.message).run.Comes e.job course (.ask e.request next) ∧
        story.record.Truthful course ∧ about e.conversation earlier = course ++ story.past

/-- What every course of a handler keeps up. -/
def Upkept (route : Handler) (holds : Conversation → Story → Prop) : Prop :=
  ∀ job story course p, holds job.message.conversation story →
    (route job.message).run.Comes job course p → story.record.Truthful course →
      holds job.message.conversation ⟨story.record.replay course, course ++ story.past⟩

variable {holds : Conversation → Story → Prop}

/-- Who is at work now was at work on the same message before, or has just begun. -/
theorem Effect.working_cases {move : Move} (effect : Effect route a move a')
    (working' : a'.working id = some (job, p)) :
    (∃ p₀, a.working id = some (job, p₀)) ∨ (move = .start id ∧ a.working id = .none) := by
  cases effect with
  | none | forgetState | forgetScratch => exact .inl ⟨p, working'⟩
  | @start i job' free =>
      rw [a.working_assign] at working'
      split at working'
      · rename_i this_one
        rw [this_one]
        exact .inr ⟨rfl, free⟩
      · exact .inl ⟨p, working'⟩
  | ask chance working =>
      rw [a.working_ask] at working'
      split at working'
      · rename_i this_one
        cases working'
        exact .inl ⟨_, this_one ▸ working⟩
      · exact .inl ⟨p, working'⟩
  | finish | kill => exact .inl ⟨p, (Affairs.working_of_free working').1⟩

/-- Who is at work now was at the same point before, has just begun, or has just asked. -/
theorem Effect.at_work {move : Move} (effect : Effect route a move a')
    (working' : a'.working id = some (job, p)) :
    a.working id = some (job, p) ∨ p = (route job.message).run ∨ ∃ chance, move = .ask id chance := by
  cases effect with
  | none | forgetState | forgetScratch => exact .inl working'
  | start begun free =>
      rw [a.working_assign] at working'
      split at working'
      · cases working'
        exact .inr (.inl rfl)
      · exact .inl working'
  | ask chance working =>
      rw [a.working_ask] at working'
      split at working'
      · rename_i this_one
        exact .inr (.inr ⟨chance, this_one ▸ rfl⟩)
      · exact .inl working'
  | finish | kill => exact .inl (Affairs.working_of_free working').1

/-- The story of a conversation changes only through a message at work and through evictions. -/
theorem Effect.story_cases {move : Move} (effect : Effect route a move a') (minding : a.Minding)
    (c : Conversation) :
    (∃ id job p, a'.working id = some (job, p) ∧ job.message.conversation = c) ∨
      ∃ record, (a.story c).record.Fades record ∧ a'.story c = ⟨record, (a.story c).past⟩ := by
  cases effect with
  | none | start | finish | kill => exact .inr ⟨_, .refl _, rfl⟩
  | @ask i job r next chance working =>
      by_cases this_one : job.message.conversation = c
      · have working' := a.working_ask i job r next chance i
        rw [if_pos rfl] at working'
        exact .inl ⟨i, job, _, working', this_one⟩
      · have own := (minding i job _ working).1
        rw [a.story_ask_other next chance own (Ne.symm this_one)]
        exact .inr ⟨_, .refl _, rfl⟩
  | forgetState c' => exact .inr ⟨_, a.memory.fades_forgetState c' c, rfl⟩
  | forgetScratch c' => exact .inr ⟨_, a.memory.fades_forgetScratch c' c, rfl⟩

/-- Whatever is asked is the next request of a message at work. -/
theorem Effect.exchanges_cases {move : Move} (effect : Effect route a move a') :
    a'.exchanges = a.exchanges ∨ ∃ id job r next answer, a.working id = some (job, .ask r next) ∧
      a'.exchanges = ⟨job, r, answer⟩ :: a.exchanges := by
  cases effect with
  | none | start | finish | kill | forgetState | forgetScratch => exact .inl rfl
  | @ask id job r next chance working => exact .inr ⟨id, job, r, next, _, working, rfl⟩

theorem Kept.effect_course (h : Kept route holds a) {move : Move} (effect : Effect route a move a')
    (minding : a.Minding) (unique : a.Unique)
    (kept : ∀ id job p, a.working id = some (job, p) → ¬ move.Evicts job.message.conversation)
    (working' : a'.working id = some (job, p)) : ∃ a₀ course,
      holds job.message.conversation (a₀.story job.message.conversation) ∧
        Attended route a₀ a' id job course p := by
  have same : ∀ {a₀ course p'}, Attended route a₀ a' id job course p' → p' = p := by
    intro a₀ course p' attended
    rcases attended.working with same | free
    · exact congrArg Prod.snd (Option.some.inj (same.symm.trans working'))
    · cases free.symm.trans working'
  rcases effect.working_cases working' with ⟨p₀, working⟩ | ⟨rfl, free⟩
  · obtain ⟨a₀, course, before, attended⟩ := h.course working
    obtain ⟨course', p', after⟩ :=
      attended.effect working effect minding unique (kept id job p₀ working)
    exact ⟨a₀, course', before, same after ▸ after⟩
  · have begun := Attended.begin effect free working'
    exact ⟨a, [], h.story _, same begun ▸ begun⟩

theorem Kept.effect_asked (h : Kept route holds a) {move : Move} (effect : Effect route a move a')
    {later earlier : List Exchange} {e : Exchange} (split : a'.exchanges = later ++ e :: earlier) :
    ∃ story course next, holds e.conversation story ∧
      (route e.job.message).run.Comes e.job course (.ask e.request next) ∧
        story.record.Truthful course ∧ about e.conversation earlier = course ++ story.past := by
  rcases effect.exchanges_cases with same | ⟨id, job, r, next, answer, working, exchanges⟩
  · exact h.asked (same ▸ split)
  rw [exchanges] at split
  rcases List.cons_eq_append_iff.mp split with ⟨_, first⟩ | ⟨later', _, rest⟩
  · cases first
    obtain ⟨a₀, course, before, attended⟩ := h.course working
    exact ⟨_, course, next, before, attended.comes, attended.truthful,
      congrArg Story.past attended.story⟩
  · exact h.asked rest

theorem Kept.effect (h : Kept route holds a) {move : Move} (effect : Effect route a move a')
    (upkept : Upkept route holds)
    (fades : ∀ c r r' past, holds c ⟨r, past⟩ → r.Fades r' → holds c ⟨r', past⟩)
    (minding : a.Minding) (unique : a.Unique)
    (kept : ∀ id job p, a.working id = some (job, p) → ¬ move.Evicts job.message.conversation) :
    Kept route holds a' := by
  refine ⟨fun c => ?_, h.effect_course effect minding unique kept, h.effect_asked effect⟩
  rcases effect.story_cases minding c with ⟨id, job, p, working', rfl⟩ | ⟨record, faded, story⟩
  · obtain ⟨a₀, course, before, attended⟩ := h.effect_course effect minding unique kept working'
    rw [attended.story]
    exact upkept job _ course p before attended.comes attended.truthful
  · rw [story]
    exact fades c _ record _ (h.story c) faded

/-- What evictions and the courses of handlers keep up, and what holds at first, holds throughout a
session in which nothing of a conversation is evicted while one of its messages is handled. -/
theorem kept_run (memory : Memory) (moves : List Move)
    (minds : ∀ message, (route message).run.Minds message.conversation)
    (upkept : Upkept route holds)
    (fades : ∀ c r r' past, holds c ⟨r, past⟩ → r.Fades r' → holds c ⟨r', past⟩)
    (begins : ∀ c, holds c ⟨memory.record c, []⟩) (considerate : Considerate route memory moves) :
    Kept route holds (run route memory moves).affairs := by
  induction moves using List.reverseRecOn with
  | nil =>
      refine ⟨begins, fun working => ?_, fun split => ?_⟩
      · cases working
      · exact absurd split.symm (List.append_ne_nil_of_right_ne_nil _ (List.cons_ne_nil _ _))
  | append_singleton moves move ih =>
      have earlier : Considerate route memory moves := by
        intro before move' rest split
        refine considerate before move' (rest ++ [move]) ?_
        rw [split, List.append_assoc, List.cons_append]
      rw [run_concat]
      exact (ih earlier).effect (effect_step route _ move) upkept fades
        (minding_run memory moves minds) (unique_run route memory moves)
        (considerate moves move [] rfl)

end Session

end Registrar
