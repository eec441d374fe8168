import Registrar.Proofs.Dispatch.Session

/-!
What handlers keep up, whatever happens to them.

The terms for a conversation are an invariant of its story, that is of its record and of the
exchanges about it, and a condition under which a request may be made. A program is safe on such
terms if it asks the store about its own conversation only, makes no request that is not allowed,
and keeps the invariant at each request, whatever the answer is and whatever is evicted before. A
program that is safe may stop anywhere.

Only the conversation's own worker writes to its record, so what is safe alone is safe among others:

* `orderly_run`: if every handler is safe, then in every session the invariant holds throughout and
  every request was allowed when it was made.
* `Keeps.bind`, `Keeps.store`, `Keeps.ask`, ...: the rules by which handlers are shown to be safe.
-/

namespace Registrar

def Exchange.conversation (e : Exchange) : Conversation := e.job.message.conversation

/-- What the store holds for a conversation, and what was asked about it, the latest first. -/
structure Story where
  record : Record
  past : List Exchange

/-- What is kept up about a conversation. -/
structure Terms where
  /-- What holds between any two steps. -/
  invariant : Story → Prop
  /-- What may be asked for a message. -/
  allows : Job → Story → Request → Prop
  /-- Evictions do no harm. -/
  fades {r r' : Record} {past : List Exchange} :
    invariant ⟨r, past⟩ → r.Fades r' → invariant ⟨r', past⟩

namespace Program

variable {α β : Type} {terms : Terms} {job : Job}

/-- The program keeps to the terms, and what is said of its value holds if it has one. -/
def Safe (terms : Terms) (job : Job) (post : α → Story → Prop) : Program α → Story → Prop
  | done a, story => post a story
  | panic, _ => True
  | crash, _ => True
  | ask r next, story =>
    (∀ call, r = .store call → call.conversation = job.message.conversation) ∧
    ∀ record, story.record.Fades record → terms.invariant ⟨record, story.past⟩ →
      terms.allows job ⟨record, story.past⟩ r ∧
      ∀ chance : Chance,
        let after : Story := ⟨(chance.answer Record.perform record r).2,
          ⟨job, r, (chance.answer Record.perform record r).1⟩ :: story.past⟩
        terms.invariant after ∧
          (next (chance.answer Record.perform record r).1).Safe terms job post after

theorem Safe.mono {post post' : α → Story → Prop} (weaker : ∀ a story, post a story → post' a story)
    {p : Program α} {story : Story} (safe : p.Safe terms job post story) :
    p.Safe terms job post' story := by
  induction p generalizing story with
  | done a => exact weaker a story safe
  | panic => trivial
  | crash => trivial
  | ask r next ih =>
      refine ⟨safe.1, fun record fades invariant => ?_⟩
      obtain ⟨allowed, after⟩ := safe.2 record fades invariant
      exact ⟨allowed, fun chance => ⟨(after chance).1, ih _ (after chance).2⟩⟩

/-- One program after another. -/
theorem Safe.bind {post : β → Story → Prop} {p : Program α} {k : α → Program β} {story : Story}
    (safe : p.Safe terms job (fun a story => (k a).Safe terms job post story) story) :
    (p.bind k).Safe terms job post story := by
  induction p generalizing story with
  | done a => exact safe
  | panic => trivial
  | crash => trivial
  | ask r next ih =>
      refine ⟨safe.1, fun record fades invariant => ?_⟩
      obtain ⟨allowed, after⟩ := safe.2 record fades invariant
      exact ⟨allowed, fun chance => ⟨(after chance).1, ih _ (after chance).2⟩⟩

/-- What is safe stays so when something is evicted. -/
theorem Safe.fades {p : Program α} {story : Story}
    (safe : p.Safe terms job (fun _ _ => True) story) {record : Record}
    (fades : story.record.Fades record) :
    p.Safe terms job (fun _ _ => True) ⟨record, story.past⟩ := by
  cases p with
  | done a => trivial
  | panic => trivial
  | crash => trivial
  | ask r next => exact ⟨safe.1, fun record' fades' => safe.2 record' (fades.trans fades')⟩

end Program

/-! ### Rules for handlers -/

namespace Handling

variable {α β : Type} {terms : Terms} {job : Job} {pre : Story → Prop}

/-- Begun where `pre` holds, the handling keeps to the terms, and `post` holds of its value where it
succeeds. -/
def Keeps (terms : Terms) (job : Job) (pre : Story → Prop) (x : Handling α)
    (post : α → Story → Prop) : Prop :=
  ∀ story, pre story → x.run.Safe terms job
    (fun result story => ∀ a, result = .ok a → post a story) story

theorem Keeps.pure {post : α → Story → Prop} (a : α) (holds : ∀ story, pre story → post a story) :
    Keeps terms job pre (Pure.pure a) post := by
  intro story before a' same
  cases same
  exact holds story before

theorem Keeps.throw {post : α → Story → Prop} (e : BotError) :
    Keeps terms job pre (MonadExcept.throw e : Handling α) post := by
  intro story before a same
  cases same

theorem Keeps.panic {post : α → Story → Prop} :
    Keeps terms job pre (Handling.panic : Handling α) post := fun _ _ => trivial

theorem Keeps.bind {x : Handling α} {f : α → Handling β} (mid : α → Story → Prop)
    {post : β → Story → Prop} (first : Keeps terms job pre x mid)
    (rest : ∀ a, Keeps terms job (mid a) (f a) post) : Keeps terms job pre (x >>= f) post := by
  intro story before
  refine Program.Safe.bind ((first story before).mono fun result story holds => ?_)
  cases result with
  | ok a => exact rest a story (holds a rfl)
  | error e =>
      intro b same
      cases same

theorem Keeps.weaken {x : Handling α} {pre' : Story → Prop} {post post' : α → Story → Prop}
    (keeps : Keeps terms job pre' x post') (before : ∀ story, pre story → pre' story)
    (after : ∀ a story, post' a story → post a story) : Keeps terms job pre x post :=
  fun story holds => (keeps story (before story holds)).mono fun _ story holds a same =>
    after a story (holds a same)

/-- What is said of the value need not be said. -/
theorem Keeps.forget {x : Handling α} {post : α → Story → Prop}
    (keeps : Keeps terms job pre x post) : Keeps terms job pre x fun _ _ => True :=
  keeps.weaken (fun _ => id) fun _ _ _ => True.intro

/-- What a precondition says apart from the story may be used. -/
theorem Keeps.assume {fact : Prop} {x : Handling α} {post : α → Story → Prop}
    (keeps : fact → Keeps terms job pre x post) :
    Keeps terms job (fun story => fact ∧ pre story) x post := by
  rintro story ⟨holds, before⟩
  exact keeps holds story before

/-- What one request comes to, on the terms. -/
structure Asking (terms : Terms) (job : Job) (pre : Story → Prop) (r : Request)
    (post : r.Answer → Story → Prop) : Prop where
  own : ∀ call, r = .store call → call.conversation = job.message.conversation
  allowed : ∀ story record, pre story → story.record.Fades record →
    terms.invariant ⟨record, story.past⟩ → terms.allows job ⟨record, story.past⟩ r
  answered : ∀ story record, pre story → story.record.Fades record →
    terms.invariant ⟨record, story.past⟩ → ∀ chance : Chance,
      let after : Story := ⟨(chance.answer Record.perform record r).2,
        ⟨job, r, (chance.answer Record.perform record r).1⟩ :: story.past⟩
      terms.invariant after ∧ post (chance.answer Record.perform record r).1 after

/-- A program that begins with the request. -/
theorem Asking.safe_ask {r : Request} {next : r.Answer → Program α} (mid : r.Answer → Story → Prop)
    {post : α → Story → Prop} (asking : Asking terms job pre r mid)
    (rest : ∀ a story, mid a story → (next a).Safe terms job post story) {story : Story}
    (before : pre story) : (Program.ask r next).Safe terms job post story := by
  refine ⟨asking.own, fun record fades invariant =>
    ⟨asking.allowed story record before fades invariant, fun chance => ?_⟩⟩
  obtain ⟨after, holds⟩ := asking.answered story record before fades invariant chance
  exact ⟨after, rest _ _ holds⟩

theorem Asking.safe {r : Request} {post : r.Answer → Story → Prop}
    (asking : Asking terms job pre r post) {story : Story} (before : pre story) :
    (Program.request r).Safe terms job post story := by
  change (Program.ask r .done).Safe terms job post story
  refine asking.safe_ask post ?_ before
  exact fun _ _ holds => holds

/-- What cannot fail. -/
theorem Keeps.lift {p : Program α} {post : α → Story → Prop}
    (safe : ∀ story, pre story → p.Safe terms job post story) :
    Keeps terms job pre (ExceptT.lift p) post := by
  intro story before
  refine Program.Safe.bind ((safe story before).mono fun a story holds => ?_)
  intro a' same
  cases same
  exact holds

/-- A request that cannot fail. -/
theorem Keeps.ask {r : Request} {post : r.Answer → Story → Prop}
    (asking : Asking terms job pre r post) : Keeps terms job pre (Handling.ask r) post :=
  .lift fun _ before => asking.safe before

/-- A request whose failure ends the handling. -/
theorem Keeps.attempt {ε : Type} {refuse : ε → BotError} {p : Program (Except ε α)}
    {post : α → Story → Prop}
    (safe : ∀ story, pre story → p.Safe terms job
      (fun result story => ∀ a, result = .ok a → post a story) story) :
    Keeps terms job pre (Handling.attempt refuse p) post := by
  intro story before
  refine Program.Safe.bind ((safe story before).mono fun result story holds => ?_)
  cases result with
  | ok a => exact fun a' same => holds a' (by cases same; rfl)
  | error e => exact fun a' same => by cases same

theorem Keeps.store {call : StoreCall} {post : call.Result → Story → Prop}
    (asking : Asking terms job pre (.store call) fun result story =>
      ∀ a, result = .ok a → post a story) : Keeps terms job pre (Handling.store call) post :=
  .attempt fun _ before => asking.safe before

end Handling

/-! ### Sessions -/

namespace Session

variable {route : Handler} {terms : Conversation → Terms} {a a' : Affairs}

def about (c : Conversation) (exchanges : List Exchange) : List Exchange :=
  exchanges.filter (·.conversation = c)

def Affairs.story (a : Affairs) (c : Conversation) : Story :=
  ⟨a.memory.record c, about c a.exchanges⟩

/-- An exchange was allowed when its request was made. -/
def Allowed (terms : Terms) (e : Exchange) (past : List Exchange) : Prop :=
  ∃ record, terms.invariant ⟨record, past⟩ ∧ terms.allows e.job ⟨record, past⟩ e.request

/-- The terms are kept up, and the programs at work are safe. -/
structure Orderly (terms : Conversation → Terms) (a : Affairs) : Prop where
  invariant (c : Conversation) : (terms c).invariant (a.story c)
  safe {id : Nat} {job : Job} {p : Work} : a.working id = some (job, p) →
    p.Safe (terms job.message.conversation) job (fun _ _ => True)
      (a.story job.message.conversation)
  allowed {later earlier : List Exchange} {e : Exchange} : a.exchanges = later ++ e :: earlier →
    Allowed (terms e.conversation) e (about e.conversation earlier)

/-- What a request about its own conversation makes of the story. -/
theorem Affairs.story_ask (a : Affairs) (id : Nat) {job : Job} {r : Request}
    (next : r.Answer → Work) (chance : Chance)
    (own : ∀ call, r = .store call → call.conversation = job.message.conversation) :
    let answered := chance.answer Record.perform (a.memory.record job.message.conversation) r
    (chance.answer (Memory.perform chance.now) a.memory r).1 = answered.1 ∧
      (a.ask id job r next chance).story job.message.conversation =
        ⟨answered.2, ⟨job, r, answered.1⟩ :: (a.story job.message.conversation).past⟩ := by
  obtain ⟨answer, record⟩ := chance.answer_record a.memory own
  refine ⟨answer, ?_⟩
  simp only [Affairs.story, Affairs.ask, about]
  rw [record, answer, List.filter_cons_of_pos (by simp [Exchange.conversation])]

/-- The stories of other conversations stay as they are. -/
theorem Affairs.story_ask_other (a : Affairs) {id : Nat} {job : Job} {r : Request}
    (next : r.Answer → Work) (chance : Chance)
    (own : ∀ call, r = .store call → call.conversation = job.message.conversation)
    {c : Conversation} (other : c ≠ job.message.conversation) :
    (a.ask id job r next chance).story c = a.story c := by
  simp only [Affairs.story, Affairs.ask, about]
  rw [chance.record_answer_other a.memory own other,
    List.filter_cons_of_neg fun same => other (of_decide_eq_true same).symm]

theorem Orderly.ask (h : Orderly terms a) (unique : a.Unique) {id : Nat} {job : Job} {r : Request}
    {next : r.Answer → Work} (chance : Chance) (working : a.working id = some (job, .ask r next)) :
    Orderly terms (a.ask id job r next chance) := by
  obtain ⟨own, ask⟩ := h.safe working
  obtain ⟨allowed, answered⟩ := ask _ (.refl _) (h.invariant _)
  obtain ⟨invariant, safe⟩ := answered chance
  obtain ⟨answer, here⟩ := a.story_ask id next chance own
  have elsewhere : ∀ c, c ≠ job.message.conversation →
      (a.ask id job r next chance).story c = a.story c := fun c other =>
    a.story_ask_other next chance own other
  refine ⟨fun c => ?_, fun {i job' p'} working' => ?_, fun {later earlier e} split => ?_⟩
  · by_cases this_one : c = job.message.conversation
    · rw [this_one, here]
      exact invariant
    · rw [elsewhere c this_one]
      exact h.invariant c
  · rw [a.working_ask] at working'
    split at working'
    · cases working'
      rw [here, answer]
      exact safe
    · rename_i other
      rw [elsewhere]
      · exact h.safe working'
      · exact fun same => other (unique i id job' job _ _ working' working same)
  · rcases List.cons_eq_append_iff.mp split with ⟨_, first⟩ | ⟨later', _, rest⟩
    · cases first
      exact ⟨_, h.invariant _, allowed⟩
    · exact h.allowed rest

/-- A worker is set free. -/
theorem Orderly.free (h : Orderly terms a) (id : Nat) (concluded : List (Job × Outcome))
    (losses : List Job) :
    Orderly terms { a.assign id none with concluded := concluded, losses := losses } where
  invariant := h.invariant
  safe working := h.safe (Affairs.working_of_free working).1
  allowed := h.allowed

theorem Orderly.fade (h : Orderly terms a) {memory : Memory}
    (fades : ∀ c, (a.memory.record c).Fades (memory.record c)) :
    Orderly terms { a with memory := memory } where
  invariant c := (terms c).fades (h.invariant c) (fades c)
  safe {_ job _} working := (h.safe working).fades (fades job.message.conversation)
  allowed := h.allowed

theorem Orderly.effect (h : Orderly terms a) {move : Move} (effect : Effect route a move a')
    (safe : ∀ job story, (terms job.message.conversation).invariant story →
      (route job.message).run.Safe (terms job.message.conversation) job (fun _ _ => True) story)
    (unique : a.Unique) : Orderly terms a' := by
  cases effect with
  | none => exact h
  | start job free =>
      refine ⟨h.invariant, fun {i job' p'} working => ?_, h.allowed⟩
      rw [a.working_assign] at working
      split at working
      · cases working
        exact safe job _ (h.invariant _)
      · exact h.safe working
  | ask chance working => exact h.ask unique chance working
  | finish working ended outcome_eq => exact h.free _ _ _
  | kill _ mailbox working => exact h.free _ _ _
  | forgetState c => exact h.fade (a.memory.fades_forgetState c)
  | forgetScratch c => exact h.fade (a.memory.fades_forgetScratch c)

/-- If every handler is safe on the terms of the conversation of its message, then in every session
that begins where the invariants hold, they hold throughout, and every request was allowed when it
was made. -/
theorem orderly_run (memory : Memory) (moves : List Move)
    (safe : ∀ job story, (terms job.message.conversation).invariant story →
      (route job.message).run.Safe (terms job.message.conversation) job (fun _ _ => True) story)
    (begins : ∀ c, (terms c).invariant ⟨memory.record c, []⟩) :
    Orderly terms (run route memory moves).affairs := by
  induction moves using List.reverseRecOn with
  | nil =>
      rw [run, List.foldl_nil, affairs_start]
      refine ⟨begins, nofun, fun split => ?_⟩
      exact absurd split.symm (List.append_ne_nil_of_right_ne_nil _ (List.cons_ne_nil _ _))
  | append_singleton moves move ih =>
      rw [run_concat]
      exact ih.effect (effect_step route _ move) safe (unique_run route memory moves)

end Session

end Registrar
