import Registrar.Proofs.Dispatch.Accounts
import Registrar.Proofs.Dispatch.Serial

/-!
Replies come in the order of the messages that they answer.

A conversation has one worker at a time, so whatever is asked about it between two requests for one
message is asked for this message, too: the course of a message at work is the latest part of what was
asked about its conversation (`Recent`). If handlers moreover send one message when they succeed and
none otherwise (`Responsive`), then the replies to a conversation are one for each message that was
handled with success, in this order.

* `Comes.run`: what a run of a handler asks is one of its courses.
* `Along.account`: so a run ends by the rules that its handler keeps to.
* `recent_run`: the exchanges for a message are made one after another.
* `replies_eq_succeeded`: the replies to the messages that were handled.
* `mem_replies_cases`, `nodup_replies`: no message gets two replies, and none gets one for nothing.
-/

namespace Registrar

/-! ### What is sent -/

namespace Exchange

def outgoing? : Exchange → Option Outgoing
  | ⟨_, .send message, _⟩ => some message
  | _ => none

/-- If a message was to be sent, the bot sent it. -/
def Arrived : Exchange → Prop
  | ⟨_, .send _, sent⟩ => sent = .ok ()
  | _ => True

/-- What was to be sent, together with the message that it answers. -/
def reply? (e : Exchange) : Option (Job × Outgoing) := e.outgoing?.map fun message => (e.job, message)

theorem outgoing?_eq_some {e : Exchange} {message : Outgoing} :
    e.outgoing? = some message ↔ e.request = .send message := by
  obtain ⟨job, r, answer⟩ := e
  cases r <;> simp [outgoing?]

end Exchange

/-- If a message is to be sent at the move, the bot sends it. -/
def Move.Sends : Move → Prop
  | .ask _ chance => chance.chat = .ok ()
  | _ => True

/-- The number of messages that are sent by a handler that ends in this way. -/
def Ending.repliesDue : Ending Outcome → Nat
  | .done (.ok _) => 1
  | .done (.error _) => 0
  | .panic => 0
  | .crash => 0

/-- A handler that succeeds sends one message, unless the bot refuses it, one that does not succeed
sends none, and nothing is asked after a message was sent. -/
structure Responsive (route : Handler) : Prop where
  last {job : Job} {course : List Exchange} {r : Request} {next : r.Answer → Work} :
    (route job.message).run.Comes job course (.ask r next) → ∀ e ∈ course, e.outgoing? = none
  ended {job : Job} {course : List Exchange} {p : Work} {ending : Ending Outcome} :
    (route job.message).run.Comes job course p → p.ending? = some ending →
      (∀ e ∈ course, e.Arrived) → (course.filterMap Exchange.outgoing?).length = ending.repliesDue

/-! ### One run of a handler -/

namespace Program

variable {α σ : Type} {job : Job} {answer : σ → (r : Request) → r.Answer × σ}

/-- Surroundings that keep an account of what they are asked for a message, and of their answers. -/
def accounted (job : Job) (answer : σ → (r : Request) → r.Answer × σ) (s : σ × List Exchange)
    (r : Request) : r.Answer × (σ × List Exchange) :=
  ((answer s.1 r).1, ((answer s.1 r).2, ⟨job, r, (answer s.1 r).1⟩ :: s.2))

/-- The account does nothing to the run. -/
theorem run_accounted (p : Program α) (s : σ) (course : List Exchange) :
    (p.run (accounted job answer) (s, course)).1 = (p.run answer s).1 ∧
      (p.run (accounted job answer) (s, course)).2.1 = (p.run answer s).2 := by
  induction p generalizing s course with
  | done | panic | crash => exact ⟨rfl, rfl⟩
  | ask r next ih => exact ih _ _ _

/-- What a run asks is a course, at the end of which the program has ended. -/
theorem Comes.run {p p' : Program α} {course : List Exchange} (comes : Comes job p course p')
    (answer : σ → (r : Request) → r.Answer × σ) (s : σ) : ∃ last,
      Comes job p (p'.run (accounted job answer) (s, course)).2.2 last ∧
      last.ending? = some (p'.run (accounted job answer) (s, course)).1 := by
  induction p' generalizing s course with
  | done a => exact ⟨.done a, comes, rfl⟩
  | panic => exact ⟨.panic, comes, rfl⟩
  | crash => exact ⟨.crash, comes, rfl⟩
  | ask r next ih => exact ih _ (comes.ask _) _

/-- What a run asks for a message, and how it is answered, the latest first. -/
def account (job : Job) (answer : σ → (r : Request) → r.Answer × σ) (p : Program α) (s : σ) :
    List Exchange := (p.run (accounted job answer) (s, [])).2.2

/-- A run ends by the rules. -/
theorem Along.account {rules : Rules α} {p : Program α} (along : p.Along job rules [])
    (answer : σ → (r : Request) → r.Answer × σ) (s : σ) :
    rules.ends (p.run answer s).1 (p.account job answer s) := by
  have begun : Comes job p [] p := .begin
  obtain ⟨last, comes, ended⟩ := begun.run answer s
  rw [(run_accounted p s []).1] at ended
  exact (along.comes comes).1.ended ended

/-- A bot that sends everything has sent everything that a run sends. -/
theorem arrived_of_run (sends : ∀ s message, (answer s (.send message)).1 = .ok ()) (p : Program α)
    {s : σ} {course : List Exchange} (before : ∀ e ∈ course, e.Arrived) :
    ∀ e ∈ (p.run (accounted job answer) (s, course)).2.2, e.Arrived := by
  induction p generalizing s course with
  | done | panic | crash => exact before
  | ask r next ih =>
      refine ih _ fun e mem => ?_
      rcases List.mem_cons.mp mem with rfl | mem
      · cases r with
        | send message => exact sends s message
        | _ => trivial
      · exact before e mem

end Program

namespace Session

variable {route : Handler} {a a' : Affairs} {c : Conversation}

/-! ### One message after another -/

/-- The exchanges for a message at work are the latest about its conversation, and so they were
whenever a request was made. -/
structure Recent (route : Handler) (a : Affairs) : Prop where
  course {id : Nat} {job : Job} {p : Work} : a.working id = some (job, p) →
    a.courseOf job <+: about job.message.conversation a.exchanges
  asked {later earlier : List Exchange} {e : Exchange} : a.exchanges = later ++ e :: earlier →
    earlier.filter (·.job = e.job) <+: about e.conversation earlier ∧
      ∃ next, (route e.job.message).run.Comes e.job (earlier.filter (·.job = e.job))
        (.ask e.request next)

theorem about_cons_own (e : Exchange) (exchanges : List Exchange) :
    about e.conversation (e :: exchanges) = e :: about e.conversation exchanges :=
  List.filter_cons_of_pos (decide_eq_true rfl)

theorem about_cons_other {e : Exchange} (other : e.conversation ≠ c) (exchanges : List Exchange) :
    about c (e :: exchanges) = about c exchanges :=
  List.filter_cons_of_neg (by simpa using other)

theorem Recent.effect (h : Recent route a) {move : Move} (effect : Effect route a move a')
    (attributed : Attributed route a) (unique : a.Unique) (unique' : a'.Unique)
    (undivided' : a'.Undivided) : Recent route a' := by
  refine ⟨fun {i job' p'} working' => ?_, fun {later earlier e} split => ?_⟩
  · cases effect with
    | none | forgetState | forgetScratch => exact h.course working'
    | @start id job free =>
        rw [a.working_assign] at working'
        split at working'
        · cases working'
          change a.courseOf job' <+: _
          rw [attributed.courseOf_eq_nil free unique' undivided']
          exact List.nil_prefix
        · exact h.course working'
    | @ask id job r next chance working =>
        rw [a.courseOf_ask]
        rw [a.working_ask] at working'
        split at working'
        · cases working'
          rw [if_pos rfl]
          have latest := about_cons_own
            ⟨job', r, (chance.answer (Memory.perform chance.now) a.memory r).1⟩ a.exchanges
          exact latest ▸ (List.prefix_cons_inj _).mpr (h.course working)
        · rename_i other
          have apart : job.message.conversation ≠ job'.message.conversation := fun same =>
            other (unique i id job' job _ _ working' working same.symm)
          rw [if_neg fun same => apart (by rw [same])]
          change _ <+: about _ (⟨job, r, _⟩ :: a.exchanges)
          rw [about_cons_other (e := ⟨job, r, _⟩) apart]
          exact h.course working'
    | finish | kill => exact h.course (Affairs.working_of_free working').1
  · rcases effect.exchanges_cases with same | ⟨id, job, r, next, answer, working, exchanges⟩
    · exact h.asked (same ▸ split)
    · rw [exchanges] at split
      rcases List.cons_eq_append_iff.mp split with ⟨_, first⟩ | ⟨later', _, rest⟩
      · cases first
        exact ⟨h.course working, next, attributed.course working⟩
      · exact h.asked rest

theorem recent_run (route : Handler) (memory : Memory) (moves : List Move) :
    Recent route (run route memory moves).affairs := by
  induction moves using List.reverseRecOn with
  | nil =>
      refine ⟨fun working => ?_, fun split => ?_⟩
      · cases working
      · exact absurd split.symm (List.append_ne_nil_of_right_ne_nil _ (List.cons_ne_nil _ _))
  | append_singleton moves move ih =>
      have effect := effect_step route (run route memory moves) move
      rw [← run_concat] at effect
      exact ih.effect effect (attributed_run route memory moves) (unique_run route memory moves)
        (unique_run route memory _) (undivided_run route memory _)

/-! ### A bot that sends everything -/

theorem Effect.arrived {move : Move} (effect : Effect route a move a') (sends : move.Sends)
    (arrived : ∀ e ∈ a.exchanges, e.Arrived) : ∀ e ∈ a'.exchanges, e.Arrived := by
  cases effect with
  | none | start | finish | kill | forgetState | forgetScratch => exact arrived
  | @ask id job r next chance working =>
      intro e mem
      rcases List.mem_cons.mp mem with rfl | mem
      · cases r with
        | send message => exact sends
        | _ => trivial
      · exact arrived e mem

theorem arrived_run (route : Handler) (memory : Memory) {moves : List Move}
    (sends : ∀ move ∈ moves, move.Sends) : ∀ e ∈ (run route memory moves).exchanges, e.Arrived := by
  induction moves using List.reverseRecOn with
  | nil =>
      intro e mem
      cases mem
  | append_singleton moves move ih =>
      have before := ih fun move mem => sends move (List.mem_append_left _ mem)
      rw [run_concat]
      exact (effect_step route (run route memory moves) move).arrived
        (sends move (List.mem_append_right _ List.mem_cons_self)) before

/-! ### The replies to a conversation -/

/-- What was sent in the course of exchanges, the earliest first, together with the message for which
it was sent. -/
def repliesIn (exchanges : List Exchange) : List (Job × Outgoing) :=
  exchanges.reverse.filterMap Exchange.reply?

def Affairs.replies (a : Affairs) (c : Conversation) : List (Job × Outgoing) :=
  repliesIn (about c a.exchanges)

/-- The messages of a conversation that were handled with success, the earliest first. -/
def Affairs.succeeded (a : Affairs) (c : Conversation) : List Job :=
  ((a.outcomes c).filter fun o => o.2.isOk).map Prod.fst

def Affairs.handled (a : Affairs) : List Job := a.concluded.map Prod.fst

theorem repliesIn_append (later earlier : List Exchange) :
    repliesIn (later ++ earlier) = repliesIn earlier ++ repliesIn later := by
  simp only [repliesIn, List.reverse_append, List.filterMap_append]

theorem repliesIn_cons (e : Exchange) (earlier : List Exchange) :
    repliesIn (e :: earlier) = repliesIn earlier ++ e.reply?.toList := by
  rw [← List.singleton_append, repliesIn_append]
  refine congrArg _ ?_
  cases sent : e.reply? <;> simp [repliesIn, sent]

theorem mem_repliesIn {exchanges : List Exchange} {job : Job} {message : Outgoing} :
    (job, message) ∈ repliesIn exchanges ↔
      ∃ e ∈ exchanges, e.job = job ∧ e.outgoing? = some message := by
  simp only [repliesIn, List.mem_filterMap, List.mem_reverse, Exchange.reply?, Option.map_eq_some_iff,
    Prod.mk.injEq]
  constructor
  · rintro ⟨e, mem, _, sent, same, rfl⟩
    exact ⟨e, mem, same, sent⟩
  · rintro ⟨e, mem, same, sent⟩
    exact ⟨e, mem, message, sent, same, rfl⟩

/-- Whoever gets a reply gets it at an exchange. -/
theorem of_replied {exchanges : List Exchange} {job : Job}
    (replied : job ∈ (repliesIn exchanges).map Prod.fst) :
    ∃ e ∈ exchanges, e.job = job ∧ ∃ message, e.outgoing? = some message := by
  obtain ⟨⟨_, message⟩, mem, rfl⟩ := List.mem_map.mp replied
  obtain ⟨e, mem, same, sent⟩ := mem_repliesIn.mp mem
  exact ⟨e, mem, same, message, sent⟩

theorem mem_replies {job : Job} {message : Outgoing} : (job, message) ∈ a.replies c ↔
    ∃ e ∈ a.exchanges, e.conversation = c ∧ e.job = job ∧ e.outgoing? = some message := by
  simp only [Affairs.replies, mem_repliesIn, about, List.mem_filter, decide_eq_true_eq, and_assoc]

/-- The replies to one message are as many as were sent for it. -/
theorem map_fst_repliesIn {job : Job} {course : List Exchange} (own : ∀ e ∈ course, e.job = job) :
    (repliesIn course).map Prod.fst =
      List.replicate (course.filterMap Exchange.outgoing?).length job := by
  induction course with
  | nil => rfl
  | cons e course ih =>
      have rest := ih fun e mem => own e (List.mem_cons_of_mem _ mem)
      have here : e.job = job := own e List.mem_cons_self
      rw [repliesIn_cons, List.map_append, rest]
      cases sent : e.outgoing? with
      | none =>
          rw [List.filterMap_cons_none sent]
          simp [Exchange.reply?, sent]
      | some message =>
          rw [List.filterMap_cons_some sent, List.length_cons, List.replicate_succ']
          simp [Exchange.reply?, sent, here]

/-! ### Their order -/

/-- The exchanges for a message are about its conversation. -/
theorem filter_about (job : Job) (exchanges : List Exchange) :
    (about job.message.conversation exchanges).filter (·.job = job) =
      exchanges.filter (·.job = job) := by
  rw [about, List.filter_filter]
  refine List.filter_congr fun e _ => ?_
  by_cases this_one : e.job = job
  · simp [Exchange.conversation, this_one]
  · simp [this_one]

/-- Before a message at work was taken up, nothing was asked for it. -/
theorem Recent.divides (h : Recent route a) {id : Nat} {job : Job} {p : Work}
    (working : a.working id = some (job, p)) : ∃ earlier,
      about job.message.conversation a.exchanges = a.courseOf job ++ earlier ∧
        ∀ e ∈ earlier, e.job ≠ job := by
  obtain ⟨earlier, split⟩ := h.course working
  refine ⟨earlier, split.symm, fun e mem this_one => ?_⟩
  have whole := filter_about job a.exchanges
  rw [← split, List.filter_append] at whole
  have course : (a.courseOf job).filter (·.job = job) = a.courseOf job :=
    List.filter_eq_self.mpr fun e mem => (List.mem_filter.mp mem).2
  rw [course] at whole
  have nothing := List.append_right_eq_self.mp whole
  exact absurd (decide_eq_true this_one) (List.filter_eq_nil_iff.mp nothing e mem)

/-- The replies to the messages that were handled are, in order, one for each that was handled with
success. -/
def Affairs.InOrder (a : Affairs) (c : Conversation) : Prop :=
  ((a.replies c).map Prod.fst).filter (· ∈ a.handled) = a.succeeded c

theorem Affairs.Undivided.not_handled (undivided : a.Undivided) {id : Nat} {job : Job} {p : Work}
    (working : a.working id = some (job, p)) : job ∉ a.handled := fun handled =>
  undivided id job p working (List.mem_append_left _ handled)

theorem Affairs.InOrder.ask (h : a.InOrder c) (undivided : a.Undivided) {id : Nat} {job : Job}
    {r : Request} {next : r.Answer → Work} (working : a.working id = some (job, .ask r next))
    (chance : Chance) : (a.ask id job r next chance).InOrder c := by
  have unhandled := undivided.not_handled working
  let e : Exchange := ⟨job, r, (chance.answer (Memory.perform chance.now) a.memory r).1⟩
  change ((repliesIn (about c (e :: a.exchanges))).map Prod.fst).filter (· ∈ a.handled) = a.succeeded c
  by_cases own : e.conversation = c
  · subst own
    rw [about_cons_own, repliesIn_cons, List.map_append, List.filter_append]
    have unanswered : (e.reply?.toList.map Prod.fst).filter (· ∈ a.handled) = [] := by
      cases sent : e.outgoing? <;> simp [Exchange.reply?, sent, e, unhandled]
    rw [unanswered, List.append_nil]
    exact h
  · rw [about_cons_other own]
    exact h

/-- Whether a message that got no reply was handled does not matter. -/
theorem filter_mem_cons {jobs handled : List Job} {job : Job} (absent : job ∉ jobs) :
    jobs.filter (· ∈ job :: handled) = jobs.filter (· ∈ handled) := by
  refine List.filter_congr fun job' mem => ?_
  have other : job' ≠ job := fun same => absent (same ▸ mem)
  simp [other]

theorem Affairs.succeeded_finish (a : Affairs) (id : Nat) (job : Job) (outcome : Outcome) :
    (a.finish id job outcome).succeeded c = a.succeeded c ++
      if job.message.conversation = c ∧ outcome.isOk = true then [job] else [] := by
  by_cases own : job.message.conversation = c
  · cases success : outcome.isOk <;>
      simp [Affairs.succeeded, Affairs.outcomes, Affairs.finish, own, success]
  · simp [Affairs.succeeded, Affairs.outcomes, Affairs.finish, own]

/-- As many messages are due as the outcome says. -/
theorem repliesDue_of_outcome {job : Job} {ending : Ending Outcome} {outcome : Outcome}
    (outcome_eq : EventLoop.outcomeOf job.message ending = some outcome) :
    List.replicate ending.repliesDue job = if outcome.isOk = true then [job] else [] := by
  cases ending with
  | done result =>
      cases outcome_eq
      cases outcome <;> rfl
  | panic =>
      cases outcome_eq
      rfl
  | crash => cases outcome_eq

/-- When a handler has ended, the last replies to its conversation are those that are due for its
message, and there are no others for it. -/
theorem Recent.replies_due (h : Recent route a) (responsive : Responsive route)
    (attributed : Attributed route a) (arrived : ∀ e ∈ a.exchanges, e.Arrived) {id : Nat} {job : Job}
    {p : Work} {ending : Ending Outcome} (working : a.working id = some (job, p))
    (ended : p.ending? = some ending) : ∃ before, job ∉ before ∧
      (a.replies job.message.conversation).map Prod.fst =
        before ++ List.replicate ending.repliesDue job := by
  obtain ⟨earlier, split, others⟩ := h.divides working
  have own : ∀ e ∈ a.courseOf job, e.job = job := fun e mem =>
    of_decide_eq_true (List.mem_filter.mp mem).2
  have sent : ((a.courseOf job).filterMap Exchange.outgoing?).length = ending.repliesDue :=
    responsive.ended (attributed.course working) ended fun e mem =>
      arrived e (List.mem_filter.mp mem).1
  refine ⟨(repliesIn earlier).map Prod.fst, ?_, ?_⟩
  · intro replied
    obtain ⟨e, mem, this_one, _⟩ := of_replied replied
    exact others e mem this_one
  · rw [Affairs.replies, split, repliesIn_append, List.map_append, map_fst_repliesIn own, sent]

theorem Affairs.InOrder.finish (h : a.InOrder c) (responsive : Responsive route)
    (attributed : Attributed route a) (recent : Recent route a) (undivided : a.Undivided)
    (arrived : ∀ e ∈ a.exchanges, e.Arrived) {id : Nat} {job : Job} {p : Work}
    {ending : Ending Outcome} {outcome : Outcome} (working : a.working id = some (job, p))
    (ended : p.ending? = some ending)
    (outcome_eq : EventLoop.outcomeOf job.message ending = some outcome) :
    (a.finish id job outcome).InOrder c := by
  have unhandled := undivided.not_handled working
  change ((a.replies c).map Prod.fst).filter (· ∈ job :: a.handled) = _
  rw [a.succeeded_finish, ← h]
  by_cases own : job.message.conversation = c
  · subst own
    obtain ⟨before, absent, replies⟩ := recent.replies_due responsive attributed arrived working ended
    -- its replies, which did not count up to now, come last
    rw [replies, List.filter_append, List.filter_append, filter_mem_cons absent,
      List.filter_replicate_of_pos (by simp), List.filter_replicate_of_neg (by simpa using unhandled),
      repliesDue_of_outcome outcome_eq, List.append_nil]
    simp only [true_and]
  · have absent : job ∉ (a.replies c).map Prod.fst := by
      intro replied
      obtain ⟨e, mem, this_one, _⟩ := of_replied replied
      have here : e.conversation = c := of_decide_eq_true (List.mem_filter.mp mem).2
      exact own (this_one ▸ here)
    rw [filter_mem_cons absent, if_neg fun both => own both.1, List.append_nil]

theorem Affairs.InOrder.effect (h : a.InOrder c) {move : Move} (effect : Effect route a move a')
    (responsive : Responsive route) (attributed : Attributed route a) (recent : Recent route a)
    (undivided : a.Undivided) (arrived : ∀ e ∈ a.exchanges, e.Arrived) : a'.InOrder c := by
  cases effect with
  | none | start | kill | forgetState | forgetScratch => exact h
  | ask chance working => exact h.ask undivided working chance
  | finish working ended outcome_eq =>
      exact h.finish responsive attributed recent undivided arrived working ended outcome_eq

/-- In every session whose bot sends everything, whoever was killed in it, the replies to the messages
that were handled are one for each that was handled with success, in order. -/
theorem inOrder_run (responsive : Responsive route) (memory : Memory) {moves : List Move}
    (sends : ∀ move ∈ moves, move.Sends) (c : Conversation) :
    (run route memory moves).affairs.InOrder c := by
  induction moves using List.reverseRecOn with
  | nil => rfl
  | append_singleton moves move ih =>
      have before : ∀ move ∈ moves, move.Sends := fun move mem =>
        sends move (List.mem_append_left _ mem)
      rw [run_concat]
      exact (ih before).effect (effect_step route (run route memory moves) move) responsive
        (attributed_run route memory moves) (recent_run route memory moves)
        (undivided_run route memory moves) (arrived_run route memory before)

/-! ### Other replies -/

/-- If nothing is asked for a message after one was sent for it, none gets two replies. -/
theorem nodup_repliesIn {exchanges : List Exchange}
    (last : ∀ later e earlier, exchanges = later ++ e :: earlier →
      ∀ e' ∈ earlier, e'.job = e.job → e'.outgoing? = none) :
    ((repliesIn exchanges).map Prod.fst).Nodup := by
  induction exchanges with
  | nil => exact List.nodup_nil
  | cons e exchanges ih =>
      have before := ih fun later e' earlier split =>
        last (e :: later) e' earlier (by rw [split, List.cons_append])
      rw [repliesIn_cons, List.map_append]
      cases sent : e.outgoing? with
      | none => simpa [Exchange.reply?, sent] using before
      | some message =>
          refine List.nodup_append.mpr ⟨before, by simp [Exchange.reply?, sent], ?_⟩
          rintro job replied job' mem rfl
          obtain ⟨e', mem', same, message', sent'⟩ := of_replied replied
          have this_one : job = e.job := by simpa [Exchange.reply?, sent] using mem
          cases (last [] e exchanges rfl e' mem' (same.trans this_one)).symm.trans sent'

/-- No message gets two replies. -/
theorem nodup_replies (responsive : Responsive route) (recent : Recent route a) (c : Conversation) :
    ((a.replies c).map Prod.fst).Nodup := by
  have all : ((repliesIn a.exchanges).map Prod.fst).Nodup := by
    refine nodup_repliesIn fun later e earlier split e' mem same => ?_
    obtain ⟨_, next, comes⟩ := recent.asked split
    exact responsive.last comes e' (List.mem_filter.mpr ⟨mem, decide_eq_true same⟩)
  have fewer : (a.replies c).Sublist (repliesIn a.exchanges) :=
    List.filter_sublist.reverse.filterMap Exchange.reply?
  exact all.sublist (fewer.map Prod.fst)

/-- A message that got a reply is one of the conversation, and was handled or lost, or somebody is at
work on it. -/
theorem Attributed.replied_cases (h : Attributed route a) {job : Job}
    (replied : job ∈ (a.replies c).map Prod.fst) : job.message.conversation = c ∧
      (job ∈ a.handled ∨ job ∈ a.losses ∨ ∃ id p, a.working id = some (job, p)) := by
  obtain ⟨e, mem, rfl, _⟩ := of_replied replied
  obtain ⟨mem, own⟩ := List.mem_filter.mp mem
  refine ⟨of_decide_eq_true own, ?_⟩
  rcases h.takenUp mem with working | settled
  · exact .inr (.inr working)
  · exact (List.mem_append.mp settled).imp_right .inl

/-- If it was handled, then with success. -/
theorem Affairs.InOrder.replied_cases (h : a.InOrder c) (attributed : Attributed route a) {job : Job}
    (replied : job ∈ (a.replies c).map Prod.fst) :
    job ∈ a.succeeded c ∨ job ∈ a.losses ∨ ∃ id p, a.working id = some (job, p) := by
  refine (attributed.replied_cases replied).2.imp_left fun handled => ?_
  rw [← h]
  exact List.mem_filter.mpr ⟨replied, decide_eq_true handled⟩

/-- Once nobody is at work for a conversation of which nothing was lost, these are all replies. -/
theorem Affairs.InOrder.complete (h : a.InOrder c) (attributed : Attributed route a)
    (kept : ∀ job ∈ a.losses, job.message.conversation ≠ c)
    (nobody : ∀ id job p, a.working id = some (job, p) → job.message.conversation ≠ c) :
    (a.replies c).map Prod.fst = a.succeeded c := by
  rw [← h]
  refine (List.filter_eq_self.mpr fun job replied => ?_).symm
  obtain ⟨own, handled | lost | ⟨id, p, working⟩⟩ := attributed.replied_cases replied
  · exact decide_eq_true handled
  · exact absurd own (kept job lost)
  · exact absurd own (nobody id job p working)

end Session

end Registrar
