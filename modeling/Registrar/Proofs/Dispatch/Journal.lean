import Registrar.Proofs.Dispatch.Traffic
import Mathlib.Data.List.Nodup

/-!
What the journal tells.

`Entry.told` reads from entries the messages of one conversation, the earliest first: those that
were put into mailboxes, those that were handled, those that were handled or lost.

* `accepted_iff_served`: a message is entered as accepted exactly if its caller has put it into a
  mailbox.
* `accepted_nodup`: and it is entered once only, however often its caller had to try.
* `killed_of_lost`: a message is entered as lost only if a worker of its conversation was killed.
-/

namespace Registrar

variable {Work : Type}

namespace Entry

def accepted? : Entry → Option Job
  | accepted _ job => some job
  | _ => none

def handled? : Entry → Option Job
  | handled _ job _ => some job
  | _ => none

def settled? : Entry → Option Job
  | accepted _ _ => none
  | handled _ job _ => some job
  | lost _ job => some job

/-- The messages of a conversation of which entries tell, the earliest first. The entries come the
latest first. -/
def told (pick : Entry → Option Job) (c : Conversation) (entries : List Entry) : List Job :=
  (entries.reverse.filterMap pick).filter (·.message.conversation = c)

variable {pick : Entry → Option Job} {c : Conversation}

@[simp] theorem told_nil : told pick c [] = [] := rfl

theorem told_append (later earlier : List Entry) :
    told pick c (later ++ earlier) = told pick c earlier ++ told pick c later := by
  simp [told, List.filterMap_append]

theorem mem_told {entries : List Entry} {job : Job} :
    job ∈ told pick c entries ↔
      (∃ e ∈ entries, pick e = some job) ∧ job.message.conversation = c := by
  simp [told]

end Entry

namespace Dispatcher

variable {d d' : Dispatcher Work} {id : Nat} {w : Worker Work} {c : Conversation}

/-- The messages of a conversation that were put into mailboxes, in that order. -/
def accepted (d : Dispatcher Work) (c : Conversation) : List Job :=
  Entry.told Entry.accepted? c d.journal

def handled (d : Dispatcher Work) (c : Conversation) : List Job :=
  Entry.told Entry.handled? c d.journal

/-- The messages of a conversation that were handled or lost, in that order. -/
def settled (d : Dispatcher Work) (c : Conversation) : List Job :=
  Entry.told Entry.settled? c d.journal

/-- All messages that were put into mailboxes, the latest first. -/
def admissions (d : Dispatcher Work) : List Job := d.journal.filterMap Entry.accepted?

theorem mem_accepted {job : Job} :
    job ∈ d.accepted c ↔ job ∈ d.admissions ∧ job.message.conversation = c := by
  rw [accepted, Entry.mem_told, admissions, List.mem_filterMap]

/-! ### Who enters messages as accepted -/

theorem admissions_place {now : Nat} {job : Job} (placed : d.place now job = .ok d') :
    d'.admissions = job :: d.admissions := by
  rcases place_cases placed with ⟨id, w, _, _, _, rfl⟩ | ⟨_, rfl⟩ <;> rfl

theorem admissions_discard (c : Conversation) (id : Nat) :
    (d.discard c id).admissions = d.admissions := by
  rcases discard_cases d c id with same | ⟨_, after⟩
  · rw [same]
  · rw [after]
    rfl

theorem admissions_start {begin : Message → Work} {job : Job}
    (started : d.start id begin = some (job, d')) : d'.admissions = d.admissions := by
  obtain ⟨c, rest, since, found, rfl⟩ := start_cases started
  rfl

theorem admissions_progress (work : Work) : (d.progress id work).admissions = d.admissions := by
  rcases progress_cases d id work with same | ⟨c, mailbox, job, before, _, after⟩
  · rw [same]
  · rw [after]
    rfl

theorem admissions_finish (now : Nat) (outcome : Outcome) :
    (d.finish now id outcome).admissions = d.admissions := by
  rcases finish_cases d now id outcome with same | ⟨c, mailbox, job, work, _, after⟩
  · rw [same]
  · rw [after]
    rfl

theorem filterMap_accepted?_lost (id : Nat) (jobs : List Job) :
    (jobs.map (Entry.lost id)).reverse.filterMap Entry.accepted? = [] := by
  rw [List.filterMap_reverse, List.filterMap_map]
  simp [Entry.accepted?]

theorem admissions_kill : (d.kill id).admissions = d.admissions := by
  rcases kill_cases d id with same | ⟨c, mailbox, job, work, _, after⟩
  · rw [same]
  · rw [after]
    simp only [admissions, List.filterMap_append, filterMap_accepted?_lost, List.nil_append]

theorem admissions_retire : (d.retire id).admissions = d.admissions := by
  rcases retire_cases d id with same | ⟨c, since, _, _, after⟩
  · rw [same]
  · rw [after]
    rfl

/-! ### Losses -/

theorem Deed.killed_of_lost {v? : Option (Worker Work)} {entry entry' : Option Nat}
    {written : List Entry} (deed : Deed id v? entry w entry' written)
    (own : ∀ v, v? = some v → ∀ job ∈ v.pending, job.message.conversation = v.conversation)
    {i : Nat} {job : Job} (mem : .lost i job ∈ written) :
    w.conversation = job.message.conversation ∧ w.phase.isKilled = true := by
  cases deed with
  | put | welcome | finish => cases List.mem_singleton.mp mem
  | start | progress | retire => cases mem
  | kill c mailbox job' work =>
      obtain ⟨job'', mem', same⟩ := List.mem_map.mp (List.mem_reverse.mp mem)
      cases same
      exact ⟨(own _ rfl job mem').symm, rfl⟩

/-- Every message that was lost had a worker that was killed. -/
def Blamed (d : Dispatcher Work) : Prop :=
  ∀ i job, .lost i job ∈ d.journal → ∃ id w, d.worker? id = some w ∧
    w.conversation = job.message.conversation ∧ w.phase.isKilled = true

theorem Change.blamed (step : Change d d') (h : Consistent d) (blamed : Blamed d) : Blamed d' := by
  intro i job mem
  cases step with
  | stay => exact blamed i job mem
  | discard registered closed => exact blamed i job mem
  | turn id w entry written deed turn =>
      rw [turn.journal] at mem
      rcases List.mem_append.mp mem with mem | mem
      · exact ⟨id, w, by rw [turn.workers, if_pos rfl],
          deed.killed_of_lost (fun v found => h.own found) mem⟩
      · obtain ⟨id', w', found, conversation, killed⟩ := blamed i job mem
        exact ⟨id', w', (Change.turn id w entry written deed turn).closed_stays found
          (Traffic.isOpen_of_isKilled killed), conversation, killed⟩

end Dispatcher

namespace Traffic

variable {t : Traffic Work}

/-- The messages that were put into mailboxes are those of the callers who are served. -/
structure Ticketed (t : Traffic Work) : Prop where
  served (job : Job) :
    job ∈ t.dispatcher.admissions ↔ t.callers[job.ticket]? = some ⟨job.message, .served⟩
  once : t.dispatcher.admissions.Nodup

theorem ticketed_start : Ticketed (start : Traffic Work) where
  served job := by simp [start, Dispatcher.admissions, Dispatcher.empty]
  once := List.nodup_nil

/-- A caller who has no place in the list, or is not served, may change while nothing is entered. -/
theorem Ticketed.callers (h : Ticketed t) {t' : Traffic Work}
    (same : t'.dispatcher.admissions = t.dispatcher.admissions)
    (callers : ∀ (ticket : Nat) (message : Message),
      t'.callers[ticket]? = some ⟨message, .served⟩ ↔
        t.callers[ticket]? = some ⟨message, .served⟩) : Ticketed t' where
  served job := by rw [same, h.served, callers]
  once := same ▸ h.once

/-- A caller who was not served may go on to another stage before it is. -/
theorem served_set {callers : List Caller} {ticket : Nat} {before after : Caller}
    (found : callers[ticket]? = some before) (unserved : before.stage ≠ .served)
    (unserved' : after.stage ≠ .served) (i : Nat) (message : Message) :
    (callers.set ticket after)[i]? = some ⟨message, .served⟩ ↔
      callers[i]? = some ⟨message, .served⟩ := by
  rw [getElem?_set_of_some found]
  split
  · rename_i this_one
    subst this_one
    rw [found]
    constructor
    · intro served
      cases served
      exact absurd rfl unserved'
    · intro served
      cases served
      exact absurd rfl unserved
  · rfl

theorem Ticketed.send (h : Ticketed t) (now ticket : Nat) : Ticketed (t.send now ticket) := by
  rcases send_cases t now ticket with same | ⟨message, d, seeking, placed, after⟩ |
    ⟨message, id, seeking, closed, after⟩
  · rw [same]
    exact h
  · have entered := Dispatcher.admissions_place placed
    have fresh : (⟨ticket, message⟩ : Job) ∉ t.dispatcher.admissions := fun mem => by
      have served := (h.served _).mp mem
      rw [seeking] at served
      cases served
    rw [after]
    refine ⟨fun job => ?_, ?_⟩
    · rw [entered, List.mem_cons, h.served, getElem?_set_of_some seeking]
      split
      · rename_i this_one
        rw [this_one, seeking]
        constructor
        · rintro (rfl | served)
          · rfl
          · cases served
        · intro served
          cases served
          exact .inl (by rw [← this_one])
      · rename_i other
        constructor
        · rintro (rfl | served)
          · exact absurd rfl other
          · exact served
        · exact .inr
    · rw [entered]
      exact List.nodup_cons.mpr ⟨fresh, h.once⟩
  · rw [after]
    exact h.callers rfl (served_set seeking (fun e => by cases e) fun e => by cases e)

theorem Ticketed.discard (h : Ticketed t) (ticket : Nat) : Ticketed (t.discard ticket) := by
  rcases discard_cases t ticket with same | ⟨message, id, refused, after⟩
  · rw [same]
    exact h
  · rw [after]
    exact h.callers (Dispatcher.admissions_discard _ _)
      (served_set refused (fun e => by cases e) fun e => by cases e)

theorem Ticketed.step (h : Ticketed t) (e : Event Work) : Ticketed (t.step e) := by
  cases e with
  | call message =>
      refine h.callers rfl fun ticket message' => ?_
      rw [show (t.step (.call message)).callers = t.callers ++ [⟨message, .seeking⟩] from rfl,
        getElem?_concat]
      split
      · rename_i last
        rw [last, List.getElem?_eq_none (Nat.le_refl _)]
        constructor <;> intro served <;> cases served
      · rfl
  | send now ticket => exact h.send now ticket
  | discard ticket => exact h.discard ticket
  | start id begin =>
      simp only [Traffic.step]
      split
      · rename_i started
        exact h.callers (Dispatcher.admissions_start started) fun _ _ => Iff.rfl
      · exact h
  | progress id work => exact h.callers (Dispatcher.admissions_progress work) fun _ _ => Iff.rfl
  | finish now id outcome =>
      exact h.callers (Dispatcher.admissions_finish now outcome) fun _ _ => Iff.rfl
  | kill id => exact h.callers Dispatcher.admissions_kill fun _ _ => Iff.rfl
  | retire id => exact h.callers Dispatcher.admissions_retire fun _ _ => Iff.rfl

theorem ticketed_run (events : List (Event Work)) : Ticketed (run events) := by
  induction events using List.reverseRecOn with
  | nil => exact ticketed_start
  | append_singleton events e ih =>
      rw [run_concat]
      exact ih.step e

/-- A message is entered as accepted exactly if its caller has put it into a mailbox. -/
theorem accepted_iff_served (events : List (Event Work)) (c : Conversation) (job : Job) :
    job ∈ (run events).dispatcher.accepted c ↔
      (run events).callers[job.ticket]? = some ⟨job.message, .served⟩ ∧
        job.message.conversation = c := by
  rw [Dispatcher.mem_accepted, (ticketed_run events).served]

/-- No message is entered as accepted twice. -/
theorem accepted_nodup (events : List (Event Work)) (c : Conversation) :
    ((run events).dispatcher.accepted c).Nodup := by
  have once := (ticketed_run events).once
  rw [Dispatcher.accepted, Entry.told, List.filterMap_reverse]
  exact (List.nodup_reverse.mpr once).filter _

/-- A message is entered as lost only if a worker of its conversation was killed. -/
theorem killed_of_lost (events : List (Event Work)) {i : Nat} {job : Job}
    (mem : .lost i job ∈ (run events).dispatcher.journal) :
    ∃ id w, (run events).dispatcher.worker? id = some w ∧
      w.conversation = job.message.conversation ∧ w.phase.isKilled = true := by
  have blamed : Dispatcher.Blamed (run events).dispatcher := by
    clear mem
    induction events using List.reverseRecOn with
    | nil => exact fun _ _ mem => by cases mem
    | append_singleton events e ih =>
        rw [run_concat]
        exact ((sound_run events).change_step e).blamed (sound_run events).consistent ih
  exact blamed i job mem

end Traffic

end Registrar
