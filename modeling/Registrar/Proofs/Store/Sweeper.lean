import Registrar.Proofs.Store.Retention
import Mathlib.Data.Nat.Basic

/-!
When the sweeper of a store in memory evicts what is left alone.

A sweeper is due for the first time one interval after the store was opened, and from then on at every
interval, however late it is each time; an interval that it missed it makes up for by waking once more.
`Tended` is a store with its clock and its sweeper. Calls, sweeps by hand, the passing of time and the
waking of the sweeper follow one another in any order.

A record that was touched at a time `a` is left in place until twice the interval later, and is gone
after three times the interval, unless a sweep that is due has not been made: the last time at which the
sweeper was due is less than one interval ago, so more than twice the interval after `a`, and no
sweeper wakes before it is due.

* `Tended.expiring_step`, `Tended.expiring_run`: what is known of a record while it is left alone.
* `Memory.elapse_succ`: what a sweeper that is never late does in one more millisecond.
* `eviction_window`: the window for states and for scratch maps.
-/

namespace Registrar

/-! ### Records and the calls that concern them -/

/-- A place for one record of a store: what the store holds there, which calls may change it, and which
of these renew the time at which it was last touched. -/
structure Place (α : Type) where
  view : Memory → Option (Stamped α)
  concerns : StoreCall → Bool
  refreshes : StoreCall → Bool
  view_aside (now : Nat) (m : Memory) (call : StoreCall) : concerns call = false →
    view (m.perform now call).2 = view m
  touched_of_refreshes (now : Nat) (m : Memory) (call : StoreCall) (slot : Stamped α) :
    refreshes call = true → view (m.perform now call).2 = some slot → slot.touched = now
  view_keepFresh (now maxAge : Nat) (m : Memory) :
    view (m.keepFresh now maxAge) = (view m).filter fun slot => now - slot.touched ≤ maxAge

namespace Place

def state (c : Conversation) : Place State where
  view m := m.states.get? c
  concerns call := Memory.Act.onState c (.call call)
  refreshes
    | .get c' | .set c' _ => c' = c
    | _ => false
  view_aside now m call other := by
    rw [Memory.states_perform]
    cases call with
    | get | set | delete => exact if_neg (of_decide_eq_false other)
    | getData | setData | clearData => exact ite_self _
  touched_of_refreshes now m call slot refreshes found := by
    rw [Memory.states_perform] at found
    cases call with
    | get c' =>
        obtain rfl : c' = c := of_decide_eq_true refreshes
        obtain ⟨_, _, rfl⟩ := Option.map_eq_some_iff.mp ((if_pos rfl).symm.trans found)
        rfl
    | set c' state =>
        obtain rfl : c' = c := of_decide_eq_true refreshes
        cases (if_pos rfl).symm.trans found
        rfl
    | delete | getData | setData | clearData => cases refreshes
  view_keepFresh now maxAge m := Memory.states_keepFresh now maxAge m c

def scratch (c : Conversation) : Place (Table String String) where
  view m := m.scratch.get? c
  concerns call := Memory.Act.onScratch c (.call call)
  refreshes
    | .getData c' _ | .setData c' _ _ => c' = c
    | _ => false
  view_aside now m call other := by
    rw [Memory.scratch_perform]
    cases call with
    | getData | setData | clearData => exact if_neg (of_decide_eq_false other)
    | get | set | delete => exact ite_self _
  touched_of_refreshes now m call slot refreshes found := by
    rw [Memory.scratch_perform] at found
    cases call with
    | getData c' field =>
        obtain rfl : c' = c := of_decide_eq_true refreshes
        obtain ⟨_, _, rfl⟩ := Option.map_eq_some_iff.mp ((if_pos rfl).symm.trans found)
        rfl
    | setData c' field value =>
        obtain rfl : c' = c := of_decide_eq_true refreshes
        cases (if_pos rfl).symm.trans found
        rfl
    | clearData | get | set | delete => cases refreshes
  view_keepFresh now maxAge m := Memory.scratch_keepFresh now maxAge m c

end Place

/-! ### The sweeper -/

/-- A store in memory, the time, and the time at which its sweeper is due next, if it has one. -/
structure Tended where
  now : Nat
  due : Option Nat
  memory : Memory

namespace Tended

/-- Something that happens to a store or its sweeper. -/
inductive Happening where
  /-- A call, or a sweep by hand. -/
  | act (act : Memory.Act)
  /-- Milliseconds pass. -/
  | pass (milliseconds : Nat)
  /-- The sweeper wakes, and sweeps if it is due. -/
  | wake

def Happening.isWake : Happening → Bool
  | wake => true
  | _ => false

/-- A store that is opened at a time. It gets a sweeper if there is an interval and a runtime. -/
def create (interval origin : Nat) (runtime : Bool) : Tended :=
  ⟨origin, if interval ≠ 0 ∧ runtime = true then some (origin + interval) else none, .empty⟩

def step (interval : Nat) (s : Tended) : Happening → Tended
  | .act act => { s with memory := s.memory.step interval (s.now, act) }
  | .pass milliseconds => { s with now := s.now + milliseconds }
  | .wake =>
    match s.due with
    | some due =>
      if due ≤ s.now then ⟨s.now, some (due + interval), (s.memory.sweep interval s.now).2⟩ else s
    | none => s

def run (interval origin : Nat) (runtime : Bool) (happenings : List Happening) : Tended :=
  happenings.foldl (step interval) (create interval origin runtime)

/-- No sweep that is due has still to be made. -/
def UpToDate (s : Tended) : Prop := ∀ due, s.due = some due → s.now < due

variable {α : Type} {interval origin : Nat} {runtime : Bool} {s : Tended}

theorem run_append (before later : List Happening) :
    run interval origin runtime (before ++ later) =
      later.foldl (step interval) (run interval origin runtime before) :=
  List.foldl_append

/-! ### The window of one record -/

/-- What has become of a record that was last touched at a time and left alone since: it is there, or
it is gone and more than twice the interval has passed. -/
def Fate (place : Place α) (interval : Nat) (slot : Stamped α) (m : Memory) (now : Nat) : Prop :=
  place.view m = some slot ∨ place.view m = none ∧ slot.touched + 2 * interval < now

/-- A sweep leaves the record where it is until twice the interval has passed. -/
theorem fate_sweep {place : Place α} {slot : Stamped α} {m : Memory} {now : Nat}
    (fate : Fate place interval slot m now) :
    let m' := (m.sweep interval now).2
    (place.view m = some slot ∧ place.view m' = some slot ∧ now ≤ slot.touched + 2 * interval) ∨
      (place.view m' = none ∧ slot.touched + 2 * interval < now) := by
  intro m'
  have swept : place.view m' = (place.view m).filter _ := place.view_keepFresh now (2 * interval) m
  rcases fate with there | ⟨gone, late⟩
  · rw [swept, there]
    by_cases fresh : now - slot.touched ≤ 2 * interval
    · exact .inl ⟨rfl, by simp [Option.filter, fresh], by omega⟩
    · exact .inr ⟨by simp [Option.filter, fresh], by omega⟩
  · rw [swept, gone]
    exact .inr ⟨rfl, late⟩

/-- What is known of a record while it is left alone: its fate, and that as long as it is there, the
sweeper will be due before three times the interval have passed. -/
structure Expiring (place : Place α) (interval : Nat) (slot : Stamped α) (s : Tended) : Prop where
  fate : Fate place interval slot s.memory s.now
  due : ∃ due, s.due = some due ∧
    (place.view s.memory = some slot → due ≤ slot.touched + 3 * interval)

theorem expiring_step {place : Place α} {slot : Stamped α} (h : Expiring place interval slot s)
    {e : Happening} (alone : ∀ call, e = .act (.call call) → place.concerns call = false) :
    Expiring place interval slot (s.step interval e) := by
  obtain ⟨fate, due, next, soon⟩ := h
  cases e with
  | act act =>
      cases act with
      | call call =>
          have same := place.view_aside s.now s.memory call (alone call rfl)
          have fate' : Fate place interval slot (s.memory.perform s.now call).2 s.now := by
            rw [Fate, same]
            exact fate
          refine ⟨fate', due, next, fun there => ?_⟩
          exact soon (same.symm.trans there)
      | sweep =>
          rcases fate_sweep fate with ⟨there, kept, _⟩ | ⟨gone, late⟩
          · exact ⟨.inl kept, due, next, fun _ => soon there⟩
          · refine ⟨.inr ⟨gone, late⟩, due, next, fun there => ?_⟩
            cases gone.symm.trans there
  | pass milliseconds =>
      refine ⟨?_, due, next, soon⟩
      rcases fate with there | ⟨gone, late⟩
      · exact .inl there
      · exact .inr ⟨gone, Nat.lt_add_right milliseconds late⟩
  | wake =>
      rw [step, next]
      simp only
      split
      · rename_i overdue
        rcases fate_sweep fate with ⟨there, kept, early⟩ | ⟨gone, late⟩
        · -- The sweeper was due before now, when twice the interval had not passed yet.
          exact ⟨.inl kept, due + interval, rfl, fun _ => by omega⟩
        · refine ⟨.inr ⟨gone, late⟩, due + interval, rfl, fun there => ?_⟩
          cases gone.symm.trans there
      · exact ⟨fate, due, next, soon⟩

theorem expiring_run {place : Place α} {slot : Stamped α} (h : Expiring place interval slot s)
    {later : List Happening}
    (alone : ∀ call, .act (.call call) ∈ later → place.concerns call = false) :
    Expiring place interval slot (later.foldl (step interval) s) := by
  induction later generalizing s with
  | nil => exact h
  | cons e later ih =>
      refine ih (expiring_step h fun call same => alone call ?_) fun call mem => alone call ?_
      · rw [same]
        exact List.mem_cons_self
      · exact List.mem_cons_of_mem _ mem

/-- The sweeper of a store is never due later than one interval from now. -/
theorem due_run (origin : Nat) (positive : 0 < interval) (happenings : List Happening) :
    ∃ due, (run interval origin true happenings).due = some due ∧
      due ≤ (run interval origin true happenings).now + interval := by
  induction happenings using List.reverseRecOn with
  | nil => exact ⟨origin + interval, by simp [run, create, Nat.pos_iff_ne_zero.mp positive], Nat.le_refl _⟩
  | append_singleton happenings e ih =>
      obtain ⟨due, next, soon⟩ := ih
      rw [run_append, List.foldl_cons, List.foldl_nil]
      cases e with
      | act act => exact ⟨due, next, soon⟩
      | pass milliseconds => exact ⟨due, next, by simp only [step]; omega⟩
      | wake =>
          rw [step, next]
          simp only
          split
          · rename_i overdue
            exact ⟨due + interval, rfl, by simp only; omega⟩
          · exact ⟨due, next, soon⟩

/-- A record is touched now if it is there, and left alone until some time later: it is there up to
twice the interval from now; it is gone from three times the interval on, unless a sweep that is due
has still to be made. -/
def Window (interval : Nat) (view : Memory → Option (Stamped α)) (s s' : Tended) : Prop :=
  ∀ slot, view s.memory = some slot → slot.touched = s.now ∧
    (s'.now ≤ s.now + 2 * interval → view s'.memory = some slot) ∧
    (s.now + 3 * interval ≤ s'.now → s'.UpToDate → view s'.memory = none)

/-- The window of a record that a call has renewed. -/
theorem window_of_refresh (place : Place α) (positive : 0 < interval) (before later : List Happening)
    {call : StoreCall} (refreshes : place.refreshes call = true)
    (alone : ∀ call, .act (.call call) ∈ later → place.concerns call = false) :
    Window interval place.view (run interval origin true (before ++ [.act (.call call)]))
      (run interval origin true (before ++ .act (.call call) :: later)) := by
  intro slot found
  have split : run interval origin true (before ++ .act (.call call) :: later) =
      later.foldl (step interval) (run interval origin true (before ++ [.act (.call call)])) := by
    rw [← run_append, List.append_assoc, List.singleton_append]
  rw [split]
  obtain ⟨due, next, soon⟩ := due_run origin positive (before ++ [.act (.call call)])
  have touched : slot.touched = (run interval origin true (before ++ [.act (.call call)])).now := by
    rw [run_append] at found ⊢
    exact place.touched_of_refreshes _ _ call slot refreshes found
  generalize run interval origin true (before ++ [.act (.call call)]) = s at found next soon touched ⊢
  have expiring : Expiring place interval slot (later.foldl (step interval) s) :=
    expiring_run ⟨.inl found, due, next, fun _ => by omega⟩ alone
  generalize later.foldl (step interval) s = s' at expiring ⊢
  obtain ⟨fate, due', next', soon'⟩ := expiring
  refine ⟨touched, fun early => ?_, fun late upToDate => ?_⟩
  · rcases fate with there | ⟨_, late⟩
    · exact there
    · omega
  · rcases fate with there | ⟨gone, _⟩
    · have := soon' there
      have := upToDate due' next'
      omega
    · exact gone

/-! ### Without a sweeper -/

/-- Where no sweeper is, its waking changes nothing. -/
theorem foldl_without_wake (none : s.due = none) (happenings : List Happening) :
    (happenings.filter fun e => !e.isWake).foldl (step interval) s =
      happenings.foldl (step interval) s := by
  induction happenings generalizing s with
  | nil => rfl
  | cons e happenings ih =>
      cases e with
      | act act => exact ih none
      | pass milliseconds => exact ih none
      | wake =>
          have same : s.step interval .wake = s := by simp only [step, none]
          rw [List.foldl_cons, same]
          exact ih none

/-! ### A sweeper that is never late -/

/-- Milliseconds pass, and the sweeper wakes after each of them. -/
def ticking (milliseconds : Nat) : List Happening :=
  (List.replicate milliseconds [.pass 1, .wake]).flatten

/-- When a sweeper that is never late, and that began at the time zero, is due next. -/
def nextDue (interval now : Nat) : Option Nat :=
  if interval = 0 then none else some ((now / interval + 1) * interval)

end Tended

namespace Memory

/-- What a sweep leaves behind, a later one leaves behind of the whole store. -/
theorem keepFresh_keepFresh {now later : Nat} (le : now ≤ later) (maxAge : Nat) (m : Memory) :
    (m.keepFresh now maxAge).keepFresh later maxAge = m.keepFresh later maxAge := by
  have retain {α : Type} (t : Table Conversation (Stamped α)) :
      (t.retain fun _ slot => now - slot.touched ≤ maxAge).retain
          (fun _ slot => later - slot.touched ≤ maxAge) =
        t.retain fun _ slot => later - slot.touched ≤ maxAge := by
    refine Table.eq_of_entries ?_
    simp only [Table.retain, List.filter_filter]
    refine List.filter_congr fun e _ => ?_
    rw [← Bool.decide_and]
    exact decide_eq_decide.mpr ⟨fun both => both.1, fun fresh => ⟨fresh, by omega⟩⟩
  simp only [keepFresh, retain]

/-- In one more millisecond, a sweeper that is never late sweeps if it is due. -/
theorem elapse_succ {interval start stop : Nat} (positive : 0 < interval) (le : start ≤ stop)
    (m : Memory) :
    m.elapse interval start (stop + 1) =
      if interval ∣ stop + 1 then ((m.elapse interval start stop).sweep interval (stop + 1)).2
      else m.elapse interval start stop := by
  have nonzero : interval ≠ 0 := Nat.pos_iff_ne_zero.mp positive
  have grows : start / interval ≤ stop / interval := Nat.div_le_div_right le
  split
  · rename_i divides
    have next : (stop + 1) / interval = stop / interval + 1 := Nat.succ_div_of_dvd divides
    have now : (stop + 1) / interval * interval = stop + 1 := Nat.div_mul_cancel divides
    have swept : m.elapse interval start (stop + 1) = (m.sweep interval (stop + 1)).2 := by
      simp only [elapse, lastSweep, if_neg nonzero, now]
      rw [if_pos (by omega)]
    rw [swept, elapse, lastSweep, if_neg nonzero]
    split
    · rename_i time earlier
      split at earlier
      · cases earlier
        have le : stop / interval * interval ≤ stop + 1 :=
          Nat.le_succ_of_le (Nat.div_mul_le_self stop interval)
        exact (keepFresh_keepFresh le (2 * interval) m).symm
      · cases earlier
    · rfl
  · rename_i divides
    have same : (stop + 1) / interval = stop / interval := Nat.succ_div_of_not_dvd divides
    rw [elapse, elapse, lastSweep, lastSweep, same]

end Memory

namespace Tended

theorem ticking_succ (milliseconds : Nat) :
    ticking (milliseconds + 1) = ticking milliseconds ++ [.pass 1, .wake] := by
  rw [ticking, List.replicate_succ', List.flatten_append]
  rfl

/-- A sweeper that has not been late up to now is not late a millisecond later. -/
theorem step_tick (positive : 0 < interval) (now : Nat) (m : Memory) :
    (step interval (step interval ⟨now, nextDue interval now, m⟩ (.pass 1)) .wake) =
      ⟨now + 1, nextDue interval (now + 1),
        if interval ∣ now + 1 then (m.sweep interval (now + 1)).2 else m⟩ := by
  have nonzero : interval ≠ 0 := Nat.pos_iff_ne_zero.mp positive
  simp only [step, nextDue, if_neg nonzero]
  by_cases divides : interval ∣ now + 1
  · have next : (now + 1) / interval = now / interval + 1 := Nat.succ_div_of_dvd divides
    have due : (now / interval + 1) * interval = now + 1 := by
      rw [← next, Nat.div_mul_cancel divides]
    have later : (now / interval + 1 + 1) * interval = now + 1 + interval := by
      rw [Nat.succ_mul, due]
    rw [if_pos divides, next, later, due, if_pos (Nat.le_refl _)]
  · have same : (now + 1) / interval = now / interval := Nat.succ_div_of_not_dvd divides
    have early := Nat.lt_mul_div_succ (now + 1) positive
    rw [same, Nat.mul_comm] at early
    rw [if_neg divides, same, if_neg (by omega)]

/-- What the store at work computes at once is what a sweeper does that is never late. -/
theorem foldl_ticking (interval start milliseconds : Nat) (m : Memory) :
    (ticking milliseconds).foldl (step interval) ⟨start, nextDue interval start, m⟩ =
      ⟨start + milliseconds, nextDue interval (start + milliseconds),
        m.elapse interval start (start + milliseconds)⟩ := by
  by_cases never : interval = 0
  · subst never
    induction milliseconds with
    | zero => rfl
    | succ milliseconds ih =>
        rw [ticking_succ, List.foldl_append, ih]
        rfl
  · have positive : 0 < interval := Nat.pos_iff_ne_zero.mpr never
    induction milliseconds with
    | zero =>
        have still : m.elapse interval start start = m := by simp [Memory.elapse, Memory.lastSweep]
        rw [Nat.add_zero, still]
        rfl
    | succ milliseconds ih =>
        rw [ticking_succ, List.foldl_append, ih]
        refine (step_tick positive (start + milliseconds) _).trans ?_
        rw [← Memory.elapse_succ positive (Nat.le_add_right _ _), Nat.add_assoc]

end Tended

/-- A store in memory is swept in the background. A state that a call has read or written, and a
scratch map of which one has read or written a field, stays for twice the interval if it is left alone,
and is gone from three times the interval on once the sweeps that are due have been made, whatever else
is done to the store, however late the sweeper is, and whenever the store was opened. Without an
interval or a runtime, the waking of the sweeper does nothing. And the store at work, which makes up
for the time that has passed when it is called, does what a sweeper does that is never late. -/
theorem eviction_window (interval origin : Nat) :
    (0 < interval → ∀ before later call,
      let s := Tended.run interval origin true (before ++ [.act (.call call)])
      let s' := Tended.run interval origin true (before ++ .act (.call call) :: later)
      (∀ c, (call = .get c ∨ ∃ state, call = .set c state) →
        (∀ call', .act (.call call') ∈ later → Memory.Act.onState c (.call call') = false) →
        Tended.Window interval (·.states.get? c) s s') ∧
      ∀ c, ((∃ field, call = .getData c field) ∨ ∃ field value, call = .setData c field value) →
        (∀ call', .act (.call call') ∈ later → Memory.Act.onScratch c (.call call') = false) →
        Tended.Window interval (·.scratch.get? c) s s') ∧
    (∀ runtime, interval = 0 ∨ runtime = false → ∀ happenings,
      Tended.run interval origin runtime (happenings.filter fun e => !e.isWake) =
        Tended.run interval origin runtime happenings) ∧
    ∀ start milliseconds m,
      ((Tended.ticking milliseconds).foldl (Tended.step interval)
        ⟨start, Tended.nextDue interval start, m⟩).memory =
          m.elapse interval start (start + milliseconds) := by
  refine ⟨?_, ?_, ?_⟩
  · intro positive before later call
    constructor
    · intro c refreshes alone
      refine Tended.window_of_refresh (.state c) positive before later ?_ alone
      rcases refreshes with rfl | ⟨state, rfl⟩ <;> simp [Place.state]
    · intro c refreshes alone
      refine Tended.window_of_refresh (.scratch c) positive before later ?_ alone
      rcases refreshes with ⟨field, rfl⟩ | ⟨field, value, rfl⟩ <;> simp [Place.scratch]
  · intro runtime missing happenings
    refine Tended.foldl_without_wake ?_ happenings
    rcases missing with rfl | rfl <;> simp [Tended.create]
  · intro start milliseconds m
    rw [Tended.foldl_ticking]

/-- Touched at 5, a state is there at 25 although the sweeper has just caught up, and is gone at 35 when
it has caught up again; without an interval it would be there. -/
theorem eviction_window_caught_up :
    let c : Conversation := ⟨-1, 7⟩
    let set : Tended.Happening := .act (.call (.set c ⟨"awaiting"⟩))
    let s (later : List Tended.Happening) := Tended.run 10 3 true ([.pass 2] ++ set :: later)
    (s [.pass 20, .wake, .wake]).memory.states.get? c = some ⟨⟨"awaiting"⟩, 5⟩ ∧
      (s [.pass 30, .wake, .wake, .wake]).memory.states.get? c = none ∧
      Tended.run 0 3 true [set, .pass 30] = Tended.run 0 3 true [set, .pass 30, .wake] := by
  intro c set s
  have window (later : List Tended.Happening)
      (alone : ∀ call, .act (.call call) ∉ later) :=
    ((eviction_window 10 3).1 (by decide) [.pass 2] later (.set c ⟨"awaiting"⟩)).1 c
      (.inr ⟨_, rfl⟩) fun call mem => absurd mem (alone call)
  refine ⟨?_, ?_, ?_⟩
  · exact (window [.pass 20, .wake, .wake] (by simp) ⟨⟨"awaiting"⟩, 5⟩ rfl).2.1 (by decide)
  · refine (window [.pass 30, .wake, .wake, .wake] (by simp) ⟨⟨"awaiting"⟩, 5⟩ rfl).2.2 (by decide) ?_
    intro due next
    cases next
    decide
  · exact (eviction_window 0 3).2.1 true (.inl rfl) [set, .pass 30, .wake]

end Registrar
