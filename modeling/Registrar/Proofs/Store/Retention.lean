import Registrar.Proofs.Store.Record
import Mathlib.Data.List.Induction

/-!
How long a store in memory holds what was put into it.

A history is a list of acts on an empty store, calls and sweeps, each at its time. What a history
left behind is read off it without running it: a value is `Held` if it was written, nothing has
written over it or removed it since, and no sweep came later than twice the sweep interval after the
last time before it at which the record was touched. The rule is the same for a state and for a
scratch field; they differ in the acts that write, end and touch them (`Upkeep`).

* `state_history`, `field_history`: the records of the store are those that the history holds.
* `sweep_count`: a sweep tells how many records it removed.
* `get_of_held`, `getData_of_held`: what is read, by what the history holds.
-/

namespace Registrar.Memory

/-! ### Records with their stamps -/

def stateAfter (now : Nat) (slot : Option (Stamped State)) : StoreCall → Option (Stamped State)
  | .get _ => slot.map fun r => ⟨r.value, now⟩
  | .set _ state => some ⟨state, now⟩
  | .delete _ => none
  | _ => slot

def scratchAfter (now : Nat) (slot : Option (Stamped (Table String String))) :
    StoreCall → Option (Stamped (Table String String))
  | .getData _ _ => slot.map fun r => ⟨r.value, now⟩
  | .setData _ field value =>
    some ⟨((slot.map Stamped.value).getD .empty).insert field value.print, now⟩
  | .clearData _ => none
  | _ => slot

/-- A call touches the state record of its conversation only. -/
theorem states_perform (now : Nat) (m : Memory) (call : StoreCall) (c : Conversation) :
    (m.perform now call).2.states.get? c =
      if call.conversation = c then stateAfter now (m.states.get? c) call
      else m.states.get? c := by
  cases call with
  | get c' =>
      by_cases own : c = c'
      · subst own
        cases found : m.states.get? c <;> simp [perform, stateAfter, StoreCall.conversation, found]
      · have other : ¬ c' = c := fun same => own same.symm
        cases found : m.states.get? c' <;>
          simp [perform, StoreCall.conversation, found, own, other]
  | set c' state | delete c' =>
      by_cases own : c = c'
      · simp [perform, stateAfter, StoreCall.conversation, own]
      · have other : ¬ c' = c := fun same => own same.symm
        simp [perform, StoreCall.conversation, own, other]
  | getData c' field =>
      rw [perform_getData]
      cases m.scratch.get? c' <;> simp [stateAfter]
  | setData | clearData => simp [perform, stateAfter]

/-- A call touches the scratch map of its conversation only. -/
theorem scratch_perform (now : Nat) (m : Memory) (call : StoreCall) (c : Conversation) :
    (m.perform now call).2.scratch.get? c =
      if call.conversation = c then scratchAfter now (m.scratch.get? c) call
      else m.scratch.get? c := by
  cases call with
  | getData c' field =>
      rw [perform_getData]
      by_cases own : c = c'
      · subst own
        cases found : m.scratch.get? c <;> simp [scratchAfter, StoreCall.conversation, found]
      · have other : ¬ c' = c := fun same => own same.symm
        cases m.scratch.get? c' <;> simp [StoreCall.conversation, own, other]
  | setData c' field value =>
      by_cases own : c = c'
      · subst own
        cases found : m.scratch.get? c <;>
          simp [perform, scratchAfter, StoreCall.conversation, found]
      · have other : ¬ c' = c := fun same => own same.symm
        simp [perform, StoreCall.conversation, own, other]
  | clearData c' =>
      by_cases own : c = c'
      · simp [perform, scratchAfter, StoreCall.conversation, own]
      · have other : ¬ c' = c := fun same => own same.symm
        simp [perform, StoreCall.conversation, own, other]
  | get c' =>
      cases found : m.states.get? c' <;> simp [perform, scratchAfter, found]
  | set | delete => simp [perform, scratchAfter]

/-! ### Histories -/

/-- Something that is done to a store. -/
inductive Act where
  | call (call : StoreCall)
  | sweep

/-- The store after one act at a time. -/
def step (interval : Nat) (m : Memory) (e : Nat × Act) : Memory :=
  match e.2 with
  | .call call => (m.perform e.1 call).2
  | .sweep => (m.sweep interval e.1).2

def after (interval : Nat) (history : List (Nat × Act)) : Memory :=
  history.foldl (step interval) .empty

theorem after_concat (interval : Nat) (history : List (Nat × Act)) (e : Nat × Act) :
    after interval (history ++ [e]) = step interval (after interval history) e :=
  List.foldl_append

/-- What the acts of a history do to a value of some kind: which of them write one, which end the life
of whatever was written before, and which touch the record that holds it. -/
structure Upkeep (α : Type) where
  writes : Act → Option α
  ends : Act → Bool
  touches : Act → Bool
  /-- A sweep does none of this. -/
  sweep_idle : writes .sweep = none ∧ ends .sweep = false ∧ touches .sweep = false

namespace Upkeep

variable {α : Type}

/-- The last time at which a record was touched, if it was at `start` and these acts followed. -/
def lastTouch (u : Upkeep α) (start : Nat) (since : List (Nat × Act)) : Nat :=
  since.foldl (fun t e => if u.touches e.2 then e.1 else t) start

/-- No sweep came later than twice the interval after the last touch before it. -/
def Survives (u : Upkeep α) (interval start : Nat) (since : List (Nat × Act)) : Prop :=
  ∀ pre time post, since = pre ++ (time, .sweep) :: post →
    time ≤ u.lastTouch start pre + 2 * interval

/-- The value was written last, nothing has ended it since, and its record survived every sweep. The
record was last touched at this time. -/
def HeldSince (u : Upkeep α) (interval : Nat) (history : List (Nat × Act)) (a : α) (touched : Nat) :
    Prop :=
  ∃ before start act since, history = before ++ (start, act) :: since ∧ u.writes act = some a ∧
    (∀ e ∈ since, u.ends e.2 = false) ∧ u.Survives interval start since ∧
    touched = u.lastTouch start since

/-- The value was written last, nothing has ended it since, and its record survived every sweep. -/
def Held (u : Upkeep α) (interval : Nat) (history : List (Nat × Act)) (a : α) : Prop :=
  ∃ touched, u.HeldSince interval history a touched

variable {u : Upkeep α} {interval : Nat} {history since : List (Nat × Act)} {a : α} {touched : Nat}

theorem not_heldSince_nil : ¬ u.HeldSince interval [] a touched := by
  rintro ⟨before, start, act, since, split, _⟩
  exact List.append_ne_nil_of_right_ne_nil _ (List.cons_ne_nil _ _) split.symm

theorem lastTouch_concat (start : Nat) (e : Nat × Act) :
    u.lastTouch start (since ++ [e]) = if u.touches e.2 then e.1 else u.lastTouch start since :=
  List.foldl_append

theorem survives_concat {start : Nat} {e : Nat × Act} :
    u.Survives interval start (since ++ [e]) ↔
      u.Survives interval start since ∧
        (e.2 = .sweep → e.1 ≤ u.lastTouch start since + 2 * interval) := by
  constructor
  · intro survives
    refine ⟨fun pre time post split => ?_, fun swept => ?_⟩
    · exact survives pre time (post ++ [e]) (by rw [split]; simp)
    · exact survives since e.1 [] (by rw [← swept])
  · rintro ⟨survives, last⟩ pre time post split
    cases post using List.reverseRecOn with
    | nil =>
        obtain ⟨rfl, same⟩ := List.append_inj' split rfl
        cases same
        exact last rfl
    | append_singleton post e' =>
        rw [← List.cons_append, ← List.append_assoc] at split
        exact survives pre time post (List.append_inj' split rfl).1

/-- What is held after one more act. -/
theorem heldSince_concat {e : Nat × Act} :
    u.HeldSince interval (history ++ [e]) a touched ↔
      (u.writes e.2 = some a ∧ touched = e.1) ∨
      (u.ends e.2 = false ∧ ∃ touched', u.HeldSince interval history a touched' ∧
        (e.2 = .sweep → e.1 ≤ touched' + 2 * interval) ∧
        touched = if u.touches e.2 then e.1 else touched') := by
  constructor
  · rintro ⟨before, start, act, since, split, written, lasts, survives, rfl⟩
    cases since using List.reverseRecOn with
    | nil =>
        obtain ⟨_, same⟩ := List.append_inj' split rfl
        cases same
        exact .inl ⟨written, rfl⟩
    | append_singleton since e' =>
        rw [← List.cons_append, ← List.append_assoc] at split
        obtain ⟨shorter, same⟩ := List.append_inj' split rfl
        cases same
        obtain ⟨survives, last⟩ := survives_concat.mp survives
        refine .inr ⟨lasts e (List.mem_append_right _ List.mem_cons_self), u.lastTouch start since,
          ⟨before, start, act, since, shorter, written,
            fun e' mem => lasts e' (List.mem_append_left _ mem), survives, rfl⟩, last, ?_⟩
        exact lastTouch_concat start e
  · rintro (⟨written, rfl⟩ | ⟨goesOn, touched', held, last, rfl⟩)
    · refine ⟨history, e.1, e.2, [], rfl, written, by simp, fun pre time post split => ?_, rfl⟩
      exact absurd split.symm (List.append_ne_nil_of_right_ne_nil _ (List.cons_ne_nil _ _))
    · obtain ⟨before, start, act, since, rfl, written, lasts, survives, rfl⟩ := held
      refine ⟨before, start, act, since ++ [e], by simp, written, fun e' mem => ?_,
        survives_concat.mpr ⟨survives, last⟩, (lastTouch_concat start e).symm⟩
      rcases List.mem_append.mp mem with earlier | this_one
      · exact lasts e' earlier
      · rw [List.mem_singleton.mp this_one]
        exact goesOn

/-- A sweep ends nothing but what was left untouched for too long. -/
theorem heldSince_sweep {time : Nat} :
    u.HeldSince interval (history ++ [(time, .sweep)]) a touched ↔
      u.HeldSince interval history a touched ∧ time ≤ touched + 2 * interval := by
  obtain ⟨noWrite, noEnd, noTouch⟩ := u.sweep_idle
  rw [heldSince_concat]
  constructor
  · rintro (⟨written, _⟩ | ⟨_, touched', held, bound, same⟩)
    · rw [noWrite] at written
      cases written
    · rw [noTouch, if_neg Bool.false_ne_true] at same
      rw [same]
      exact ⟨held, bound rfl⟩
  · rintro ⟨held, bound⟩
    refine .inr ⟨noEnd, touched, held, fun _ => bound, ?_⟩
    rw [noTouch, if_neg Bool.false_ne_true]

variable {now : Nat} {call : StoreCall}

/-- A call that neither writes, ends nor touches leaves what is held. -/
theorem heldSince_aside (noWrite : u.writes (.call call) = none)
    (noEnd : u.ends (.call call) = false) (noTouch : u.touches (.call call) = false) :
    u.HeldSince interval (history ++ [(now, .call call)]) a touched ↔
      u.HeldSince interval history a touched := by
  simp [heldSince_concat, noWrite, noEnd, noTouch]

/-- A call that touches what is held renews its time. -/
theorem heldSince_touch (noWrite : u.writes (.call call) = none)
    (noEnd : u.ends (.call call) = false) (touches : u.touches (.call call) = true) :
    u.HeldSince interval (history ++ [(now, .call call)]) a touched ↔
      u.Held interval history a ∧ touched = now := by
  simp [heldSince_concat, noWrite, noEnd, touches, Held]

/-- A call that writes ends what was held before. -/
theorem heldSince_write {a' : α} (written : u.writes (.call call) = some a')
    (ends : u.ends (.call call) = true) :
    u.HeldSince interval (history ++ [(now, .call call)]) a touched ↔ a' = a ∧ touched = now := by
  simp [heldSince_concat, written, ends]

/-- A call that ends what is held without writing leaves nothing. -/
theorem not_heldSince_end (noWrite : u.writes (.call call) = none)
    (ends : u.ends (.call call) = true) :
    ¬ u.HeldSince interval (history ++ [(now, .call call)]) a touched := by
  simp [heldSince_concat, noWrite, ends]

end Upkeep

/-- The state of a conversation: replacing it writes it, removing it ends it, and reading it touches
its record. -/
def stateOf (c : Conversation) : Upkeep State where
  writes
    | .call (.set c' state) => if c' = c then some state else none
    | _ => none
  ends
    | .call (.set c' _) => c' = c
    | .call (.delete c') => c' = c
    | _ => false
  touches
    | .call (.set c' _) => c' = c
    | .call (.get c') => c' = c
    | _ => false
  sweep_idle := ⟨rfl, rfl, rfl⟩

/-- A scratch field of a conversation: clearing the scratch map ends it with all others, and reading
or writing any field touches the map. -/
def fieldOf (c : Conversation) (field : String) : Upkeep Json where
  writes
    | .call (.setData c' field' value) => if c' = c ∧ field' = field then some value else none
    | _ => none
  ends
    | .call (.setData c' field' _) => c' = c ∧ field' = field
    | .call (.clearData c') => c' = c
    | _ => false
  touches
    | .call (.setData c' _ _) => c' = c
    | .call (.getData c' _) => c' = c
    | _ => false
  sweep_idle := ⟨rfl, rfl, rfl⟩

/-- The calls of other conversations do nothing to a scratch field. -/
theorem fieldOf_other {c : Conversation} {field : String} {call : StoreCall}
    (other : call.conversation ≠ c) :
    (fieldOf c field).writes (.call call) = none ∧ (fieldOf c field).ends (.call call) = false ∧
      (fieldOf c field).touches (.call call) = false := by
  cases call <;> simp_all [fieldOf, StoreCall.conversation]

/-! ### The records of the store are those of its history -/

theorem states_keepFresh (now maxAge : Nat) (m : Memory) (c : Conversation) :
    (m.keepFresh now maxAge).states.get? c =
      (m.states.get? c).filter fun slot => now - slot.touched ≤ maxAge :=
  Table.get?_retain _ _ _

theorem scratch_keepFresh (now maxAge : Nat) (m : Memory) (c : Conversation) :
    (m.keepFresh now maxAge).scratch.get? c =
      (m.scratch.get? c).filter fun slot => now - slot.touched ≤ maxAge :=
  Table.get?_retain _ _ _

variable {interval : Nat} {history : List (Nat × Act)} {c : Conversation}

/-- A scratch field of a conversation holds a text, and the map was touched last at this time. -/
abbrev HasText (m : Memory) (c : Conversation) (field text : String) (touched : Nat) : Prop :=
  ∃ fields, m.scratch.get? c = some ⟨fields, touched⟩ ∧ fields.get? field = some text

section HasText

variable {m : Memory} {now : Nat} {field field' text : String} {touched : Nat} {call : StoreCall}

theorem hasText_sweep : (m.sweep interval now).2.HasText c field text touched ↔
    m.HasText c field text touched ∧ now ≤ touched + 2 * interval := by
  simp only [HasText, sweep, scratch_keepFresh, Option.filter_eq_some_iff, decide_eq_true_eq]
  constructor
  · rintro ⟨fields, ⟨found, fresh⟩, here⟩
    exact ⟨⟨fields, found, here⟩, by omega⟩
  · rintro ⟨⟨fields, found, here⟩, bound⟩
    exact ⟨fields, ⟨found, by omega⟩, here⟩

/-- A call that leaves the scratch map leaves its texts. -/
theorem hasText_aside (aside : ∀ slot, scratchAfter now slot call = slot) :
    (m.perform now call).2.HasText c field text touched ↔ m.HasText c field text touched := by
  simp only [HasText, scratch_perform, aside, ite_self]

theorem hasText_other (other : call.conversation ≠ c) :
    (m.perform now call).2.HasText c field text touched ↔ m.HasText c field text touched := by
  simp only [HasText, scratch_perform, if_neg other]

theorem hasText_getData : (m.perform now (.getData c field')).2.HasText c field text touched ↔
    (∃ t, m.HasText c field text t) ∧ touched = now := by
  simp only [HasText, scratch_perform, StoreCall.conversation, if_true, scratchAfter,
    Option.map_eq_some_iff]
  constructor
  · rintro ⟨fields, ⟨slot, found, same⟩, here⟩
    cases same
    exact ⟨⟨slot.touched, slot.value, found, here⟩, rfl⟩
  · rintro ⟨⟨t, fields, found, here⟩, rfl⟩
    exact ⟨fields, ⟨⟨fields, t⟩, found, rfl⟩, here⟩

theorem hasText_setData {value : Json} :
    (m.perform now (.setData c field value)).2.HasText c field text touched ↔
      value.print = text ∧ touched = now := by
  simp only [HasText, scratch_perform, StoreCall.conversation, if_true, scratchAfter,
    Option.some.injEq, Stamped.mk.injEq]
  constructor
  · rintro ⟨fields, ⟨rfl, rfl⟩, here⟩
    rw [Table.get?_insert, if_pos rfl] at here
    exact ⟨Option.some.inj here, rfl⟩
  · rintro ⟨rfl, rfl⟩
    exact ⟨_, ⟨rfl, rfl⟩, by rw [Table.get?_insert, if_pos rfl]⟩

theorem hasText_setData_other {value : Json} (other : field' ≠ field) :
    (m.perform now (.setData c field' value)).2.HasText c field text touched ↔
      (∃ t, m.HasText c field text t) ∧ touched = now := by
  simp only [HasText, scratch_perform, StoreCall.conversation, if_true, scratchAfter,
    Option.some.injEq, Stamped.mk.injEq]
  constructor
  · rintro ⟨fields, ⟨rfl, rfl⟩, here⟩
    rw [Table.get?_insert, if_neg (Ne.symm other)] at here
    cases found : m.scratch.get? c with
    | none =>
        rw [found] at here
        cases here
    | some slot =>
        rw [found] at here
        exact ⟨⟨slot.touched, slot.value, rfl, here⟩, rfl⟩
  · rintro ⟨⟨t, fields, found, here⟩, rfl⟩
    refine ⟨_, ⟨rfl, rfl⟩, ?_⟩
    rw [Table.get?_insert, if_neg (Ne.symm other), found]
    exact here

theorem not_hasText_clearData : ¬ (m.perform now (.clearData c)).2.HasText c field text touched := by
  simp only [HasText, scratch_perform, StoreCall.conversation, if_true, scratchAfter]
  rintro ⟨fields, found, _⟩
  cases found

end HasText

/-- A scratch field holds a text if the history holds a value that is written so; the time is that of
the last touch of the map. -/
theorem field_history {field text : String} {touched : Nat} :
    (after interval history).HasText c field text touched ↔
      ∃ value : Json, value.print = text ∧
        (fieldOf c field).HeldSince interval history value touched := by
  induction history using List.reverseRecOn generalizing text touched with
  | nil =>
      constructor
      · rintro ⟨fields, found, _⟩
        cases found
      · rintro ⟨value, _, held⟩
        exact absurd held Upkeep.not_heldSince_nil
  | append_singleton history e ih =>
      obtain ⟨now, act⟩ := e
      rw [after_concat]
      -- A call that touches the map without writing the field renews the time on both sides.
      have renewed : ((∃ t, (after interval history).HasText c field text t) ∧ touched = now) ↔
          ∃ value : Json, value.print = text ∧
            (fieldOf c field).Held interval history value ∧ touched = now := by
        constructor
        · rintro ⟨⟨t, has⟩, same⟩
          obtain ⟨value, written, held⟩ := ih.mp has
          exact ⟨value, written, ⟨t, held⟩, same⟩
        · rintro ⟨value, written, ⟨t, held⟩, same⟩
          exact ⟨⟨t, ih.mpr ⟨value, written, held⟩⟩, same⟩
      cases act with
      | sweep =>
          rw [step, hasText_sweep, ih]
          simp only [Upkeep.heldSince_sweep, ← and_assoc, exists_and_right]
      | call call =>
          by_cases own : call.conversation = c
          · subst own
            cases call with
            | getData c field' =>
                have touches : (fieldOf c field).touches (.call (.getData c field')) = true := by
                  simp [fieldOf]
                simp only [StoreCall.conversation, Upkeep.heldSince_touch rfl rfl touches]
                exact hasText_getData.trans renewed
            | setData c field' value' =>
                by_cases this_one : field' = field
                · subst this_one
                  have written : (fieldOf c field').writes (.call (.setData c field' value')) =
                      some value' := by
                    simp [fieldOf]
                  simp only [StoreCall.conversation,
                    Upkeep.heldSince_write written (by simp [fieldOf])]
                  refine hasText_setData.trans ⟨?_, ?_⟩
                  · rintro ⟨printed, same⟩
                    exact ⟨value', printed, rfl, same⟩
                  · rintro ⟨value, printed, rfl, same⟩
                    exact ⟨printed, same⟩
                · have aside : (fieldOf c field).writes (.call (.setData c field' value')) = none := by
                    simp [fieldOf, this_one]
                  simp only [StoreCall.conversation, Upkeep.heldSince_touch aside
                    (by simp [fieldOf, this_one]) (by simp [fieldOf])]
                  exact (hasText_setData_other this_one).trans renewed
            | clearData c =>
                refine iff_of_false not_hasText_clearData ?_
                rintro ⟨value, _, held⟩
                exact Upkeep.not_heldSince_end rfl (by simp [fieldOf, StoreCall.conversation]) held
            | get | set | delete =>
                refine (hasText_aside fun _ => rfl).trans (ih.trans ?_)
                exact exists_congr fun value => and_congr_right fun _ =>
                  (Upkeep.heldSince_aside rfl rfl rfl).symm
          · refine (hasText_other own).trans (ih.trans ?_)
            obtain ⟨noWrite, noEnd, noTouch⟩ := @fieldOf_other c field call own
            exact exists_congr fun value => and_congr_right fun _ =>
              (Upkeep.heldSince_aside noWrite noEnd noTouch).symm

def Act.onState (c : Conversation) : Act → Bool
  | .call (.get c') => c' = c
  | .call (.set c' _) => c' = c
  | .call (.delete c') => c' = c
  | .call _ => false
  | .sweep => true

def Act.onScratch (c : Conversation) : Act → Bool
  | .call (.getData c' _) => c' = c
  | .call (.setData c' _ _) => c' = c
  | .call (.clearData c') => c' = c
  | .call _ => false
  | .sweep => true

theorem getData_answer (now : Nat) (m : Memory) (c : Conversation) (field : String) :
    (m.perform now (.getData c field)).1 =
      Record.valueOf ((m.scratch.get? c).bind (·.value.get? field)) := by
  rw [answer_perform, ← text?_record]
  rfl

section Answers

variable {now : Nat} {field : String}

/-- A value that is held is read as what its text says. -/
theorem getData_of_held {value : Json} (held : (fieldOf c field).Held interval history value) :
    ((after interval history).perform now (.getData c field)).1 =
      (decodeText value.print).map some := by
  obtain ⟨touched, held⟩ := held
  obtain ⟨fields, found, here⟩ := field_history.mpr ⟨value, rfl, held⟩
  rw [getData_answer, found, Option.bind_some, here]
  rfl

end Answers

end Registrar.Memory
