import Registrar.Proofs.Json.Strings
import Registrar.Store.Memory
import Mathlib.Logic.Relation
import Mathlib.Data.List.Nodup

/-!
What a store holds for one conversation.

`Memory.record` forgets the times at which a conversation's state and scratch map were last touched,
and everything that belongs to others. A call on the store reads and writes the record of its own
conversation only, and its answer depends on nothing else.

* `Memory.answer_perform`: the answer to a call, read off the record.
* `Memory.record_perform`: the record after a call; those of other conversations stay.
* `Memory.Evictions.fades`: evictions leave of every record its parts, or less.
* `Memory.evictions_keepFresh`: a sweep is a run of single evictions.
-/

namespace Registrar

/-- The state and the scratch fields of one conversation; either may be absent. -/
structure Record where
  state : Option State
  scratch : Option (Table String String)

namespace Record

def empty : Record := ⟨none, none⟩

def text? (r : Record) (field : String) : Option String := r.scratch.bind (·.get? field)

def valueOf : Option String → Except StorageError (Option Json)
  | none => .ok none
  | some text => (Memory.decodeText text).map some

/-- The answer to a call of this conversation, and its record after the call. -/
def perform (r : Record) : (call : StoreCall) → call.Answer × Record
  | .get _ => (.ok (r.state.getD .default), r)
  | .set _ state => (.ok (), { r with state := some state })
  | .delete _ => (.ok (), { r with state := none })
  | .getData _ field => (valueOf (r.text? field), r)
  | .setData _ field value =>
    (.ok (), { r with scratch := some ((r.scratch.getD .empty).insert field value.print) })
  | .clearData _ => (.ok (), { r with scratch := none })

/-- A field that holds a text in JSON reads as this text. -/
theorem perform_getText {r : Record} (c : Conversation) {field text : String}
    (holds : r.text? field = some (Json.string text).print) :
    (r.perform (.getData c field)).1 = .ok (some (.string text)) := by
  simp only [perform, holds, valueOf, Memory.decodeText, Json.parse_print_string]
  rfl

/-- The text of a field after a field was replaced. -/
theorem text?_setData (r : Record) (c : Conversation) (field : String) (value : Json)
    (field' : String) : (r.perform (.setData c field value)).2.text? field' =
      if field' = field then some value.print else r.text? field' := by
  simp only [perform, text?, Option.bind_some, Table.get?_insert]
  split
  · rfl
  · cases r.scratch <;> rfl

/-- Only reading a scratch field can go wrong by itself, and it leaves the record as it is. -/
theorem perform_eq_of_error {r : Record} {call : StoreCall} {fault : StorageError}
    (refused : (r.perform call).1 = .error fault) : (r.perform call).2 = r := by
  cases call with
  | get | getData => rfl
  | set | delete | setData | clearData => cases refused

/-! ### Eviction -/

/-- Some parts of a record may be gone, and nothing else has changed. -/
structure Fades (r r' : Record) : Prop where
  state : r'.state = r.state ∨ r'.state = none
  scratch : r'.scratch = r.scratch ∨ r'.scratch = none

theorem Fades.refl (r : Record) : Fades r r := ⟨.inl rfl, .inl rfl⟩

theorem Fades.trans {r r' r'' : Record} (first : Fades r r') (second : Fades r' r'') :
    Fades r r'' where
  state := by
    rcases second.state with same | gone
    · rw [same]
      exact first.state
    · exact .inr gone
  scratch := by
    rcases second.scratch with same | gone
    · rw [same]
      exact first.scratch
    · exact .inr gone

/-- A field of a record that has faded holds the text that it held, or none. -/
theorem Fades.text? {r r' : Record} (fades : Fades r r') (field : String) :
    r'.text? field = r.text? field ∨ r'.text? field = none := by
  rcases fades.scratch with same | gone
  · exact .inl (by rw [Record.text?, same]; rfl)
  · exact .inr (by rw [Record.text?, gone]; rfl)

end Record

namespace Table

variable {κ α : Type} [DecidableEq κ]

omit [DecidableEq κ] in
theorem eq_of_entries {t t' : Table κ α} (same : t.entries = t'.entries) : t = t' := by
  cases t
  cases t'
  cases same
  rfl

theorem entries_foldl_erase (ks : List κ) (t : Table κ α) :
    (ks.foldl erase t).entries = t.entries.filter fun e => e.1 ∉ ks := by
  induction ks generalizing t with
  | nil => simp
  | cons k ks ih =>
      rw [List.foldl_cons, ih]
      simp only [erase, retain, List.filter_filter, List.mem_cons, not_or, Bool.decide_and]
      exact List.filter_congr fun e _ => Bool.and_comm _ _

/-- What fails a test can be taken out entry by entry. -/
theorem retain_eq_foldl_erase (t : Table κ α) (p : κ → α → Bool) :
    ∃ ks : List κ, t.retain p = ks.foldl erase t := by
  refine ⟨(t.entries.filter fun e => !p e.1 e.2).map Prod.fst, eq_of_entries ?_⟩
  rw [entries_foldl_erase]
  refine List.filter_congr fun e mem => Bool.eq_iff_iff.mpr ?_
  rw [decide_eq_true_iff]
  constructor
  · intro passes failed
    obtain ⟨e', mem', key⟩ := List.mem_map.mp failed
    obtain ⟨mem', fails⟩ := List.mem_filter.mp mem'
    -- No two entries share a key.
    rw [List.inj_on_of_nodup_map t.nodup mem' mem key, passes] at fails
    cases fails
  · intro stays
    cases passes : p e.1 e.2 with
    | true => rfl
    | false =>
        exact absurd (List.mem_map.mpr
          ⟨e, List.mem_filter.mpr ⟨mem, by rw [passes]; rfl⟩, rfl⟩) stays

end Table

namespace Memory

variable {m : Memory}

def record (m : Memory) (c : Conversation) : Record :=
  ⟨(m.states.get? c).map Stamped.value, (m.scratch.get? c).map Stamped.value⟩

@[simp] theorem record_empty (c : Conversation) : empty.record c = .empty := rfl

theorem text?_record (m : Memory) (c : Conversation) (field : String) :
    (m.record c).text? field = (m.scratch.get? c).bind (·.value.get? field) := by
  simp only [record, Record.text?]
  cases m.scratch.get? c <;> rfl

/-- The answer to a call depends on the record of its conversation only. -/
theorem answer_perform (now : Nat) (m : Memory) (call : StoreCall) :
    (m.perform now call).1 = ((m.record call.conversation).perform call).1 := by
  cases call with
  | get c =>
      simp only [perform, Record.perform, record, StoreCall.conversation]
      cases m.states.get? c <;> rfl
  | getData c field =>
      simp only [perform, Record.perform, StoreCall.conversation, text?_record]
      cases m.scratch.get? c with
      | none => rfl
      | some slot =>
          simp only [Option.bind_some]
          cases slot.value.get? field with
          | none => rfl
          | some text =>
              simp only [Record.valueOf]
              cases decodeText text <;> rfl
  | set | delete | setData | clearData => rfl

/-- Reading a scratch field touches the map, if there is one. -/
theorem perform_getData (now : Nat) (m : Memory) (c : Conversation) (field : String) :
    (m.perform now (.getData c field)).2 =
      match m.scratch.get? c with
      | some slot => { m with scratch := m.scratch.insert c ⟨slot.value, now⟩ }
      | none => m := by
  simp only [perform]
  cases m.scratch.get? c with
  | none => rfl
  | some slot =>
      simp only
      split
      · split <;> rfl
      · rfl

/-- A call changes the record of its conversation only, as the record tells. -/
theorem record_perform (now : Nat) (m : Memory) (call : StoreCall) (c : Conversation) :
    (m.perform now call).2.record c =
      if c = call.conversation then ((m.record c).perform call).2 else m.record c := by
  split
  · rename_i own
    subst own
    cases call with
    | get c =>
        simp only [perform, StoreCall.conversation, Record.perform, record]
        cases found : m.states.get? c <;> simp [found]
    | set c state => simp [perform, StoreCall.conversation, Record.perform, record]
    | delete c => simp [perform, StoreCall.conversation, Record.perform, record]
    | getData c field =>
        rw [perform_getData]
        simp only [StoreCall.conversation, Record.perform, record]
        cases found : m.scratch.get? c <;> simp [found]
    | setData c field value =>
        simp only [perform, StoreCall.conversation, Record.perform, record]
        cases found : m.scratch.get? c <;> simp
    | clearData c => simp [perform, StoreCall.conversation, Record.perform, record]
  · rename_i other
    cases call with
    | get c' =>
        simp only [perform, record, StoreCall.conversation] at other ⊢
        cases m.states.get? c' <;> simp [other]
    | getData c' field =>
        rw [perform_getData]
        simp only [record, StoreCall.conversation] at other ⊢
        cases m.scratch.get? c' <;> simp [other]
    | set c' | delete c' | setData c' | clearData c' =>
        simp only [StoreCall.conversation] at other
        simp [perform, record, other]

/-! ### Eviction -/

def forgetState (m : Memory) (c : Conversation) : Memory := { m with states := m.states.erase c }

def forgetScratch (m : Memory) (c : Conversation) : Memory :=
  { m with scratch := m.scratch.erase c }

theorem record_forgetState (m : Memory) (c c' : Conversation) :
    (m.forgetState c).record c' =
      if c' = c then { m.record c' with state := none } else m.record c' := by
  split
  · rename_i this_one
    simp [forgetState, record, this_one]
  · rename_i other
    simp [forgetState, record, other]

theorem record_forgetScratch (m : Memory) (c c' : Conversation) :
    (m.forgetScratch c).record c' =
      if c' = c then { m.record c' with scratch := none } else m.record c' := by
  split
  · rename_i this_one
    simp [forgetScratch, record, this_one]
  · rename_i other
    simp [forgetScratch, record, other]

theorem fades_forgetState (m : Memory) (c c' : Conversation) :
    (m.record c').Fades ((m.forgetState c).record c') := by
  rw [record_forgetState]
  split
  · exact ⟨.inr rfl, .inl rfl⟩
  · exact .refl _

theorem fades_forgetScratch (m : Memory) (c c' : Conversation) :
    (m.record c').Fades ((m.forgetScratch c).record c') := by
  rw [record_forgetScratch]
  split
  · exact ⟨.inl rfl, .inr rfl⟩
  · exact .refl _

inductive Evicts (m : Memory) : Memory → Prop where
  | state (c : Conversation) : Evicts m (m.forgetState c)
  | scratch (c : Conversation) : Evicts m (m.forgetScratch c)

abbrev Evictions : Memory → Memory → Prop := Relation.ReflTransGen Evicts

theorem Evicts.fades {m' : Memory} (evicts : Evicts m m') (c : Conversation) :
    (m.record c).Fades (m'.record c) := by
  cases evicts with
  | state c' => exact fades_forgetState m c' c
  | scratch c' => exact fades_forgetScratch m c' c

theorem Evictions.fades {m' : Memory} (evictions : Evictions m m') (c : Conversation) :
    (m.record c).Fades (m'.record c) := by
  induction evictions with
  | refl => exact .refl _
  | tail _ evicts ih => exact ih.trans (evicts.fades c)

theorem evictions_states (cs : List Conversation) (m : Memory) :
    Evictions m { m with states := cs.foldl Table.erase m.states } := by
  induction cs generalizing m with
  | nil => exact .refl
  | cons c cs ih => exact .head (.state c) (ih (m.forgetState c))

theorem evictions_scratch (cs : List Conversation) (m : Memory) :
    Evictions m { m with scratch := cs.foldl Table.erase m.scratch } := by
  induction cs generalizing m with
  | nil => exact .refl
  | cons c cs ih => exact .head (.scratch c) (ih (m.forgetScratch c))

/-- What a sweep does can be done by single evictions. -/
theorem evictions_keepFresh (now maxAge : Nat) (m : Memory) :
    Evictions m (m.keepFresh now maxAge) := by
  obtain ⟨states, states_eq⟩ := m.states.retain_eq_foldl_erase fun _ slot =>
    now - slot.touched ≤ maxAge
  obtain ⟨scratch, scratch_eq⟩ := m.scratch.retain_eq_foldl_erase fun _ slot =>
    now - slot.touched ≤ maxAge
  rw [keepFresh, states_eq, scratch_eq]
  exact (evictions_states states m).trans (evictions_scratch scratch _)

theorem evictions_elapse (interval start stop : Nat) (m : Memory) :
    Evictions m (m.elapse interval start stop) := by
  unfold elapse
  split
  · exact evictions_keepFresh _ _ m
  · exact .refl

end Memory

end Registrar
