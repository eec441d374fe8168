/-!
Finite tables: at most one entry per key, kept in the order in which the keys were first entered.

A table is read through `get?`; each operation comes with one equation that says what it does to
that view (`get?_insert`, `get?_erase`, `get?_retain`, `get?_map`).
-/

namespace Registrar

universe u v w

/-- A list of entries no two of which share a key. -/
structure Table (κ : Type u) (α : Type v) where
  entries : List (κ × α)
  nodup : (entries.map Prod.fst).Nodup

namespace Table

variable {κ : Type u} {α : Type v} [DecidableEq κ]

def empty : Table κ α := ⟨[], List.nodup_nil⟩

instance : EmptyCollection (Table κ α) := ⟨empty⟩

/-- The value that the first entry with this key holds. -/
def find (k : κ) : List (κ × α) → Option α
  | [] => none
  | (k', a) :: rest => if k = k' then some a else find k rest

def get? (t : Table κ α) (k : κ) : Option α := find k t.entries

def contains (t : Table κ α) (k : κ) : Bool := (t.get? k).isSome

def size (t : Table κ α) : Nat := t.entries.length

def isEmpty (t : Table κ α) : Bool := t.entries.isEmpty

def keys (t : Table κ α) : List κ := t.entries.map Prod.fst

/-- Replaces the value of the key where it stands, or adds an entry at the end. -/
def put (k : κ) (a : α) : List (κ × α) → List (κ × α)
  | [] => [(k, a)]
  | (k', a') :: rest => if k = k' then (k, a) :: rest else (k', a') :: put k a rest

theorem mem_keys_put {k k' : κ} {a : α} {l : List (κ × α)} :
    k' ∈ (put k a l).map Prod.fst ↔ k' = k ∨ k' ∈ l.map Prod.fst := by
  induction l with
  | nil => simp [put]
  | cons e l ih =>
    obtain ⟨k₁, a₁⟩ := e
    rw [put]
    split
    · subst_vars
      simp
    · simp only [List.map_cons, List.mem_cons, ih]
      constructor
      · rintro (h | h | h) <;> simp [h]
      · rintro (h | h | h) <;> simp [h]

theorem nodup_put {k : κ} {a : α} {l : List (κ × α)} (h : (l.map Prod.fst).Nodup) :
    ((put k a l).map Prod.fst).Nodup := by
  induction l with
  | nil => simp [put]
  | cons e l ih =>
    obtain ⟨k₁, a₁⟩ := e
    rw [List.map_cons, List.nodup_cons] at h
    rw [put]
    split
    · subst_vars
      simpa using h
    · rename_i hne
      rw [List.map_cons, List.nodup_cons]
      refine ⟨?_, ih h.2⟩
      rw [mem_keys_put]
      rintro (h' | h')
      · exact hne h'.symm
      · exact h.1 h'

def insert (t : Table κ α) (k : κ) (a : α) : Table κ α :=
  ⟨put k a t.entries, nodup_put t.nodup⟩

def retain (t : Table κ α) (p : κ → α → Bool) : Table κ α :=
  ⟨t.entries.filter fun e => p e.1 e.2,
    t.nodup.sublist ((List.filter_sublist).map Prod.fst)⟩

def erase (t : Table κ α) (k : κ) : Table κ α :=
  t.retain fun k' _ => k' ≠ k

def map {β : Type w} (f : α → β) (t : Table κ α) : Table κ β :=
  ⟨t.entries.map fun e => (e.1, f e.2), by simpa [Function.comp_def] using t.nodup⟩

/-- The table that lists the entries one after another, a later one replacing an earlier one. -/
def ofList (l : List (κ × α)) : Table κ α :=
  l.foldl (fun t e => t.insert e.1 e.2) empty

/-! ### The view through `get?` -/

@[simp] theorem get?_empty (k : κ) : (empty : Table κ α).get? k = none := rfl

theorem find_put (k k' : κ) (a : α) (l : List (κ × α)) :
    find k' (put k a l) = if k' = k then some a else find k' l := by
  induction l with
  | nil => by_cases h : k' = k <;> simp [put, find, h]
  | cons e l ih =>
    obtain ⟨k₁, a₁⟩ := e
    by_cases h₁ : k = k₁
    · subst h₁
      by_cases h : k' = k <;> simp [put, find, h]
    · by_cases h : k' = k
      · subst h
        simp [put, find, h₁, ih]
      · by_cases h₂ : k' = k₁
        · subst h₂
          simp [put, find, h₁, h]
        · simp [put, find, h₁, h, h₂, ih]

@[simp] theorem get?_insert (t : Table κ α) (k k' : κ) (a : α) :
    (t.insert k a).get? k' = if k' = k then some a else t.get? k' :=
  find_put k k' a t.entries

theorem find_eq_none_of_not_mem {k : κ} {l : List (κ × α)} (h : k ∉ l.map Prod.fst) :
    find k l = none := by
  induction l with
  | nil => rfl
  | cons e l ih =>
    obtain ⟨k₁, a₁⟩ := e
    rw [List.map_cons, List.mem_cons, not_or] at h
    simp [find, h.1, ih h.2]

theorem find_filter (k : κ) (p : κ → α → Bool) {l : List (κ × α)}
    (hl : (l.map Prod.fst).Nodup) :
    find k (l.filter fun e => p e.1 e.2) = (find k l).filter (p k) := by
  induction l with
  | nil => rfl
  | cons e l ih =>
    obtain ⟨k₁, a₁⟩ := e
    rw [List.map_cons, List.nodup_cons] at hl
    by_cases hp : p k₁ a₁
    · rw [List.filter_cons_of_pos (by exact hp)]
      by_cases h : k = k₁
      · subst h
        simp [find, Option.filter, hp]
      · simpa [find, h] using ih hl.2
    · rw [List.filter_cons_of_neg (by simpa using hp)]
      by_cases h : k = k₁
      · subst h
        rw [ih hl.2, find_eq_none_of_not_mem hl.1]
        simp [find, Option.filter, hp]
      · simpa [find, h] using ih hl.2

@[simp] theorem get?_retain (t : Table κ α) (p : κ → α → Bool) (k : κ) :
    (t.retain p).get? k = (t.get? k).filter (p k) :=
  find_filter k p t.nodup

@[simp] theorem get?_erase (t : Table κ α) (k k' : κ) :
    (t.erase k).get? k' = if k' = k then none else t.get? k' := by
  rw [erase, get?_retain]
  by_cases h : k' = k
  · subst h
    cases t.get? k' <;> simp
  · cases t.get? k' <;> simp [h]

theorem find_map {β : Type w} (f : α → β) (k : κ) (l : List (κ × α)) :
    find k (l.map fun e => (e.1, f e.2)) = (find k l).map f := by
  induction l with
  | nil => rfl
  | cons e l ih =>
    obtain ⟨k₁, a₁⟩ := e
    by_cases h : k = k₁ <;> simp [find, h, ih]

@[simp] theorem get?_map {β : Type w} (f : α → β) (t : Table κ α) (k : κ) :
    (t.map f).get? k = (t.get? k).map f :=
  find_map f k t.entries

theorem mem_keys_iff {t : Table κ α} {k : κ} : k ∈ t.keys ↔ (t.get? k).isSome = true := by
  unfold keys get?
  generalize t.entries = l
  induction l with
  | nil => simp [find]
  | cons e l ih =>
    obtain ⟨k₁, a₁⟩ := e
    by_cases h : k = k₁ <;> simp [find, h, ih]

end Table

end Registrar
