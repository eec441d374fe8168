import Registrar.Proofs.Json.RoundTrip

/-!
Objects that are made of members, and values whose text is read back.

The members of an object are entered one after another where their keys belong, so they end up in the
order of their keys (`arranged`). A value whose numbers are integers, whose objects are ordered and
which is no deeper than the reader goes is read back from its text; `Fits` says so in a form that goes
from the parts of a value to the whole.

* `find_enter`: what is entered last under a key is found there.
* `ascends_arranged`: the members of an object are in order, in whichever order they are given.
* `Fits.array`, `Fits.ofMembers`: containers, from what they hold.
* `Fits.parse_print`: the text of a value that fits.
-/

namespace Registrar.Json

/-! ### Entering members -/

/-- Members in the order in which an object keeps them. -/
def arranged (members : List (String × Json)) : List (String × Json) :=
  members.foldl (fun acc m => enter m.1 m.2 acc) []

theorem ofMembers_eq (members : List (String × Json)) :
    ofMembers members = object (arranged members) := rfl

/-- What is entered last under a key is found there. -/
@[simp] theorem find_enter (key k : String) (v : Json) (members : List (String × Json)) :
    find key (enter k v members) = if key = k then some v else find key members := by
  induction members with
  | nil => rfl
  | cons m members ih =>
      obtain ⟨k', v'⟩ := m
      rw [enter]
      split
      · rfl
      split
      · rename_i same
        subst same
        simp only [find]
        split <;> rfl
      · rename_i other
        simp only [find, ih]
        by_cases first : key = k'
        · rw [if_pos first, if_pos first, if_neg (fun same => other (same.symm.trans first))]
        · rw [if_neg first, if_neg first]

theorem mem_of_mem_enter {m : String × Json} {k : String} {v : Json}
    {members : List (String × Json)} (mem : m ∈ enter k v members) : m = (k, v) ∨ m ∈ members := by
  induction members with
  | nil => exact .inl (List.mem_singleton.mp mem)
  | cons m' members ih =>
      obtain ⟨k', v'⟩ := m'
      rw [enter] at mem
      split at mem
      · exact List.mem_cons.mp mem
      split at mem
      · exact (List.mem_cons.mp mem).imp_right (List.mem_cons_of_mem _)
      · rcases List.mem_cons.mp mem with rfl | mem
        · exact .inr List.mem_cons_self
        · exact (ih mem).imp_right (List.mem_cons_of_mem _)

/-- A member is entered where its key belongs. -/
theorem ascends_enter {members : List (String × Json)} (ascend : members.Pairwise (·.1 < ·.1))
    (k : String) (v : Json) : (enter k v members).Pairwise (·.1 < ·.1) := by
  induction members with
  | nil => exact List.pairwise_singleton _ _
  | cons m members ih =>
      obtain ⟨k', v'⟩ := m
      obtain ⟨first, rest⟩ := List.pairwise_cons.mp ascend
      rw [enter]
      split
      · rename_i smaller
        refine List.pairwise_cons.mpr ⟨List.forall_mem_cons.mpr ⟨smaller, ?_⟩, ascend⟩
        exact fun m mem => smaller.trans (first m mem)
      split
      · rename_i same
        subst same
        exact List.pairwise_cons.mpr ⟨first, rest⟩
      · rename_i smaller other
        refine List.pairwise_cons.mpr ⟨fun m mem => ?_, ih rest⟩
        rcases mem_of_mem_enter mem with rfl | mem
        · exact lt_of_le_of_ne (not_lt.mp smaller) (Ne.symm other)
        · exact first m mem

/-! ### Entering many -/

section Arranged

variable {members : List (String × Json)}

theorem mem_of_mem_arranged {m : String × Json} (mem : m ∈ arranged members) : m ∈ members := by
  have entered : ∀ (before : List (String × Json)),
      m ∈ members.foldl (fun acc m => enter m.1 m.2 acc) before → m ∈ members ∨ m ∈ before := by
    clear mem
    induction members with
    | nil => exact fun _ => .inr
    | cons m' members ih =>
        intro before mem
        rcases ih _ mem with later | mem
        · exact .inl (List.mem_cons_of_mem _ later)
        · exact (mem_of_mem_enter mem).imp_left fun same => List.mem_cons.mpr (.inl same)
  exact (entered [] mem).resolve_right List.not_mem_nil

theorem ascends_arranged (members : List (String × Json)) :
    (arranged members).Pairwise (·.1 < ·.1) := by
  have entered : ∀ (before : List (String × Json)), before.Pairwise (·.1 < ·.1) →
      (members.foldl (fun acc m => enter m.1 m.2 acc) before).Pairwise (·.1 < ·.1) := by
    induction members with
    | nil => exact fun _ ascend => ascend
    | cons m members ih => exact fun before ascend => ih _ (ascends_enter ascend m.1 m.2)
  exact entered [] .nil

theorem keysAscend_of_pairwise (ascend : members.Pairwise (·.1 < ·.1)) :
    keysAscend members = true := by
  induction members with
  | nil => rfl
  | cons m members ih =>
      obtain ⟨first, rest⟩ := List.pairwise_cons.mp ascend
      cases members with
      | nil => rfl
      | cons m' members =>
          rw [keysAscend, Bool.and_eq_true, decide_eq_true_eq]
          exact ⟨first m' List.mem_cons_self, ih rest⟩

end Arranged

/-! ### Values that are read back -/

/-- The numbers in the value are integers, its objects are ordered, and at most `limit` containers stand
around a value in it. -/
structure Fits (limit : Nat) (v : Json) : Prop where
  integral : v.Integral
  ordered : v.Ordered
  shallow : v.depth ≤ limit

namespace Fits

variable {limit : Nat}

/-- What fits is read back from its text if the reader goes as deep. -/
theorem parse_print {v : Json} (fits : Fits limit v) (open_ : limit ≤ depthLimit) :
    parse v.print = .ok v :=
  (Json.parse_print fits.integral fits.ordered).1 (fits.shallow.trans open_)

theorem null : Fits limit .null := ⟨rfl, rfl, Nat.zero_le _⟩

@[simp] theorem string (s : String) : Fits limit (.string s) := ⟨rfl, rfl, Nat.zero_le _⟩

theorem integer (n : JsonInteger) : Fits limit (.number (.integer n)) := ⟨rfl, rfl, Nat.zero_le _⟩

@[simp] theorem int (n : Int64) : Fits limit (.int n) := integer _

theorem array {vs : List Json} (fits : ∀ v ∈ vs, Fits limit v) : Fits (limit + 1) (.array vs) := by
  suffices elements : elementsIntegral vs = true ∧ elementsOrdered vs = true ∧
      elementsDepth vs ≤ limit from
    ⟨elements.1, elements.2.1, Nat.succ_le_succ elements.2.2⟩
  induction vs with
  | nil => exact ⟨rfl, rfl, Nat.zero_le _⟩
  | cons v vs ih =>
      obtain ⟨first, rest⟩ := List.forall_mem_cons.mp fits
      obtain ⟨integral, ordered, shallow⟩ := ih rest
      exact ⟨Bool.and_eq_true_iff.mpr ⟨first.integral, integral⟩,
        Bool.and_eq_true_iff.mpr ⟨first.ordered, ordered⟩, max_le first.shallow shallow⟩

theorem object {members : List (String × Json)} (ascend : members.Pairwise (·.1 < ·.1))
    (fits : ∀ m ∈ members, Fits limit m.2) : Fits (limit + 1) (.object members) := by
  suffices values : membersIntegral members = true ∧ membersOrdered members = true ∧
      membersDepth members ≤ limit from
    ⟨values.1, Bool.and_eq_true_iff.mpr ⟨keysAscend_of_pairwise ascend, values.2.1⟩,
      Nat.succ_le_succ values.2.2⟩
  clear ascend
  induction members with
  | nil => exact ⟨rfl, rfl, Nat.zero_le _⟩
  | cons m members ih =>
      obtain ⟨first, rest⟩ := List.forall_mem_cons.mp fits
      obtain ⟨integral, ordered, shallow⟩ := ih rest
      exact ⟨Bool.and_eq_true_iff.mpr ⟨first.integral, integral⟩,
        Bool.and_eq_true_iff.mpr ⟨first.ordered, ordered⟩, max_le first.shallow shallow⟩

theorem ofMembers {members : List (String × Json)} (fits : ∀ m ∈ members, Fits limit m.2) :
    Fits (limit + 1) (.ofMembers members) :=
  object (ascends_arranged members) fun m mem => fits m (mem_of_mem_arranged mem)

end Fits

end Registrar.Json
