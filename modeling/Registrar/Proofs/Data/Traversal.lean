import Mathlib.Data.List.Forall2

/-!
Going through a list with a function that may fail.

The elements are taken in order, and the first failure ends it. So the whole succeeds exactly if every
element does, with the results in the same order, and it fails exactly as the first element does that
fails.
-/

namespace Registrar

variable {α β ε : Type} {f : α → Except ε β}

theorem mapM_cons_eq (f : α → Except ε β) (x : α) (xs : List α) :
    (x :: xs).mapM f = match f x with
      | .error e => .error e
      | .ok y => (xs.mapM f).map (y :: ·) := by
  rw [List.mapM_cons]
  cases f x with
  | error e => rfl
  | ok y => cases xs.mapM f <;> rfl

/-- A list succeeds exactly if each of its elements does. -/
theorem mapM_eq_ok_iff {xs : List α} {ys : List β} :
    xs.mapM f = .ok ys ↔ List.Forall₂ (fun x y => f x = .ok y) xs ys := by
  induction xs generalizing ys with
  | nil =>
      rw [List.mapM_nil, List.forall₂_nil_left_iff]
      constructor
      · intro same
        cases same
        rfl
      · rintro rfl
        rfl
  | cons x xs ih =>
      rw [mapM_cons_eq, List.forall₂_cons_left_iff]
      cases head : f x with
      | error e =>
          constructor
          · intro same
            cases same
          · rintro ⟨y, ys', first, _⟩
            cases first
      | ok y =>
          cases tail : xs.mapM f with
          | error e =>
              constructor
              · intro same
                cases same
              · rintro ⟨_, ys', _, rest, _⟩
                cases tail.symm.trans (ih.mpr rest)
          | ok ys' =>
              constructor
              · intro same
                cases same
                exact ⟨y, ys', rfl, ih.mp tail, rfl⟩
              · rintro ⟨y', ys'', first, rest, rfl⟩
                cases first
                cases tail.symm.trans (ih.mpr rest)
                rfl

/-- A list fails exactly as the first of its elements that fails. -/
theorem mapM_eq_error_iff {xs : List α} {e : ε} :
    xs.mapM f = .error e ↔ ∃ before x after, xs = before ++ x :: after ∧
      (∀ x' ∈ before, ∃ y, f x' = .ok y) ∧ f x = .error e := by
  induction xs with
  | nil =>
      constructor
      · intro same
        cases same
      · rintro ⟨before, x, after, split, _⟩
        exact absurd split.symm (List.append_ne_nil_of_right_ne_nil before (List.cons_ne_nil _ _))
  | cons x xs ih =>
      rw [mapM_cons_eq]
      cases head : f x with
      | error e' =>
          constructor
          · intro same
            cases same
            exact ⟨[], x, xs, rfl, List.forall_mem_nil _, head⟩
          · rintro ⟨before, x', after, split, succeed, fails⟩
            cases before with
            | nil =>
                cases split
                cases head.symm.trans fails
                rfl
            | cons b before =>
                cases split
                obtain ⟨y, succeeds⟩ := succeed x List.mem_cons_self
                cases head.symm.trans succeeds
      | ok y =>
          have rest : (xs.mapM f).map (y :: ·) = .error e ↔ xs.mapM f = .error e := by
            cases xs.mapM f with
            | error e' => rfl
            | ok ys => exact ⟨fun same => (nomatch same), fun same => (nomatch same)⟩
          dsimp only
          rw [rest, ih]
          constructor
          · rintro ⟨before, x', after, rfl, succeed, fails⟩
            have succeed' := List.forall_mem_cons.mpr ⟨⟨y, head⟩, succeed⟩
            exact ⟨x :: before, x', after, rfl, succeed', fails⟩
          · rintro ⟨before, x', after, split, succeed, fails⟩
            cases before with
            | nil =>
                cases split
                cases head.symm.trans fails
            | cons b before =>
                cases split
                exact ⟨before, x', after, rfl, (List.forall_mem_cons.mp succeed).2, fails⟩

end Registrar
