import Registrar.Proofs.Json.RoundTrip
import Registrar.Proofs.Store.Retention

/-!
Which values a store gives back.

A scratch value is kept as JSON text. Writing a value never fails, whatever it is; reading it does if
the value is nested deeper than the reader of JSON goes. So the store accepts values that it does not
give back, and these are all of them: any other value without doubles is read as it was written, as
long as it is held.

* `timed_map`: all that the store answers, read off the history.
* `accepted_value_read`: what becomes of a value after it was accepted.
-/

namespace Registrar

/-- Zero inside so many arrays. -/
def Json.nested : Nat → Json
  | 0 => .int 0
  | n + 1 => .array [nested n]

theorem Json.integral_nested (n : Nat) : (Json.nested n).Integral := by
  induction n with
  | zero => rfl
  | succ n ih =>
      rw [Json.Integral, nested, isIntegral, elementsIntegral, elementsIntegral, Bool.and_true]
      exact ih

theorem Json.ordered_nested (n : Nat) : (Json.nested n).Ordered := by
  induction n with
  | zero => rfl
  | succ n ih =>
      rw [Json.Ordered, nested, isOrdered, elementsOrdered, elementsOrdered, Bool.and_true]
      exact ih

theorem Json.depth_nested (n : Nat) : (Json.nested n).depth = n := by
  induction n with
  | zero => rfl
  | succ n ih =>
      rw [nested, depth, elementsDepth, elementsDepth, Nat.max_zero, ih]

namespace Memory

variable {interval : Nat} {c : Conversation} {field : String}

theorem Upkeep.survives_nil {α : Type} (u : Upkeep α) (interval start : Nat) :
    u.Survives interval start [] := fun pre _ _ split =>
  absurd split.symm (List.append_ne_nil_of_right_ne_nil pre (List.cons_ne_nil _ _))

/-- A value that is held is read as it was written, unless it is nested too deep. -/
theorem getData_of_integral (now : Nat) {history : List (Nat × Act)} {v : Json}
    (integral : v.Integral) (ordered : v.Ordered) (held : (fieldOf c field).Held interval history v) :
    (v.depth ≤ Json.depthLimit →
      ((after interval history).perform now (.getData c field)).1 = .ok (some v)) ∧
    (Json.depthLimit < v.depth → ∃ e : JsonError, e.fault = .nestedTooDeep ∧
      ((after interval history).perform now (.getData c field)).1 = .error (.ofJsonError e)) := by
  obtain ⟨reads, refuses⟩ := Json.parse_print integral ordered
  rw [getData_of_held held, decodeText]
  refine ⟨fun shallow => ?_, fun deep => ?_⟩
  · rw [reads shallow]
    rfl
  · obtain ⟨e, refused, fault⟩ := refuses deep
    rw [refused]
    exact ⟨e, fault, rfl⟩

/-- Zero inside 128 arrays, read while it is held. -/
theorem getData_nested (now : Nat) {history : List (Nat × Act)}
    (held : (fieldOf c field).Held interval history (.nested 128)) :
    ((after interval history).perform now (.getData c field)).1 ≠ .ok (some (.nested 128)) := by
  have deep : Json.depthLimit < (Json.nested 128).depth := by
    rw [Json.depth_nested]
    decide
  have reading :=
    getData_of_integral now (Json.integral_nested 128) (Json.ordered_nested 128) held
  obtain ⟨e, _, refused⟩ := reading.2 deep
  intro same
  cases refused.symm.trans same

/-! ### What is read, and what is not -/

/-- Whatever was done to a store before, and whatever value without doubles is written to a scratch
field: the store accepts it. As long as nothing writes over the field or clears the scratch map, and no
sweep removes the map, the field reads as the value if at most 127 containers stand around any part of
it. If there are more, it cannot be read. -/
theorem accepted_value_read (interval : Nat) (before since : List (Nat × Act)) (start now : Nat)
    (c : Conversation) (field : String) {v : Json} (integral : v.Integral) (ordered : v.Ordered)
    (kept : ∀ e ∈ since, (fieldOf c field).ends e.2 = false)
    (survives : (fieldOf c field).Survives interval start since) :
    let m := after interval (before ++ (start, .call (.setData c field v)) :: since)
    ((after interval before).perform start (.setData c field v)).1 = .ok () ∧
    (v.depth ≤ 127 → (m.perform now (.getData c field)).1 = .ok (some v)) ∧
    (127 < v.depth → ∃ e : JsonError, e.fault = .nestedTooDeep ∧
      (m.perform now (.getData c field)).1 = .error (.ofJsonError e)) := by
  intro m
  have held : (fieldOf c field).Held interval
      (before ++ (start, .call (.setData c field v)) :: since) v :=
    ⟨_, before, start, _, since, rfl, by simp [fieldOf], kept, survives, rfl⟩
  exact ⟨rfl, getData_of_integral now integral ordered held⟩

/-- An object is read after a read and a sweep in between. -/
theorem accepted_value_read_after_sweep :
    let c : Conversation := ⟨1, 7⟩
    let v : Json := .object [("list", .array [.int (-5), .string "x\n"]), ("none", .null)]
    let since : List (Nat × Act) := [(1, .call (.getData c "field")), (20, .sweep)]
    (((after 10 ([] ++ (0, .call (.setData c "field" v)) :: since)).perform 30
      (.getData c "field")).1 = .ok (some v)) := by
  intro c v since
  have kept : ∀ e ∈ since, (fieldOf c "field").ends e.2 = false := by decide
  have survives : (fieldOf c "field").Survives 10 0 since :=
    Upkeep.survives_concat.mpr ⟨Upkeep.survives_concat.mpr
      ⟨Upkeep.survives_nil _ _ _, fun same => by cases same⟩, fun _ => by decide⟩
  have ordered : v.isOrdered = true := by decide +kernel
  exact (accepted_value_read 10 [] since 0 30 c "field" (v := v) rfl ordered kept survives).2.1
    (by decide)

/-- Zero inside 128 arrays is accepted, and cannot be read right after that. -/
theorem deep_value_unreadable :
    let c : Conversation := ⟨1, 7⟩
    let written := Memory.empty.perform 0 (.setData c "x" (.nested 128))
    written.1 = .ok () ∧
      (written.2.perform 0 (.getData c "x")).1 ≠ .ok (some (.nested 128)) := by
  intro c written
  have held : (fieldOf c "x").Held 60000 [(0, .call (.setData c "x" (.nested 128)))]
      (.nested 128) :=
    ⟨_, [], 0, _, [], rfl, by simp [fieldOf], by simp, Upkeep.survives_nil _ _ _, rfl⟩
  exact ⟨rfl, getData_nested 0 held⟩

end Memory

end Registrar
