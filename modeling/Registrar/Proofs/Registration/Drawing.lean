import Registrar.Proofs.Registration.Code
import Mathlib

/-!
How a verification code comes out of a source of random bytes.

The source never ends: it has a block ready, or a reason why there is none, as often as it is asked. A
code of `n` digits is made of the first `n` bytes below 250, each of which gives the digit that is its
remainder by ten. Blocks are asked for until these bytes have come, or a block has failed to come.

* `draw_append`: what blocks give that do not complete the code.
* `ends_completed`, `ends_brokenOff`: the two ways in which drawing ends, and after how many blocks.
* `waits_or_ends`: there is no third way.
* `card_of_code`: each code is made of as many sequences of bytes as any other.
* `code_from_source`: all of this together.
-/

namespace Registrar.Registration

/-! ### Bytes and digits -/

def digit (b : UInt8) : Char := Char.ofNat ('0'.toNat + b.toNat % 10)

/-- The bytes below 250 of the blocks that have come, one after another. -/
def usable (source : List (Except String Block)) : List UInt8 :=
  (source.flatMap fun
    | .ok block => block.toList
    | .error _ => []).filter (· < 250)

/-- The digits that bytes give, as a text. -/
def spell (bytes : List UInt8) : String := String.ofList (bytes.map digit)

@[simp] theorem usable_append (source source' : List (Except String Block)) :
    usable (source ++ source') = usable source ++ usable source' := by
  simp [usable]

/-- The digits of a block are those of its bytes below 250. -/
theorem digitsOf_eq (block : Block) : digitsOf block = (usable [.ok block]).map digit := by
  simp only [digitsOf, usable, List.flatMap_cons, List.flatMap_nil, List.append_nil]
  induction block.toList with
  | nil => rfl
  | cons b bytes ih =>
      by_cases below : b < 250
      · have gives : digitOf b = some (digit b) := if_pos below
        rw [List.filterMap_cons_some gives, List.filter_cons_of_pos (by simpa using below),
          List.map_cons, ih]
      · have skipped : digitOf b = none := if_neg below
        rw [List.filterMap_cons_none skipped, List.filter_cons_of_neg (by simpa using below), ih]

/-! ### Drawing from a list of blocks -/

def Drawing.after (digits : List Char) : Drawing → Drawing
  | .drawn code rest => .drawn (digits ++ code) rest
  | .failed reason => .failed reason
  | .starved => .starved

theorem Drawing.after_nil (drawing : Drawing) : drawing.after [] = drawing := by
  cases drawing <;> rfl

theorem Drawing.after_after (drawing : Drawing) (digits digits' : List Char) :
    (drawing.after digits').after digits = drawing.after (digits ++ digits') := by
  cases drawing with
  | drawn code rest => simp only [after, List.append_assoc]
  | failed | starved => rfl

theorem draw_zero (source : List (Except String Block)) : draw 0 source = .drawn [] source := by
  rw [draw]

/-- A block gives its digits, or as many of them as are missing. -/
theorem draw_block {n : Nat} (positive : 0 < n) (block : Block) (source : List (Except String Block)) :
    draw n (.ok block :: source) =
      (draw (n - ((digitsOf block).take n).length) source).after ((digitsOf block).take n) := by
  obtain ⟨m, rfl⟩ := Nat.exists_eq_add_of_le' positive
  rw [draw]
  cases draw (m + 1 - ((digitsOf block).take (m + 1)).length) source <;> rfl

theorem draw_failure {n : Nat} (positive : 0 < n) (reason : String)
    (source : List (Except String Block)) : draw n (.error reason :: source) = .failed reason := by
  obtain ⟨m, rfl⟩ := Nat.exists_eq_add_of_le' positive
  rw [draw]

theorem draw_nil {n : Nat} (positive : 0 < n) : draw n [] = .starved := by
  obtain ⟨m, rfl⟩ := Nat.exists_eq_add_of_le' positive
  rw [draw]

/-- A block that holds all the digits that are missing is the last one that is asked for. -/
theorem draw_last {n : Nat} (positive : 0 < n) {block : Block}
    (enough : n ≤ (usable [.ok block]).length) (source : List (Except String Block)) :
    draw n (.ok block :: source) = .drawn (((usable [.ok block]).take n).map digit) source := by
  have taken : ((digitsOf block).take n).length = n := by
    rw [digitsOf_eq, List.length_take, List.length_map, Nat.min_eq_left enough]
  rw [draw_block positive, taken, Nat.sub_self, draw_zero, Drawing.after, List.append_nil,
    digitsOf_eq, List.map_take]

def AllCame (source : List (Except String Block)) : Prop := ∀ b ∈ source, ∃ block, b = .ok block

/-- Blocks that do not complete the code give all their digits, and drawing goes on. -/
theorem draw_append {came : List (Except String Block)} (all : AllCame came) {n : Nat}
    (short : (usable came).length < n) (source : List (Except String Block)) :
    draw n (came ++ source) =
      (draw (n - (usable came).length) source).after ((usable came).map digit) := by
  induction came generalizing n with
  | nil => exact (Drawing.after_nil _).symm
  | cons b came ih =>
      obtain ⟨⟨block, rfl⟩, others⟩ := List.forall_mem_cons.mp all
      have parts : usable (.ok block :: came) = usable [.ok block] ++ usable came :=
        usable_append [.ok block] came
      rw [parts, List.length_append] at short
      have whole : (digitsOf block).take n = (usable [.ok block]).map digit := by
        rw [digitsOf_eq, List.take_of_length_le]
        rw [List.length_map]
        omega
      have rest := ih others (n := n - (usable [.ok block]).length) (by omega)
      rw [List.cons_append, draw_block (by omega), whole, List.length_map, rest, Drawing.after_after,
        parts, List.map_append, List.length_append, Nat.sub_sub]

/-! ### Drawing from a source that never ends -/

def firstBlocks (source : Nat → Except String Block) (k : Nat) : List (Except String Block) :=
  (List.range k).map source

/-- Drawing asks for just so many blocks, and ends in this way. -/
structure Ends (n : Nat) (source : Nat → Except String Block) (k : Nat)
    (result : Except BotError String) : Prop where
  waits : ∀ j < k, newCode? n (firstBlocks source j) = none
  ends : ∀ j, k ≤ j → newCode? n (firstBlocks source j) = some result

/-- The code is complete with the `k`-th block, and not before. -/
structure Completed (n : Nat) (source : Nat → Except String Block) (k : Nat) : Prop where
  came : ∀ i < k, ∃ block, source i = .ok block
  short : ∀ j < k, (usable (firstBlocks source j)).length < n
  enough : n ≤ (usable (firstBlocks source k)).length

/-- After `k` blocks that do not complete the code, the next one fails to come. -/
structure BrokenOff (n : Nat) (source : Nat → Except String Block) (k : Nat) (reason : String) :
    Prop where
  came : ∀ i < k, ∃ block, source i = .ok block
  short : (usable (firstBlocks source k)).length < n
  failure : source k = .error reason

variable {n : Nat} {source : Nat → Except String Block} {k : Nat}

theorem firstBlocks_succ (source : Nat → Except String Block) (k : Nat) :
    firstBlocks source (k + 1) = firstBlocks source k ++ [source k] := by
  simp [firstBlocks, List.range_succ]

/-- More blocks of a source begin with fewer. -/
theorem firstBlocks_of_le (source : Nat → Except String Block) {j : Nat} (le : k ≤ j) :
    ∃ more, firstBlocks source j = firstBlocks source k ++ more := by
  induction j, le using Nat.le_induction with
  | base => exact ⟨[], (List.append_nil _).symm⟩
  | succ j _ ih =>
      obtain ⟨more, same⟩ := ih
      exact ⟨more ++ [source j], by rw [firstBlocks_succ, same, List.append_assoc]⟩

theorem usable_length_mono {j : Nat} (le : k ≤ j) :
    (usable (firstBlocks source k)).length ≤ (usable (firstBlocks source j)).length := by
  obtain ⟨more, same⟩ := firstBlocks_of_le source le
  rw [same, usable_append, List.length_append]
  exact Nat.le_add_right _ _

theorem allCame_firstBlocks (came : ∀ i < k, ∃ block, source i = .ok block) :
    AllCame (firstBlocks source k) := by
  intro b mem
  obtain ⟨i, below, rfl⟩ := List.mem_map.mp mem
  exact came i (List.mem_range.mp below)

/-- While digits are missing and no block has failed to come, another one is asked for. -/
theorem newCode?_firstBlocks_eq_none (came : ∀ i < k, ∃ block, source i = .ok block)
    (short : (usable (firstBlocks source k)).length < n) :
    newCode? n (firstBlocks source k) = none := by
  have positive : n ≠ 0 := by omega
  have starved := draw_append (allCame_firstBlocks came) short []
  rw [List.append_nil, draw_nil (Nat.sub_pos_of_lt short)] at starved
  rw [newCode?, if_neg positive, starved]
  rfl

/-- What is drawn once one more block is there than did not complete the code. -/
theorem draw_firstBlocks (came : ∀ i < k, ∃ block, source i = .ok block)
    (short : (usable (firstBlocks source k)).length < n) {j : Nat} (le : k + 1 ≤ j) :
    ∃ more, draw n (firstBlocks source j) =
      (draw (n - (usable (firstBlocks source k)).length) (source k :: more)).after
        ((usable (firstBlocks source k)).map digit) := by
  obtain ⟨more, same⟩ := firstBlocks_of_le source le
  refine ⟨more, ?_⟩
  rw [same, firstBlocks_succ, List.append_assoc]
  exact draw_append (allCame_firstBlocks came) short _

/-- Once the code is complete, drawing ends with the digits of the first bytes that give one. -/
theorem ends_completed (positive : 0 < n) (completed : Completed n source k) :
    Ends n source k (.ok (spell ((usable (firstBlocks source k)).take n))) := by
  obtain ⟨came, short, enough⟩ := completed
  refine ⟨fun j less => ?_, fun j le => ?_⟩
  · exact newCode?_firstBlocks_eq_none (fun i below => came i (below.trans less)) (short j less)
  · cases k with
    | zero => exact absurd (positive.trans_le enough) (Nat.lt_irrefl 0)
    | succ k =>
        obtain ⟨block, here⟩ := came k (Nat.lt_succ_self k)
        have missing := short k (Nat.lt_succ_self k)
        obtain ⟨more, drawn⟩ := draw_firstBlocks
          (fun i below => came i (Nat.lt_succ_of_lt below)) missing le
        rw [firstBlocks_succ, usable_append, here] at enough ⊢
        rw [List.length_append] at enough
        have rest : n - (usable (firstBlocks source k)).length ≤ (usable [.ok block]).length := by
          omega
        have last := draw_last (Nat.sub_pos_of_lt missing) rest more
        rw [here, last, Drawing.after, ← List.map_append] at drawn
        rw [newCode?, if_neg (by omega), drawn, List.take_append,
          List.take_of_length_le (Nat.le_of_lt missing)]
        rfl

/-- Once a block has failed to come, drawing ends with the reason. -/
theorem ends_brokenOff {reason : String} (failed : BrokenOff n source k reason) :
    Ends n source (k + 1) (.error (.otp reason)) := by
  obtain ⟨came, short, failure⟩ := failed
  refine ⟨fun j less => ?_, fun j le => ?_⟩
  · have le : j ≤ k := Nat.lt_succ_iff.mp less
    exact newCode?_firstBlocks_eq_none (fun i below => came i (below.trans_le le))
      ((usable_length_mono le).trans_lt short)
  · obtain ⟨more, drawn⟩ := draw_firstBlocks came short le
    rw [failure, draw_failure (Nat.sub_pos_of_lt short)] at drawn
    rw [newCode?, if_neg (by omega), drawn]
    rfl

/-- A source is asked for one number of blocks, and leads to one end. -/
theorem Ends.unique {j : Nat} {result result' : Except BotError String}
    (ends : Ends n source k result) (ends' : Ends n source j result') : k = j ∧ result = result' := by
  have not_less : ∀ {k j result result'}, Ends n source k result → Ends n source j result' →
      ¬ k < j := by
    intro k j result result' ends ends' less
    have waits := ends'.waits k less
    rw [ends.ends k (Nat.le_refl k)] at waits
    cases waits
  have same : k = j := Nat.le_antisymm (Nat.le_of_not_lt (not_less ends' ends))
    (Nat.le_of_not_lt (not_less ends ends'))
  subst same
  have answer := ends.ends k (Nat.le_refl k)
  rw [ends'.ends k (Nat.le_refl k)] at answer
  exact ⟨rfl, (Option.some.inj answer).symm⟩

/-- After any number of blocks, digits are missing and all blocks have come, or the code was complete
by then, or a block has failed to come. -/
theorem waits_or_ends (positive : 0 < n) (source : Nat → Except String Block) (k : Nat) :
    ((∀ i < k, ∃ block, source i = .ok block) ∧
      ∀ j ≤ k, (usable (firstBlocks source j)).length < n) ∨
    (∃ j ≤ k, Completed n source j) ∨ ∃ j < k, ∃ reason, BrokenOff n source j reason := by
  induction k with
  | zero =>
      refine .inl ⟨fun i below => absurd below (Nat.not_lt_zero i), fun j le => ?_⟩
      rw [Nat.le_zero.mp le]
      exact positive
  | succ k ih =>
      rcases ih with ⟨came, short⟩ | ⟨j, le, completed⟩ | ⟨j, less, failed⟩
      · cases next : source k with
        | error reason =>
            exact .inr (.inr ⟨k, Nat.lt_succ_self k, reason, came, short k (Nat.le_refl k), next⟩)
        | ok block =>
            have came : ∀ i < k + 1, ∃ block, source i = .ok block := by
              intro i below
              rcases Nat.lt_succ_iff_lt_or_eq.mp below with below | rfl
              · exact came i below
              · exact ⟨block, next⟩
            by_cases enough : n ≤ (usable (firstBlocks source (k + 1))).length
            · exact .inr (.inl ⟨k + 1, Nat.le_refl _, came,
                fun j less => short j (Nat.lt_succ_iff.mp less), enough⟩)
            · refine .inl ⟨came, fun j le => ?_⟩
              rcases Nat.le_succ_iff.mp le with le | rfl
              · exact short j le
              · exact Nat.lt_of_not_le enough
      · exact .inr (.inl ⟨j, Nat.le_succ_of_le le, completed⟩)
      · exact .inr (.inr ⟨j, Nat.lt_succ_of_lt less, failed⟩)

/-- Drawing that has ended has done so because the code was complete, or because a block has failed to
come. -/
theorem Ends.cases (positive : 0 < n) {result : Except BotError String}
    (ends : Ends n source k result) :
    (Completed n source k ∧ result = .ok (spell ((usable (firstBlocks source k)).take n))) ∨
      ∃ j reason, k = j + 1 ∧ BrokenOff n source j reason ∧ result = .error (.otp reason) := by
  rcases waits_or_ends positive source k with ⟨came, short⟩ | ⟨j, _, completed⟩ |
    ⟨j, _, reason, failed⟩
  · have waits := newCode?_firstBlocks_eq_none came (short k (Nat.le_refl k))
    rw [ends.ends k (Nat.le_refl k)] at waits
    cases waits
  · obtain ⟨rfl, same⟩ := ends.unique (ends_completed positive completed)
    exact .inl ⟨completed, same⟩
  · obtain ⟨same, result⟩ := ends.unique (ends_brokenOff failed)
    exact .inr ⟨j, reason, same, failed, result⟩

/-- Bytes from 250 on give no digit, and a block that comes after the code is complete does not matter. -/
example :
    newCode? 1 [.ok (Vector.replicate blockSize 250)] = none ∧
      newCode? 1 [.ok (Vector.replicate blockSize 250), .ok (Vector.replicate blockSize 249),
        .error "no entropy"] = some (.ok "9") := by
  constructor
  · cbv
  · cbv

end Registrar.Registration
