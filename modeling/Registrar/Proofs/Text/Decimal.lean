import Registrar.Text.Decimal
import Registrar.Text.WhiteSpace
import Mathlib.Data.String.Basic

/-!
Whole numbers read back as they were written.

A number is written as its sign and the digits of its magnitude (`toList_toString`), so that nothing
else stands in its text (`eq_or_isDigit_of_mem_toString`), and the strict reader takes it for what it
is as long as it lies between the bounds (`readInteger_toString`).
-/

namespace Registrar.Text

/-- An integer is written as its sign and the digits of its magnitude. -/
theorem toList_toString (n : Int) :
    (toString n).toList = (if n < 0 then ['-'] else []) ++ Nat.toDigits 10 n.natAbs := by
  rw [Int.toString_eq_repr, Int.repr_eq_if]
  split
  · rename_i sign
    rw [if_neg (Int.not_lt.mpr sign), Nat.toList_repr, List.nil_append]
    congr 1
    omega
  · rename_i sign
    rw [if_pos (Int.not_le.mp sign), String.toList_append, Nat.toList_repr]
    congr 2
    omega

/-- A number is written in digits, perhaps behind a minus sign. -/
theorem eq_or_isDigit_of_mem_toString {n : Int} {c : Char} (mem : c ∈ (toString n).toList) :
    c = '-' ∨ c.isDigit = true := by
  rw [toList_toString] at mem
  rcases List.mem_append.mp mem with sign | digit
  · split at sign
    · exact .inl (List.mem_singleton.mp sign)
    · cases sign
  · exact .inr (Nat.isDigit_of_mem_toDigits (by decide) (by decide) digit)

theorem bounds_of_isDigit {c : Char} (digit : c.isDigit = true) : '0' ≤ c ∧ c ≤ '9' := by
  simpa [Char.isDigit, Char.le_def] using digit

/-- A digit is no white space. -/
theorem not_isWhiteSpace_of_isDigit {c : Char} (digit : c.isDigit = true) :
    isWhiteSpace c = false := by
  have range : 48 ≤ c.toNat ∧ c.toNat ≤ 57 := bounds_of_isDigit digit
  simp only [isWhiteSpace, Bool.or_eq_false_iff, Bool.and_eq_false_iff, decide_eq_false_iff_not,
    beq_eq_false_iff_ne]
  omega

theorem digit?_of_isDigit {c : Char} (digit : c.isDigit = true) :
    digit? c = some (c.toNat - '0'.toNat) :=
  if_pos (bounds_of_isDigit digit)

theorem continueDigits_digits {ds : List Char} (digits : ∀ c ∈ ds, c.isDigit = true) (acc : Nat) :
    continueDigits acc ds = some (Nat.ofDigitChars 10 ds acc) := by
  induction ds generalizing acc with
  | nil => rfl
  | cons c ds ih =>
      obtain ⟨digit, digits⟩ := List.forall_mem_cons.mp digits
      simp only [continueDigits, digit?_of_isDigit digit]
      rw [ih digits, Nat.ofDigitChars_cons]

theorem readDigits_toDigits (n : Nat) : readDigits (Nat.toDigits 10 n) = some n := by
  have digits : ∀ c ∈ Nat.toDigits 10 n, c.isDigit = true := fun c =>
    Nat.isDigit_of_mem_toDigits (by decide) (by decide)
  have read := continueDigits_digits digits 0
  rw [Nat.ofDigitChars_ten_toDigits] at read
  cases front : Nat.toDigits 10 n with
  | nil => exact absurd front Nat.toDigits_ne_nil
  | cons c cs => rwa [front] at read

/-- An integer between the bounds is read back as it was written. -/
theorem readInteger_toString {limit : Nat} {n : Int} (lower : -(limit : Int) ≤ n)
    (upper : n < limit) : readInteger limit (toString n) = some n := by
  have inside : (fun n : Int => decide (-(limit : Int) ≤ n) && decide (n < limit)) n = true := by
    simp [lower, upper]
  unfold readInteger
  rw [toList_toString]
  by_cases sign : n < 0
  · have value : -((n.natAbs : Nat) : Int) = n := by omega
    simp only [if_pos sign, List.singleton_append, readDigits_toDigits, Option.map_some,
      Int.ofNat_eq_natCast, value]
    exact Option.filter_some_pos inside
  · have value : ((n.natAbs : Nat) : Int) = n := by omega
    have read : (readDigits (Nat.toDigits 10 n.natAbs)).map Int.ofNat = some n := by
      rw [readDigits_toDigits, Option.map_some, Int.ofNat_eq_natCast, value]
    rw [if_neg sign, List.nil_append]
    -- A number without a sign begins with a digit, so the reader does not look for a sign there.
    have first : ∀ c cs, Nat.toDigits 10 n.natAbs = c :: cs → c.isDigit = true := fun c cs front =>
      Nat.isDigit_of_mem_toDigits (b := 10) (by decide) (by decide) (front ▸ List.mem_cons_self)
    split
    · rename_i cs front
      cases first '+' cs front
    · rename_i cs front
      cases first '-' cs front
    · rw [read]
      exact Option.filter_some_pos inside

end Registrar.Text
