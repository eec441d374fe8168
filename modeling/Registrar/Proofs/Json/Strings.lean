import Registrar.Json.Parser
import Mathlib.Tactic.IntervalCases

/-!
JSON strings read back as they were written.

A character is written as itself or as an escape, and the reader passes either in one step
(`readChars_escapeChar`), the control characters with no short name included, whose escape gives
their number in four hexadecimal digits.

* `readString_quote`: a quoted string in front of any text reads as the string.
* `parse_print_string`: as a text of its own, too.
-/

namespace Registrar.Json

/-- The escape that gives a number below 32 reads as the character with that number. -/
theorem readCodePoint_control {n : Nat} (control : n < 0x20) (rest : List Char) :
    readCodePoint ('0' :: '0' :: hexDigit (n / 16) :: hexDigit (n % 16) :: rest) =
      .ok (Char.ofNat n, rest) := by
  interval_cases n <;> rfl

/-- Reading passes a backslash and what it escapes in one step. -/
theorem readChars_backslash {escaped rest : List Char} {c : Char}
    (escape : readEscape escaped = .ok (c, rest)) (fuel : Nat) :
    readChars (fuel + 1) ('\\' :: escaped) =
      (readChars fuel rest).map fun r => (c :: r.1, r.2) := by
  rw [readChars, if_neg (by decide), if_pos rfl, escape]
  simp only [bind, Except.bind]
  cases readChars fuel rest <;> rfl

/-- Reading passes a character, however it is written, in one step. -/
theorem readChars_escapeChar (fuel : Nat) (c : Char) (rest : List Char) :
    readChars (fuel + 1) (escapeChar c ++ rest) =
      (readChars fuel rest).map fun r => (c :: r.1, r.2) := by
  unfold escapeChar
  split
  · rename_i quote
    subst quote
    exact readChars_backslash rfl fuel
  split
  · rename_i backslash
    subst backslash
    exact readChars_backslash rfl fuel
  split
  · rename_i not_quote not_backslash printable
    rw [List.singleton_append, readChars, if_neg not_quote, if_neg not_backslash,
      if_neg (Nat.not_lt.mpr printable)]
    simp only [bind, Except.bind]
    cases readChars fuel rest <;> rfl
  rename_i control
  split
  · rename_i newline
    subst newline
    exact readChars_backslash rfl fuel
  split
  · rename_i carriage_return
    subst carriage_return
    exact readChars_backslash rfl fuel
  split
  · rename_i tab
    subst tab
    exact readChars_backslash rfl fuel
  split
  · rename_i number
    have same : c = '\x08' := by rw [← Char.ofNat_toNat c, number]
    subst same
    exact readChars_backslash rfl fuel
  split
  · rename_i number
    have same : c = '\x0c' := by rw [← Char.ofNat_toNat c, number]
    subst same
    exact readChars_backslash rfl fuel
  · refine readChars_backslash ?_ fuel
    have read := readCodePoint_control (Nat.lt_of_not_le control) rest
    rw [Char.ofNat_toNat] at read
    exact read

theorem readChars_flatMap (cs rest : List Char) {fuel : Nat} (enough : cs.length < fuel) :
    readChars fuel (cs.flatMap escapeChar ++ '"' :: rest) = .ok (cs, rest) := by
  induction cs generalizing fuel with
  | nil =>
      obtain ⟨fuel, rfl⟩ := Nat.exists_eq_succ_of_ne_zero (Nat.ne_of_gt enough)
      rw [List.flatMap_nil, List.nil_append, readChars, if_pos rfl]
  | cons c cs ih =>
      obtain ⟨fuel, rfl⟩ := Nat.exists_eq_succ_of_ne_zero (Nat.ne_of_gt (Nat.zero_lt_of_lt enough))
      rw [List.flatMap_cons, List.append_assoc, readChars_escapeChar,
        ih (Nat.lt_of_succ_lt_succ enough)]
      rfl

theorem length_le_length_flatMap (cs : List Char) :
    cs.length ≤ (cs.flatMap escapeChar).length := by
  induction cs with
  | nil => exact Nat.le_refl 0
  | cons c cs ih =>
      have one : 1 ≤ (escapeChar c).length := by
        unfold escapeChar
        repeat' split
        all_goals simp
      rw [List.flatMap_cons, List.length_append, List.length_cons]
      omega

/-- A quoted string in front of any text reads as the string. -/
theorem readString_quote (s : String) (rest : List Char) :
    readString (s.toList.flatMap escapeChar ++ '"' :: rest) = .ok (s, rest) := by
  have enough : s.toList.length < (s.toList.flatMap escapeChar ++ '"' :: rest).length := by
    have := length_le_length_flatMap s.toList
    rw [List.length_append, List.length_cons]
    omega
  simp only [readString, readChars_flatMap s.toList rest enough]
  simp [bind, Except.bind]

/-- A string is read back as it was written. -/
theorem parse_print_string (s : String) : parse (string s).print = .ok (string s) := by
  have text : (string s).print.toList = '"' :: (s.toList.flatMap escapeChar ++ ['"']) := by
    simp [print, printChars, quote]
  rw [parse, text, parseChars]
  have read : readValue (3 * ('"' :: (s.toList.flatMap escapeChar ++ ['"'])).length + 3) depthLimit
      ('"' :: (s.toList.flatMap escapeChar ++ ['"'])) = .ok (string s, []) := by
    rw [readValue]
    simp only [skipBlanks, List.dropWhile, isBlankChar]
    simp [readString_quote, bind, Except.bind]
  rw [read]
  rfl

end Registrar.Json
