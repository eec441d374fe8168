import Registrar.Registration.Code
import Registrar.Chat.Message
import Mathlib.Data.String.Basic

/-!
What a verification code looks like.

* `newCode?_spec`: it consists of as many digits as were asked for.
* `commandName_eq_none`: so no text that comes to a code is a command.
-/

namespace Registrar.Registration

theorem isDigit_of_digitOf {b : UInt8} {c : Char} (digit : digitOf b = some c) :
    c.isDigit = true := by
  unfold digitOf at digit
  split at digit
  · obtain rfl := Option.some.inj digit
    have small : b.toNat % 10 < 10 := Nat.mod_lt _ (by decide)
    generalize b.toNat % 10 = n at small
    have all : ∀ n < 10, (Char.ofNat ('0'.toNat + n)).isDigit = true := by decide
    exact all n small
  · cases digit

/-- A code that was drawn has the digits that were asked for. -/
theorem draw_spec {n : Nat} {source rest : List (Except String Block)} {code : List Char}
    (drawn : draw n source = .drawn code rest) :
    code.length = n ∧ ∀ c ∈ code, c.isDigit = true := by
  fun_induction draw n source generalizing code with
  | case1 source =>
      cases drawn
      exact ⟨rfl, by simp⟩
  | case2 => cases drawn
  | case3 => cases drawn
  | case4 n block source digits more left found =>
      rename_i ih
      cases drawn
      obtain ⟨length, isDigit⟩ := ih found
      have short : digits.length ≤ n + 1 := List.length_take_le _ _
      refine ⟨by rw [List.length_append, length]; omega, fun c mem => ?_⟩
      rcases List.mem_append.mp mem with mem | mem
      · obtain ⟨b, _, digit⟩ := List.mem_filterMap.mp (List.mem_of_mem_take mem)
        exact isDigit_of_digitOf digit
      · exact isDigit c mem
  | case5 n block source digits other => exact absurd drawn (other code rest)

/-- Digits take one byte each. -/
theorem utf8Len_digits {cs : List Char} (digits : ∀ c ∈ cs, c.isDigit = true) :
    String.utf8Len cs = cs.length := by
  induction cs with
  | nil => rfl
  | cons c cs ih =>
      obtain ⟨digit, digits⟩ := List.forall_mem_cons.mp digits
      have ascii : c.utf8Size = 1 := by
        have bounds : '0' ≤ c ∧ c ≤ '9' := by
          simpa [Char.isDigit, Char.le_def] using digit
        rw [Char.utf8Size_eq_one_iff]
        exact Nat.le_trans bounds.2 (by decide)
      rw [String.utf8Len_cons, ih digits, ascii, List.length_cons]

/-- A new code consists of as many digits as were asked for, each a single byte. -/
theorem newCode?_spec {length : Nat} {source : List (Except String Block)} {code : String}
    (drawn : newCode? length source = some (.ok code)) :
    code.utf8ByteSize = length ∧ ∀ c ∈ code.toList, c.isDigit = true := by
  unfold newCode? at drawn
  split at drawn
  · cases drawn
  · split at drawn
    · rename_i cs rest found
      obtain ⟨count, digits⟩ := draw_spec found
      cases drawn
      rw [← String.utf8Len_toList, String.toList_ofList]
      exact ⟨(utf8Len_digits digits).trans count, digits⟩
    · cases drawn
    · cases drawn

/-- A text that is a number but for white space around it is no command. -/
theorem commandName_eq_none {s : String} (digits : ∀ c ∈ (Text.trim s).toList, c.isDigit = true) :
    commandName s.toList = none := by
  cases command : commandName s.toList with
  | none => rfl
  | some name =>
      obtain ⟨_, _, r, slash, _⟩ := commandName_eq_some_iff.mp command
      obtain ⟨before, after, split, blank, blank'⟩ := Text.trim_spec s
      have mem : '/' ∈ s.toList := by simp [slash]
      rw [split, List.mem_append, List.mem_append] at mem
      rw [List.all_eq_true] at blank blank'
      rcases mem with (white | digit) | white
      · exact absurd (blank _ white) (by decide)
      · exact absurd (digits _ digit) (by decide)
      · exact absurd (blank' _ white) (by decide)

end Registrar.Registration
