/-!
Plain text inside messages whose markup is HTML.

The four characters that markup is made of are written as entities. Main statements: the escaped text
holds no angle bracket and no quotation mark (`escape_safe`), and replacing the entities from left to
right gives back the text (`unescape_escape`).
-/

namespace Registrar.Markup

/-- A character as it stands in marked-up text. -/
def escapeChar : Char → List Char
  | '&' => "&amp;".toList
  | '<' => "&lt;".toList
  | '>' => "&gt;".toList
  | '"' => "&quot;".toList
  | c => [c]

/-- The characters of a text as they stand in marked-up text. -/
def escapeChars (cs : List Char) : List Char := cs.flatMap escapeChar

def escape (s : String) : String := String.ofList (escapeChars s.toList)

/-- Replaces the four entities from left to right. -/
def unescapeChars : List Char → List Char
  | '&' :: 'a' :: 'm' :: 'p' :: ';' :: cs => '&' :: unescapeChars cs
  | '&' :: 'l' :: 't' :: ';' :: cs => '<' :: unescapeChars cs
  | '&' :: 'g' :: 't' :: ';' :: cs => '>' :: unescapeChars cs
  | '&' :: 'q' :: 'u' :: 'o' :: 't' :: ';' :: cs => '"' :: unescapeChars cs
  | c :: cs => c :: unescapeChars cs
  | [] => []

theorem escapeChars_cons (c : Char) (cs : List Char) :
    escapeChars (c :: cs) = escapeChar c ++ escapeChars cs := rfl

theorem unescape_escapeChar_append (c : Char) (cs : List Char) :
    unescapeChars (escapeChar c ++ cs) = c :: unescapeChars cs := by
  unfold escapeChar
  split
  · simp [unescapeChars]
  · simp [unescapeChars]
  · simp [unescapeChars]
  · simp [unescapeChars]
  · rename_i hamp _ _ _
    rw [List.singleton_append, unescapeChars.eq_5]
    all_goals (intro _ h _; exact hamp h)

theorem unescape_escape (cs : List Char) : unescapeChars (escapeChars cs) = cs := by
  induction cs with
  | nil => rfl
  | cons c cs ih => rw [escapeChars_cons, unescape_escapeChar_append, ih]

theorem escape_safe {cs : List Char} {c : Char} (h : c ∈ escapeChars cs) :
    c ≠ '<' ∧ c ≠ '>' ∧ c ≠ '"' := by
  obtain ⟨d, _, hd⟩ := List.mem_flatMap.1 h
  unfold escapeChar at hd
  split at hd
  · revert hd; simp; rintro (rfl | rfl | rfl | rfl | rfl) <;> decide
  · revert hd; simp; rintro (rfl | rfl | rfl | rfl) <;> decide
  · revert hd; simp; rintro (rfl | rfl | rfl | rfl) <;> decide
  · revert hd; simp; rintro (rfl | rfl | rfl | rfl | rfl | rfl) <;> decide
  · rename_i h₁ h₂ h₃ h₄
    have : c = d := by simpa using hd
    subst this
    exact ⟨h₂, h₃, h₄⟩

end Registrar.Markup
