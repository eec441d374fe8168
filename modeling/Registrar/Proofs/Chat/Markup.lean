import Registrar.Chat.Markup
import Mathlib.Data.List.Infix

/-!
What a reader of markup finds in a text.

An escaped text is literal: nothing in it begins or ends a tag, and every ampersand in it begins one of
the four entities. Tags can then only come from what is put around it, and since the entities are
replaced from left to right, what is read is what was escaped.

* `literal_escape`, `unescape_escape_text`: what escaping gives, and that it is undone.
* `tags_bold`: the tags around a literal text, and no others.
-/

namespace Registrar.Markup

def entities : List String := ["&amp;", "&lt;", "&gt;", "&quot;"]

/-- Characters that hold no markup: no angle bracket and no quotation mark, and every ampersand begins an
entity. -/
structure Literal (cs : List Char) : Prop where
  bare : ∀ c ∈ cs, c ≠ '<' ∧ c ≠ '>' ∧ c ≠ '"'
  entity : ∀ after, '&' :: after <:+ cs → ∃ e ∈ entities, e.toList <+: '&' :: after

/-- The text that a reader sees: the entities are replaced from left to right. -/
def unescape (s : String) : String := String.ofList (unescapeChars s.toList)

/-- The tags in a text with markup: behind every opening bracket, what stands before the next closing
one. -/
def tags (html : String) : List String :=
  (html.toList.splitOn '<').tail.map fun part => String.ofList (part.takeWhile (· ≠ '>'))

/-! ### Escaped texts -/

/-- A character is written as one of the entities, or as itself if it is no ampersand. -/
theorem escapeChar_cases (c : Char) :
    (∃ e ∈ entities, escapeChar c = e.toList) ∨ c ≠ '&' ∧ escapeChar c = [c] := by
  unfold escapeChar
  split
  · exact .inl ⟨"&amp;", by decide, rfl⟩
  · exact .inl ⟨"&lt;", by decide, rfl⟩
  · exact .inl ⟨"&gt;", by decide, rfl⟩
  · exact .inl ⟨"&quot;", by decide, rfl⟩
  · rename_i other _ _ _
    exact .inr ⟨other, rfl⟩

/-- The ampersand in an entity is its first character. -/
theorem eq_nil_of_mem_entities {e : String} (mem : e ∈ entities) {before rest : List Char}
    (split : e.toList = before ++ '&' :: rest) : before = [] := by
  have first : ∀ e ∈ entities, '&' ∉ e.toList.tail := by decide
  cases before with
  | nil => rfl
  | cons b before =>
      refine absurd ?_ (first e mem)
      rw [split]
      exact List.mem_append_right before List.mem_cons_self

/-- What begins with an ampersand inside a character that is written is a whole entity. -/
theorem entity_of_escapeChar {c : Char} {before rest : List Char}
    (split : escapeChar c = before ++ '&' :: rest) : ∃ e ∈ entities, e.toList = '&' :: rest := by
  rcases escapeChar_cases c with ⟨e, mem, written⟩ | ⟨other, itself⟩
  · have whole := written.symm.trans split
    rw [eq_nil_of_mem_entities mem whole] at whole
    exact ⟨e, mem, whole⟩
  · have ampersand : '&' ∈ [c] := by
      rw [← itself, split]
      exact List.mem_append_right before List.mem_cons_self
    exact absurd (List.mem_singleton.mp ampersand).symm other

theorem entity_of_escapeChars {cs after : List Char} (suffix : '&' :: after <:+ escapeChars cs) :
    ∃ e ∈ entities, e.toList <+: '&' :: after := by
  induction cs with
  | nil => cases List.suffix_nil.mp suffix
  | cons c cs ih =>
      obtain ⟨before, split⟩ := suffix
      rw [escapeChars_cons] at split
      rcases List.append_eq_append_iff.mp split with ⟨rest, front, tail⟩ | ⟨rest, _, tail⟩
      · rcases List.cons_eq_append_iff.mp tail with ⟨_, here⟩ | ⟨rest', rfl, rfl⟩
        · exact ih ⟨[], here.symm⟩
        · -- The ampersand stands in what is written for `c`.
          obtain ⟨e, mem, whole⟩ := entity_of_escapeChar front
          exact ⟨e, mem, whole ▸ List.prefix_append _ _⟩
      · exact ih ⟨rest, tail.symm⟩

theorem literal_escape (s : String) : Literal (escape s).toList := by
  rw [escape, String.toList_ofList]
  exact ⟨fun _ => escape_safe, fun _ => entity_of_escapeChars⟩

theorem unescape_escape_text (s : String) : unescape (escape s) = s := by
  rw [unescape, escape, String.toList_ofList, unescape_escape, String.ofList_toList]

/-! ### Tags -/

/-- The tags around a text without brackets are the only ones if there is no bracket before and after
them. -/
theorem tags_bold {before shown after : String} (free : '<' ∉ before.toList)
    (free' : '<' ∉ shown.toList) (free'' : '<' ∉ after.toList) :
    tags (before ++ "<b>" ++ shown ++ "</b>" ++ after) = ["b", "/b"] := by
  have split : (before ++ "<b>" ++ shown ++ "</b>" ++ after).toList = before.toList ++
      '<' :: (['b', '>'] ++ shown.toList ++ '<' :: (['/', 'b', '>'] ++ after.toList)) := by
    simp [String.toList_append]
  have parts : (before ++ "<b>" ++ shown ++ "</b>" ++ after).toList.splitOn '<' =
      [before.toList, ['b', '>'] ++ shown.toList, ['/', 'b', '>'] ++ after.toList] := by
    rw [split, List.splitOn_append_cons_self_of_not_mem free,
      List.splitOn_append_cons_self_of_not_mem (by simpa using free'),
      List.splitOn_eq_singleton (by simpa using free'')]
  rw [tags, parts]
  rfl

end Registrar.Markup
