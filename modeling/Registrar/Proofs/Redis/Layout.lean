import Registrar.Proofs.Text.Decimal
import Registrar.Redis.Store
import Mathlib

/-!
The keys that a store on a server uses.

A key is a prefix, the kind of what is stored, and the two numbers of the conversation, each behind a
colon. A number has no colon in it, so a key is taken apart from its end, whatever the prefix is.

* `display_inj_of_colon`: what stands before a conversation that is shown, and the conversation, are
  read off the text.
* `stateKey_inj`, `scratchKey_inj`: no two conversations share a key, and no two prefixes do.
* `stateKey_ne_scratchKey`: nor do a state and scratch fields.
* `keys_unambiguous`: a key tells whose it is, under which prefix, and of which kind.
-/

namespace Registrar

/-- Where a list is divided by the last of its separators. -/
theorem append_cons_inj_of_notMem_right {α : Type} {a : α} {x x' y y' : List α} (free : a ∉ y)
    (free' : a ∉ y') (same : x ++ a :: y = x' ++ a :: y') : x = x' ∧ y = y' := by
  rcases List.append_eq_append_iff.mp same with ⟨l, rfl, rest⟩ | ⟨l, rfl, rest⟩
  · rcases List.cons_eq_append_iff.mp rest with ⟨rfl, last⟩ | ⟨l', rfl, rfl⟩
    · exact ⟨(List.append_nil x).symm, (List.cons.inj last).2.symm⟩
    · exact absurd (List.mem_append_right l' List.mem_cons_self) free
  · rcases List.cons_eq_append_iff.mp rest with ⟨rfl, last⟩ | ⟨l', rfl, rfl⟩
    · exact ⟨List.append_nil x', (List.cons.inj last).2⟩
    · exact absurd (List.mem_append_right l' List.mem_cons_self) free'

/-- A number has no colon in it. -/
theorem colon_notMem_repr (n : Int) : ':' ∉ (toString n).toList := by
  intro mem
  rcases Text.eq_or_isDigit_of_mem_toString mem with sign | digit
  · exact absurd sign (by decide)
  · exact absurd digit (by decide)

namespace Conversation

variable {c c' : Conversation}

theorem toList_display (c : Conversation) :
    c.display.toList = (toString c.chat.toInt).toList ++ ':' :: (toString c.user.toInt).toList := by
  simp [display, String.toList_append]

/-- What stands before the last two numbers, and these. -/
theorem display_inj_of_colon {p p' : List Char}
    (same : p ++ ':' :: c.display.toList = p' ++ ':' :: c'.display.toList) : p = p' ∧ c = c' := by
  rw [toList_display, toList_display, ← List.cons_append, ← List.append_assoc, ← List.cons_append,
    ← List.append_assoc] at same
  obtain ⟨front, user⟩ := append_cons_inj_of_notMem_right (colon_notMem_repr _)
    (colon_notMem_repr _) same
  obtain ⟨start, chat⟩ := append_cons_inj_of_notMem_right (colon_notMem_repr _)
    (colon_notMem_repr _) front
  have read : ∀ {n n' : Int64}, (toString n.toInt).toList = (toString n'.toInt).toList → n = n' := by
    intro n n' texts
    rw [Int.toString_eq_repr, Int.toString_eq_repr] at texts
    exact Int64.toInt_inj.mp (Int.repr_inj.mp (String.toList_inj.mp texts))
  refine ⟨start, ?_⟩
  cases c
  cases c'
  rw [mk.injEq]
  exact ⟨read chat, read user⟩

end Conversation

namespace Redis.Store

variable {s s' : Store} {c c' : Conversation}

theorem toList_stateKey (s : Store) (c : Conversation) : (s.stateKey c).toList =
    (s.keyPrefix.toList ++ "state".toList) ++ ':' :: c.display.toList := by
  simp [stateKey, String.toList_append]

theorem toList_scratchKey (s : Store) (c : Conversation) : (s.scratchKey c).toList =
    (s.keyPrefix.toList ++ "data".toList) ++ ':' :: c.display.toList := by
  simp [scratchKey, String.toList_append]

/-- No two conversations share the key of their states, and no two prefixes do. -/
theorem stateKey_inj (same : s.stateKey c = s'.stateKey c') :
    s.keyPrefix = s'.keyPrefix ∧ c = c' := by
  have texts := congrArg String.toList same
  rw [toList_stateKey, toList_stateKey] at texts
  obtain ⟨front, own⟩ := Conversation.display_inj_of_colon texts
  exact ⟨String.toList_inj.mp (List.append_cancel_right front), own⟩

/-- Nor the key of their scratch fields. -/
theorem scratchKey_inj (same : s.scratchKey c = s'.scratchKey c') :
    s.keyPrefix = s'.keyPrefix ∧ c = c' := by
  have texts := congrArg String.toList same
  rw [toList_scratchKey, toList_scratchKey] at texts
  obtain ⟨front, own⟩ := Conversation.display_inj_of_colon texts
  exact ⟨String.toList_inj.mp (List.append_cancel_right front), own⟩

/-- A state and scratch fields never share a key: the kinds end in different letters. -/
theorem stateKey_ne_scratchKey (s s' : Store) (c c' : Conversation) :
    s.stateKey c ≠ s'.scratchKey c' := by
  intro same
  have texts := congrArg String.toList same
  rw [toList_stateKey, toList_scratchKey] at texts
  have front := (Conversation.display_inj_of_colon texts).1
  have last := congrArg List.getLast? front
  simp at last

/-- Whatever the prefixes of two stores are, also where one looks like the beginning of a key of the
other: two of their keys are the same only if they are of the same kind, for the same conversation
and under the same prefix. -/
theorem keys_unambiguous (s s' : Store) (c c' : Conversation) :
    (s.stateKey c = s'.stateKey c' ↔ s.keyPrefix = s'.keyPrefix ∧ c = c') ∧
      (s.scratchKey c = s'.scratchKey c' ↔ s.keyPrefix = s'.keyPrefix ∧ c = c') ∧
      s.stateKey c ≠ s'.scratchKey c' := by
  refine ⟨⟨stateKey_inj, ?_⟩, ⟨scratchKey_inj, ?_⟩, stateKey_ne_scratchKey s s' c c'⟩
  · rintro ⟨samePrefix, rfl⟩
    rw [stateKey, stateKey, samePrefix]
  · rintro ⟨samePrefix, rfl⟩
    rw [scratchKey, scratchKey, samePrefix]

/-- One prefix ends in what looks like the key of another conversation, and the chat is a group. -/
example : (⟨"fsm:state:1:", 1000⟩ : Store).stateKey ⟨-100, 7⟩ = "fsm:state:1:state:-100:7" := by
  rfl

end Redis.Store

end Registrar
