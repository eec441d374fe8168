import Registrar.Proofs.Text.ByteOrder
import Registrar.Url.Percent
import Mathlib.Data.List.Flatten

/-!
Which texts percent decoding leaves as they are.

An escape, a percent sign before two hexadecimal digits, is decoded to a single byte; everything else
stands for itself. So decoding never makes a text longer, and it makes a text shorter as soon as there
is an escape in it.

* `length_decodeBytes_le`, `length_decodeBytes_lt`: what decoding does to the number of bytes.
* `decode?_eq_self_iff`: a text is decoded to itself exactly if there is no escape in it.
-/

namespace Registrar.Percent

open Text (hexDigit?)

/-- Somewhere in the text a percent sign stands before two hexadecimal digits. -/
def HasEscape (cs : List Char) : Prop :=
  ∃ before a b after, cs = before ++ '%' :: a :: b :: after ∧
    (hexDigit? a).isSome = true ∧ (hexDigit? b).isSome = true

/-- The number of bytes of a text that is not decoded. -/
def plainLength (cs : List Char) : Nat := (cs.flatMap String.utf8EncodeChar).length

theorem plainLength_cons (c : Char) (cs : List Char) :
    plainLength (c :: cs) = c.utf8Size + plainLength cs := by
  rw [plainLength, List.flatMap_cons, List.length_append, String.length_utf8EncodeChar, plainLength]

theorem plainLength_append (cs ds : List Char) :
    plainLength (cs ++ ds) = plainLength cs + plainLength ds := by
  rw [plainLength, List.flatMap_append, List.length_append, plainLength, plainLength]

theorem plainLength_le_of_sublist {cs ds : List Char} (sub : cs.Sublist ds) :
    plainLength cs ≤ plainLength ds :=
  (sub.flatMap String.utf8EncodeChar).length_le

theorem length_bytes (s : String) : (Text.bytes s).length = plainLength s.toList := by
  rw [Text.bytes_eq, plainLength]

/-! ### Escapes -/

def startsEscape : List Char → Bool
  | '%' :: a :: b :: _ => (hexDigit? a).isSome && (hexDigit? b).isSome
  | _ => false

theorem startsEscape_iff {cs : List Char} :
    startsEscape cs = true ↔ ∃ a b after, cs = '%' :: a :: b :: after ∧
      (hexDigit? a).isSome = true ∧ (hexDigit? b).isSome = true := by
  constructor
  · intro starts
    unfold startsEscape at starts
    split at starts
    · exact ⟨_, _, _, rfl, Bool.and_eq_true_iff.mp starts⟩
    · cases starts
  · rintro ⟨a, b, after, rfl, digits⟩
    exact Bool.and_eq_true_iff.mpr digits

/-- An escape is at the beginning of a text or behind its first character. -/
theorem hasEscape_cons_iff {c : Char} {cs : List Char} :
    HasEscape (c :: cs) ↔ startsEscape (c :: cs) = true ∨ HasEscape cs := by
  rw [startsEscape_iff]
  constructor
  · rintro ⟨before, a, b, after, text, digits⟩
    cases before with
    | nil => exact .inl ⟨a, b, after, text, digits⟩
    | cons d before => exact .inr ⟨before, a, b, after, (List.cons.inj text).2, digits⟩
  · rintro (⟨a, b, after, text, digits⟩ | ⟨before, a, b, after, rfl, digits⟩)
    · exact ⟨[], a, b, after, text, digits⟩
    · exact ⟨c :: before, a, b, after, rfl, digits⟩

theorem not_hasEscape_nil : ¬ HasEscape [] := by
  rintro ⟨before, a, b, after, text, _⟩
  exact List.append_ne_nil_of_right_ne_nil before (List.cons_ne_nil _ _) text.symm

instance decidableHasEscape : DecidablePred HasEscape
  | [] => isFalse not_hasEscape_nil
  | _ :: cs =>
    have := decidableHasEscape cs
    decidable_of_iff _ hasEscape_cons_iff.symm

/-- Decoding never makes a text longer. -/
theorem length_decodeBytes_le (cs : List Char) : (decodeBytes cs).length ≤ plainLength cs := by
  fun_induction decodeBytes cs with
  | case1 a b cs x y _ _ ih =>
      have one := a.utf8Size_pos
      have other := b.utf8Size_pos
      rw [List.length_cons, plainLength_cons, plainLength_cons, plainLength_cons]
      omega
  | case2 a b cs _ ih =>
      have sign := '%'.utf8Size_pos
      rw [List.length_cons, plainLength_cons]
      omega
  | case3 c cs _ ih =>
      rw [List.length_append, String.length_utf8EncodeChar, plainLength_cons]
      omega
  | case4 => exact Nat.zero_le _

/-- An escape makes it shorter. -/
theorem length_decodeBytes_lt {cs : List Char} (escape : HasEscape cs) :
    (decodeBytes cs).length < plainLength cs := by
  fun_induction decodeBytes cs with
  | case1 a b cs x y _ _ _ =>
      have least := length_decodeBytes_le cs
      have one := a.utf8Size_pos
      have other := b.utf8Size_pos
      have sign := '%'.utf8Size_pos
      rw [List.length_cons, plainLength_cons, plainLength_cons, plainLength_cons]
      omega
  | case2 a b cs neither ih =>
      have sign := '%'.utf8Size_pos
      rcases hasEscape_cons_iff.mp escape with starts | escape
      · obtain ⟨digit, digit'⟩ := Bool.and_eq_true_iff.mp starts
        obtain ⟨x, value⟩ := Option.isSome_iff_exists.mp digit
        obtain ⟨y, value'⟩ := Option.isSome_iff_exists.mp digit'
        exact absurd value' (neither x y value)
      · have shorter := ih escape
        rw [List.length_cons, plainLength_cons]
        omega
  | case3 c cs other ih =>
      rcases hasEscape_cons_iff.mp escape with starts | escape
      · obtain ⟨a, b, after, text, _⟩ := startsEscape_iff.mp starts
        obtain ⟨sign, rest⟩ := List.cons.inj text
        exact absurd rest (other a b after sign)
      · have shorter := ih escape
        rw [List.length_append, String.length_utf8EncodeChar, plainLength_cons]
        omega
  | case4 => exact absurd escape not_hasEscape_nil

/-- Without an escape every character stands for itself. -/
theorem decodeBytes_of_plain {cs : List Char} (plain : ¬ HasEscape cs) :
    decodeBytes cs = cs.flatMap String.utf8EncodeChar := by
  fun_induction decodeBytes cs with
  | case1 a b cs x y value value' _ =>
      exact absurd ⟨[], a, b, cs, rfl, by rw [value']; rfl, by rw [value]; rfl⟩ plain
  | case2 a b cs _ ih =>
      rw [List.flatMap_cons, ← ih fun escape => plain (hasEscape_cons_iff.mpr (.inr escape))]
      rfl
  | case3 c cs _ ih =>
      rw [List.flatMap_cons, ← ih fun escape => plain (hasEscape_cons_iff.mpr (.inr escape))]
  | case4 => rfl

/-! ### Texts -/

theorem textOfBytes?_bytes (s : String) : textOfBytes? (Text.bytes s) = some s := by
  have whole : (⟨(Text.bytes s).toArray⟩ : ByteArray) = s.toByteArray := rfl
  rw [textOfBytes?, whole, String.fromUTF8?, dif_pos s.isValidUTF8]
  rfl

theorem bytes_of_textOfBytes? {bytes : List UInt8} {t : String} (text : textOfBytes? bytes = some t) :
    Text.bytes t = bytes := by
  unfold textOfBytes? String.fromUTF8? at text
  split at text
  · cases text
    rfl
  · cases text

/-- A text is decoded to one of at most as many bytes. -/
theorem plainLength_of_decode? {cs : List Char} {t : String} (decoded : decode? cs = some t) :
    plainLength t.toList ≤ plainLength cs := by
  rw [← length_bytes, bytes_of_textOfBytes? decoded]
  exact length_decodeBytes_le cs

/-- A text is decoded to itself exactly if there is no escape in it. -/
theorem decode?_eq_self_iff {s : String} : decode? s.toList = some s ↔ ¬ HasEscape s.toList := by
  constructor
  · intro decoded escape
    have shorter := length_decodeBytes_lt escape
    rw [← bytes_of_textOfBytes? decoded, length_bytes] at shorter
    exact Nat.lt_irrefl _ shorter
  · intro plain
    rw [decode?, decodeBytes_of_plain plain, ← Text.bytes_eq, textOfBytes?_bytes]

end Registrar.Percent
