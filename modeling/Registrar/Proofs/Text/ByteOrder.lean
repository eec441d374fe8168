import Mathlib.Data.String.Basic

/-!
Texts in the order of their bytes.

Texts are compared character by character. In UTF-8 a greater character has a greater encoding, and
not one that only goes on where the smaller one stops; so texts are in the same order as their bytes.

* `encodeChar_lt`: the encodings of two characters are told apart before either of them ends.
* `bytes_lt_bytes`: the bytes of a greater text are greater.
-/

namespace Registrar.Text

def bytes (s : String) : List UInt8 := s.toUTF8.data.toList

theorem bytes_eq (s : String) : bytes s = s.toList.flatMap String.utf8EncodeChar := by
  rw [bytes, String.toUTF8_eq_toByteArray, ← String.utf8Encode_toList, List.utf8Encode]
  simp

/-- What follows two different characters does not matter to the order of their encodings. -/
theorem encodeChar_lt {c d : Char} (less : c < d) (rest rest' : List UInt8) :
    String.utf8EncodeChar c ++ rest < String.utf8EncodeChar d ++ rest' := by
  have less : c.val.toNat < d.val.toNat := less
  have bound : d.val.toNat < 1114112 := by
    rcases d.valid with small | ⟨_, large⟩ <;> omega
  unfold String.utf8EncodeChar
  dsimp only
  generalize c.val.toNat = m at *
  generalize d.val.toNat = n at *
  -- An encoding of more bytes begins with a greater byte. Among those of as many bytes, the bytes are
  -- the digits to the base 64, each raised by a constant.
  have two (k : Nat) : k / 4096 = k / 64 / 64 := by omega
  have three (k : Nat) : k / 262144 = k / 64 / 64 / 64 := by omega
  have digit (k : Nat) : (k % 64 + 128) % 2 ^ 8 = k % 64 + 128 := by omega
  have leading (k : Nat) : (k % 8 + 240) % 2 ^ 8 = k % 8 + 240 := by omega
  split_ifs
  all_goals
    simp only [List.cons_append, List.nil_append, List.cons_lt_cons_iff, UInt8.lt_iff_toNat_lt,
      ← UInt8.toNat_inj, UInt8.toNat_ofNat', two, three, digit, leading, Nat.add_lt_add_iff_right,
      Nat.add_right_cancel_iff]
    omega

theorem flatMap_lt {l l' : List Char} (less : l < l') :
    l.flatMap String.utf8EncodeChar < l'.flatMap String.utf8EncodeChar := by
  induction less with
  | nil =>
      rename_i d l'
      obtain ⟨b, bs, encoded⟩ := List.exists_cons_of_ne_nil (String.utf8EncodeChar_ne_nil (c := d))
      rw [List.flatMap_cons, encoded]
      exact List.nil_lt_cons b _
  | cons less ih =>
      rename_i c l l'
      rw [List.flatMap_cons, List.flatMap_cons]
      exact List.append_left_lt ih
  | rel less => exact encodeChar_lt less _ _

/-- A greater text has greater bytes. -/
theorem bytes_lt_bytes {s t : String} (less : s < t) : bytes s < bytes t := by
  rw [bytes_eq, bytes_eq]
  exact flatMap_lt (String.lt_iff_toList_lt.mp less)

end Registrar.Text
