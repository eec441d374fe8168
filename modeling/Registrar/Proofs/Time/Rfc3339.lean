import Registrar.Proofs.Text.Decimal
import Registrar.Proofs.Time.Calendar
import Registrar.Time.Rfc3339
import Mathlib.Data.String.Basic

/-!
Instants read back as they were written.

A number is written in digits that the readers take off the front of a text again
(`fixedNumber_padded`, `number_padded`, `fraction_padded`). The parts of an instant are numbers of fixed
width, apart from the year: one that needs a sign is refused by the strict reader, whose years have four
digits, and read by the relaxed one.

* `readStrict_writeOffset`: what is written is read back as the same instant, or refused.
* `readRelaxed_write`: the relaxed reader refuses nothing that is written.
-/

namespace Registrar.Rfc3339

open Calendar
open Text (digit? digit?_of_isDigit)

/-! ### Digits -/

theorem fixedNumber_digits {ds : List Char} (digits : ∀ c ∈ ds, c.isDigit = true) (acc : Nat)
    (rest : List Char) :
    fixedNumber ds.length acc (ds ++ rest) = .ok (Nat.ofDigitChars 10 ds acc, rest) := by
  induction ds generalizing acc with
  | nil => rfl
  | cons c ds ih =>
      obtain ⟨digit, digits⟩ := List.forall_mem_cons.mp digits
      simp only [List.length_cons, List.cons_append, fixedNumber, digit?_of_isDigit digit]
      rw [ih digits, Nat.ofDigitChars_cons]

/-- Digits up to the first character that is none. -/
theorem takeNumber_digits {ds : List Char} (digits : ∀ c ∈ ds, c.isDigit = true) {most : Nat}
    (short : ds.length ≤ most) (acc : Nat) {c : Char} (other : digit? c = none)
    (rest : List Char) :
    takeNumber most acc (ds ++ c :: rest) = (Nat.ofDigitChars 10 ds acc, c :: rest) := by
  induction ds generalizing acc most with
  | nil =>
      cases most with
      | zero => rfl
      | succ most => simp only [List.nil_append, takeNumber, other, Nat.ofDigitChars_nil]
  | cons d ds ih =>
      obtain ⟨digit, digits⟩ := List.forall_mem_cons.mp digits
      cases most with
      | zero => cases short
      | succ most =>
          simp only [List.cons_append, takeNumber, digit?_of_isDigit digit]
          rw [ih digits (Nat.le_of_succ_le_succ short), Nat.ofDigitChars_cons]

theorem isDigit_of_mem_padded {width n : Nat} {c : Char} (mem : c ∈ padded width n) :
    c.isDigit = true := by
  rcases List.mem_append.mp mem with zero | digit
  · rw [List.eq_of_mem_replicate zero]
    rfl
  · exact Nat.isDigit_of_mem_toDigits (by decide) (by decide) digit

theorem length_padded {width n : Nat} (pos : 0 < width) (small : n < 10 ^ width) :
    (padded width n).length = width := by
  have short := (Nat.length_toDigits_le_iff (by decide) pos).mpr small
  simp only [padded, List.length_append, List.length_replicate]
  omega

theorem ofDigitChars_padded (width n : Nat) : Nat.ofDigitChars 10 (padded width n) 0 = n := by
  have zeros : ∀ k, Nat.ofDigitChars 10 (List.replicate k '0') 0 = 0 := by
    intro k
    induction k with
    | zero => rfl
    | succ k ih => rw [List.replicate_succ, Nat.ofDigitChars_cons]; exact ih
  rw [padded, Nat.ofDigitChars_append, zeros, Nat.ofDigitChars_ten_toDigits]

/-- A number of fixed width. -/
theorem fixedNumber_padded {width n : Nat} (pos : 0 < width) (small : n < 10 ^ width)
    (rest : List Char) : fixedNumber width 0 (padded width n ++ rest) = .ok (n, rest) := by
  have digits : ∀ c ∈ padded width n, c.isDigit = true := fun _ => isDigit_of_mem_padded
  have read := fixedNumber_digits digits 0 rest
  rwa [length_padded pos small, ofDigitChars_padded] at read

theorem le_length_padded (width n : Nat) : width ≤ (padded width n).length := by
  simp only [padded, List.length_append, List.length_replicate]
  omega

/-- What a number begins with. -/
theorem padded_cons {width : Nat} (pos : 0 < width) (n : Nat) :
    ∃ c cs, padded width n = c :: cs ∧ c.isDigit = true := by
  cases digits : padded width n with
  | nil =>
      have long := le_length_padded width n
      rw [digits] at long
      exact absurd pos (Nat.not_lt.mpr long)
  | cons c cs =>
      have first : c ∈ padded width n := digits ▸ List.mem_cons_self
      exact ⟨c, cs, rfl, isDigit_of_mem_padded first⟩

/-- A number of any width, with something else behind it. -/
theorem number_padded {most width n : Nat} (pos : 0 < width) (short : (padded width n).length ≤ most)
    {c : Char} (other : digit? c = none) (rest : List Char) :
    number most (padded width n ++ c :: rest) = .ok (n, c :: rest) := by
  obtain ⟨d, ds, front, digit⟩ := padded_cons pos n
  rw [front, List.cons_append, number, if_pos (by rw [digit?_of_isDigit digit]; rfl),
    ← List.cons_append, ← front, takeNumber_digits (fun _ => isDigit_of_mem_padded) short 0 other,
    ofDigitChars_padded]

/-- The digits of a fraction of a second, with something else behind them. -/
theorem fraction_padded {width n : Nat} (pos : 0 < width) (short : width ≤ 9)
    (small : n < 10 ^ width) {c : Char} (other : digit? c = none) (rest : List Char) :
    fraction (padded width n ++ c :: rest) = .ok (n * 10 ^ (9 - width), c :: rest) := by
  have length := length_padded pos small
  have taken := number_padded pos (length.le.trans short) other rest
  have consumed : (padded width n ++ c :: rest).length - (c :: rest).length = width := by
    rw [List.length_append, length]
    omega
  simp only [fraction, taken, bind, Except.bind, consumed]
  rw [List.dropWhile_cons_of_neg (by rw [other]; simp)]
  rfl

/-- Either there is no fraction, or it reads as what it was. -/
theorem writeFraction_cases {nanos : Nat} (small : nanos < 1000000000) {c : Char}
    (other : digit? c = none) (rest : List Char) :
    (nanos = 0 ∧ writeFraction nanos = []) ∨
      ∃ digits, writeFraction nanos = '.' :: digits ∧
        fraction (digits ++ c :: rest) = .ok (nanos, c :: rest) := by
  unfold writeFraction
  split
  · exact .inl ⟨‹_›, rfl⟩
  split
  · refine .inr ⟨_, rfl, ?_⟩
    rw [fraction_padded (by decide) (by decide) (by omega) other]
    congr 2
    omega
  split
  · refine .inr ⟨_, rfl, ?_⟩
    rw [fraction_padded (by decide) (by decide) (by omega) other]
    congr 2
    omega
  · refine .inr ⟨_, rfl, ?_⟩
    rw [fraction_padded (by decide) (by decide) (by omega) other]
    congr 2
    omega

/-! ### Instants -/

/-- The second of the day in which an instant lies, the one before a leap second for the leap second. -/
def secondOfDay (t : Instant) : Nat := (t.seconds % 86400).toNat

/-- The second of the minute that a clock shows, which is 60 in a leap second. -/
def shownSecond (t : Instant) : Nat :=
  secondOfDay t % 60 + if 1000000000 ≤ t.nanos then 1 else 0

def shownNanos (t : Instant) : Nat :=
  if 1000000000 ≤ t.nanos then t.nanos - 1000000000 else t.nanos

/-- The text of an instant from the hours on, in front of the zone. -/
def clockText (t : Instant) (zone : List Char) : List Char :=
  'T' :: (padded 2 (secondOfDay t / 3600) ++ ':' :: (padded 2 (secondOfDay t / 60 % 60) ++
    ':' :: (padded 2 (shownSecond t) ++ (writeFraction (shownNanos t) ++ zone))))

theorem toList_writeWith (zone : String) (t : Instant) :
    (writeWith zone t).toList =
      let date := Date.ofDays (t.seconds / 86400)
      writeYear date.year ++
        '-' :: (padded 2 date.month ++ '-' :: (padded 2 date.day ++ clockText t zone.toList)) := by
  simp only [writeWith, String.toList_ofList, List.append_assoc, List.cons_append, clockText,
    secondOfDay, shownSecond, shownNanos]

/-- The day of an instant lies in the years that instants have. -/
theorem dateInRange_ofDays (t : Instant) : dateInRange (Date.ofDays (t.seconds / 86400)) = true := by
  have valid := Date.isValid_ofDays (t.seconds / 86400)
  have days := Date.toDays_ofDays (t.seconds / 86400)
  obtain ⟨lower, upper⟩ := t.inRange
  rw [Instant.first] at lower
  rw [Instant.last] at upper
  have first : (-262143 : Int) ≤ (Date.ofDays (t.seconds / 86400)).year :=
    Date.le_year valid (by omega)
  have last : (Date.ofDays (t.seconds / 86400)).year ≤ (262142 : Int) :=
    Date.year_le valid (by omega)
  simp only [dateInRange, valid, first, last, decide_true, Bool.and_self]

theorem secondOfDay_lt (t : Instant) : secondOfDay t < 86400 := by
  unfold secondOfDay
  omega

theorem shownNanos_lt (t : Instant) : shownNanos t < 1000000000 := by
  have bound := t.nanos_lt
  unfold shownNanos
  split <;> omega

theorem shownSecond_le (t : Instant) : shownSecond t ≤ 60 := by
  unfold shownSecond
  split <;> omega

theorem ofParts?_self (t : Instant) : Instant.ofParts? t.seconds t.nanos = some t :=
  dif_pos ⟨t.inRange, t.nanos_lt⟩

/-- A day and what a clock shows on it make the instant. -/
theorem assemble_shown {t : Instant} {day : Date} (date : day.toDays = t.seconds / 86400) :
    assemble day (secondOfDay t / 3600) (secondOfDay t / 60 % 60) (shownSecond t) (shownNanos t) 0 =
      .ok t := by
  have whole := ofParts?_self t
  have bound := t.nanos_lt
  unfold assemble shownSecond shownNanos secondOfDay
  generalize t.seconds = seconds, t.nanos = nanos at *
  by_cases leap : 1000000000 ≤ nanos
  · have last : (seconds % 86400).toNat % 60 + 1 = 60 := by omega
    have restored : nanos - 1000000000 + 1000000000 = nanos := by omega
    have total : day.toDays * 86400 + ((seconds % 86400).toNat / 3600 : Nat) * 3600 +
        ((seconds % 86400).toNat / 60 % 60 : Nat) * 60 + (59 : Nat) - 0 = seconds := by omega
    simp only [if_pos leap, last, if_true]
    rw [total, restored, whole]
  · have common : ¬ (seconds % 86400).toNat % 60 + 0 = 60 := by omega
    have total : day.toDays * 86400 + ((seconds % 86400).toNat / 3600 : Nat) * 3600 +
        ((seconds % 86400).toNat / 60 % 60 : Nat) * 60 +
          ((seconds % 86400).toNat % 60 + 0 : Nat) - 0 = seconds := by omega
    simp only [if_neg leap, if_neg common]
    rw [total, whole]

theorem le_utf8ByteSize (s : String) : s.toList.length ≤ s.utf8ByteSize := by
  rw [← String.utf8Len_toList]
  induction s.toList with
  | nil => exact Nat.le_refl _
  | cons c cs ih =>
      rw [String.utf8Len_cons, List.length_cons]
      exact Nat.add_le_add ih c.utf8Size_pos

theorem utf8ByteSize_writeOffset (t : Instant) : ¬ (writeOffset t).utf8ByteSize < 19 := by
  have long := le_utf8ByteSize (writeWith "+00:00" t)
  have year : 4 ≤ (writeYear (Date.ofDays (t.seconds / 86400)).year).length := by
    unfold writeYear
    split
    · exact le_length_padded 4 _
    · exact (le_length_padded 4 _).trans (Nat.le_succ _)
  rw [toList_writeWith] at long
  rw [writeOffset]
  simp only [clockText, List.length_append, List.length_cons] at long
  have month := le_length_padded 2 (Date.ofDays (t.seconds / 86400)).month
  have day := le_length_padded 2 (Date.ofDays (t.seconds / 86400)).day
  have hour := le_length_padded 2 (secondOfDay t / 3600)
  have minute := le_length_padded 2 (secondOfDay t / 60 % 60)
  have second := le_length_padded 2 (shownSecond t)
  omega

/-- An instant is read back as it was written if its year has four digits, and refused otherwise. -/
theorem readStrict_writeOffset (t : Instant) :
    readStrict (writeOffset t) =
      let year := (Date.ofDays (t.seconds / 86400)).year
      if 0 ≤ year ∧ year ≤ 9999 then .ok t else .error .invalid := by
  have date := Date.toDays_ofDays (t.seconds / 86400)
  have valid := Date.isValid_ofDays (t.seconds / 86400)
  have bounds := Date.bounds_of_isValid valid
  have inRange := dateInRange_ofDays t
  unfold readStrict
  rw [if_neg (utf8ByteSize_writeOffset t), writeOffset, toList_writeWith]
  generalize Date.ofDays (t.seconds / 86400) = day at *
  dsimp only
  split
  · rename_i four
    have year : ((day.year.toNat : Nat) : Int) = day.year := Int.toNat_of_nonneg four.1
    simp only [writeYear, if_pos four, clockText, expectFixed, bind, Except.bind,
      fixedNumber_padded (by decide : 0 < 4) (by omega : day.year.toNat < 10 ^ 4),
      fixedNumber_padded (by decide : 0 < 2) (by omega : day.month < 10 ^ 2),
      fixedNumber_padded (by decide : 0 < 2) (by omega : day.day < 10 ^ 2), year, inRange,
      beq_self_eq_true, Bool.true_or, Bool.not_true, Bool.false_eq_true, if_true, if_false]
    have second := secondOfDay_lt t
    have shown := shownSecond_le t
    have time : ¬ (24 ≤ secondOfDay t / 3600 ∨ 60 ≤ secondOfDay t / 60 % 60 ∨ 61 ≤ shownSecond t) := by
      omega
    have offset : "+00:00".toList = ['+', '0', '0', ':', '0', '0'] := by decide
    have zone_eq : zone (expect ':') ['+', '0', '0', ':', '0', '0'] = .ok (0, []) := by decide
    simp only [beq_self_eq_true, if_true,
      fixedNumber_padded (by decide : 0 < 2) (by omega : secondOfDay t / 3600 < 10 ^ 2),
      fixedNumber_padded (by decide : 0 < 2) (by omega : secondOfDay t / 60 % 60 < 10 ^ 2),
      fixedNumber_padded (by decide : 0 < 2) (by omega : shownSecond t < 10 ^ 2)]
    have assembled := assemble_shown date
    rw [offset]
    rcases writeFraction_cases (shownNanos_lt t) (by decide : digit? '+' = none)
      ['0', '0', ':', '0', '0'] with ⟨whole, none_written⟩ | ⟨digits, written, read⟩
    · rw [whole] at assembled
      simp only [none_written, List.nil_append, if_neg time]
      exact assembled
    · simp only [written, List.cons_append, read, if_neg time, zone_eq]
      exact assembled
  · rename_i signed
    rw [writeYear, if_neg signed]
    split <;> rfl

/-- Nothing else is read than what was written. -/
theorem eq_of_readStrict {t t' : Instant} (read : readStrict (writeOffset t) = .ok t') : t' = t := by
  rw [readStrict_writeOffset] at read
  dsimp only at read
  split at read <;> cases read
  rfl

/-! ### The relaxed reader -/

theorem trimStart_cons {c : Char} (visible : Text.isWhiteSpace c = false) (cs : List Char) :
    Text.trimStart (c :: cs) = c :: cs :=
  List.dropWhile_cons_of_neg (by rw [visible]; exact Bool.false_ne_true)

theorem trimStart_padded {width : Nat} (pos : 0 < width) (n : Nat) (rest : List Char) :
    Text.trimStart (padded width n ++ rest) = padded width n ++ rest := by
  obtain ⟨d, ds, front, digit⟩ := padded_cons pos n
  rw [front, List.cons_append, trimStart_cons (Text.not_isWhiteSpace_of_isDigit digit)]

/-- A number of two digits between the bounds. -/
theorem boundedNumber_padded {lo hi n : Nat} (within : lo ≤ n ∧ n ≤ hi) (small : n < 10 ^ 2)
    {c : Char} (other : digit? c = none) (rest : List Char) :
    boundedNumber 2 lo hi (padded 2 n ++ c :: rest) = .ok (n, c :: rest) := by
  have short : (padded 2 n).length ≤ 2 := (length_padded (by decide) small).le
  simp only [boundedNumber, trimStart_padded (by decide : 0 < 2),
    number_padded (by decide) short other, bind, Except.bind, if_pos within]

/-- A year is read with its sign, or in four digits if it has none. -/
theorem signedYear_writeYear {y : Int} (word : -2147483648 ≤ y ∧ y < 2147483648)
    (rest : List Char) : signedYear (writeYear y ++ '-' :: rest) = .ok (y, '-' :: rest) := by
  have other : digit? '-' = none := by decide
  have whole (n : Nat) :
      number (padded 4 n ++ '-' :: rest).length (padded 4 n ++ '-' :: rest) = .ok (n, '-' :: rest) :=
    number_padded (by decide) (by rw [List.length_append]; exact Nat.le_add_right _ _) other rest
  unfold writeYear
  split
  · rename_i four
    have short : (padded 4 y.toNat).length ≤ 4 := (length_padded (by decide) (by omega)).le
    have value : ((y.toNat : Nat) : Int) = y := Int.toNat_of_nonneg four.1
    have read := number_padded (by decide) short other rest
    obtain ⟨d, ds, front, digit⟩ := padded_cons (by decide : 0 < 4) y.toNat
    rw [front, List.cons_append] at read ⊢
    rw [signedYear, trimStart_cons (Text.not_isWhiteSpace_of_isDigit digit)]
    -- A year without a sign begins with a digit, so it is not taken for one with a sign.
    split
    · rename_i sign
      cases sign
      cases digit
    · rename_i sign
      cases sign
      cases digit
    · simp only [read, bind, Except.bind, value, if_pos word]
  · split
    · rename_i sign
      have value : -((y.natAbs : Nat) : Int) = y := by omega
      rw [List.cons_append, signedYear, trimStart_cons (by decide)]
      simp only [whole, bind, Except.bind, value, if_pos word]
    · rename_i sign
      have value : ((y.natAbs : Nat) : Int) = y := by omega
      rw [List.cons_append, signedYear, trimStart_cons (by decide)]
      simp only [whole, bind, Except.bind, value, if_pos word]

/-- Every instant is read back as it was written, whatever its year, and with a leap second as well. -/
theorem readRelaxed_write (t : Instant) : readRelaxed (write t) = .ok t := by
  have date := Date.toDays_ofDays (t.seconds / 86400)
  have bounds := Date.bounds_of_isValid (Date.isValid_ofDays (t.seconds / 86400))
  have inRange := dateInRange_ofDays t
  unfold readRelaxed
  rw [write, toList_writeWith]
  generalize Date.ofDays (t.seconds / 86400) = day at *
  dsimp only
  have year : -2147483648 ≤ day.year ∧ day.year < 2147483648 := by
    simp only [dateInRange, Bool.and_eq_true, decide_eq_true_eq] at inRange
    omega
  have second := secondOfDay_lt t
  have shown := shownSecond_le t
  have dash : Text.isWhiteSpace '-' = false := by decide
  have colon : Text.isWhiteSpace ':' = false := by decide
  simp only [signedYear_writeYear year, clockText, bind, Except.bind, expect, if_true,
    trimStart_cons dash, trimStart_cons colon,
    boundedNumber_padded bounds.1 (by omega) (by decide : digit? '-' = none),
    boundedNumber_padded bounds.2 (by omega) (by decide : digit? 'T' = none),
    boundedNumber_padded (by omega : 0 ≤ secondOfDay t / 3600 ∧ secondOfDay t / 3600 ≤ 23) (by omega)
      (by decide : digit? ':' = none),
    boundedNumber_padded (by omega : 0 ≤ secondOfDay t / 60 % 60 ∧ secondOfDay t / 60 % 60 ≤ 59)
      (by omega) (by decide : digit? ':' = none)]
  have letter : "Z".toList = ['Z'] := by decide
  have zone_eq : relaxedZone (Text.trimStart ['Z']) = .ok (0, []) := by decide
  have within : 0 ≤ shownSecond t ∧ shownSecond t ≤ 60 := ⟨Nat.zero_le _, shown⟩
  have assembled := assemble_shown date
  rw [letter]
  rcases writeFraction_cases (shownNanos_lt t) (by decide : digit? 'Z' = none) [] with
    ⟨whole, none_written⟩ | ⟨digits, written, read⟩
  · rw [whole] at assembled
    simp only [none_written, List.nil_append, boundedNumber_padded within (by omega)
      (by decide : digit? 'Z' = none), inRange]
    exact assembled
  · simp only [written, List.cons_append, boundedNumber_padded within (by omega)
      (by decide : digit? '.' = none), read, zone_eq, inRange]
    exact assembled

end Registrar.Rfc3339
