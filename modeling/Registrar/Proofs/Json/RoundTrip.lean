import Registrar.Proofs.Json.Strings
import Registrar.Proofs.Text.Decimal
import Mathlib.Data.List.Chain
import Mathlib.Data.String.Basic

/-!
JSON values read back as they were written, or are nested too deep.

The printer knows no limit, but the reader opens at most `depthLimit` containers around a value. So a
text that the printer wrote is read back if the value is no deeper than that, and refused as nested
too deep otherwise; nothing else can go wrong with it. Doubles are left out: not every one of them
reads back as it was written.

* `Reads`: how a part of a text reads that stands for something that may be too deep.
* `readNumber_printNumber`, `enter_eq_append`: integers, and members in the order of their keys.
* `reads_value`: a printed value in front of the rest of a text.
* `parse_print`, `parse_print_too_deep`: a whole text.
-/

namespace Registrar.Json

mutual

/-- How many containers stand around the innermost value. -/
def depth : Json → Nat
  | array elements => elementsDepth elements + 1
  | object members => membersDepth members + 1
  | _ => 0

def elementsDepth : List Json → Nat
  | [] => 0
  | v :: vs => max (depth v) (elementsDepth vs)

def membersDepth : List (String × Json) → Nat
  | [] => 0
  | (_, v) :: ms => max (depth v) (membersDepth ms)

end

mutual

/-- Every number inside the value is an integer. -/
def isIntegral : Json → Bool
  | number (.double _) => false
  | array elements => elementsIntegral elements
  | object members => membersIntegral members
  | _ => true

def elementsIntegral : List Json → Bool
  | [] => true
  | v :: vs => isIntegral v && elementsIntegral vs

def membersIntegral : List (String × Json) → Bool
  | [] => true
  | (_, v) :: ms => isIntegral v && membersIntegral ms

end

/-- Every number inside the value is an integer. -/
def Integral (v : Json) : Prop := v.isIntegral = true

/-! ### Reading a part of a text -/

section Reads

variable {α β : Type} {fits fits' : Prop} {a : α} {b : β} {rest rest' : List Char}

/-- What is read is `a`, with `rest` behind it, if it fits; if not, it is nested too deep. -/
structure Reads (fits : Prop) (result : Except Stop (α × List Char)) (a : α) (rest : List Char) :
    Prop where
  read : fits → result = .ok (a, rest)
  refused : ¬ fits → ∃ n, result = .error ⟨.nestedTooDeep, n⟩

theorem Reads.ok : Reads True (.ok (a, rest)) a rest := ⟨fun _ => rfl, fun no => absurd trivial no⟩

theorem Reads.congr {result : Except Stop (α × List Char)} (reads : Reads fits result a rest)
    (same : fits ↔ fits') : Reads fits' result a rest :=
  ⟨fun yes => reads.read (same.mpr yes), fun no => reads.refused fun yes => no (same.mp yes)⟩

/-- Two parts are read one after the other. -/
theorem Reads.bind {x : Except Stop (α × List Char)}
    {f : α × List Char → Except Stop (β × List Char)} (first : Reads fits x a rest)
    (second : Reads fits' (f (a, rest)) b rest') : Reads (fits ∧ fits') (x >>= f) b rest' := by
  by_cases yes : fits
  · rw [first.read yes]
    exact second.congr ⟨fun yes' => ⟨yes, yes'⟩, And.right⟩
  · obtain ⟨n, error⟩ := first.refused yes
    rw [error]
    exact ⟨fun both => absurd both.1 yes, fun _ => ⟨n, rfl⟩⟩

theorem Reads.map {x : Except Stop (α × List Char)} (reads : Reads fits x a rest) (f : α → β) :
    Reads fits (x >>= fun r => .ok (f r.1, r.2)) (f a) rest :=
  (reads.bind (f := fun r => .ok (f r.1, r.2)) Reads.ok).congr ⟨And.left, fun yes => ⟨yes, trivial⟩⟩

end Reads

theorem skipBlanks_cons {c : Char} (visible : isBlankChar c = false) (cs : List Char) :
    skipBlanks (c :: cs) = c :: cs :=
  List.dropWhile_cons_of_neg (by rw [visible]; exact Bool.false_ne_true)

/-! ### Integers -/

/-- What stands behind a value: the end of the text, or what goes on with the container. -/
def Closes : List Char → Prop
  | [] => True
  | c :: _ => c = ',' ∨ c = ']' ∨ c = '}'

theorem spanDigits_digits {ds rest : List Char} (digits : ∀ c ∈ ds, c.isDigit = true)
    (closes : Closes rest) :
    spanDigits (ds ++ rest) = (ds.map fun c => c.toNat - '0'.toNat, rest) := by
  induction ds with
  | nil =>
      cases rest with
      | nil => rfl
      | cons c rest => rcases closes with rfl | rfl | rfl <;> rfl
  | cons c ds ih =>
      obtain ⟨digit, digits⟩ := List.forall_mem_cons.mp digits
      rw [List.cons_append, spanDigits, Text.digit?_of_isDigit digit]
      simp only [ih digits, List.map_cons]

theorem le_ofDigitChars (ds : List Char) (acc : Nat) : acc ≤ Nat.ofDigitChars 10 ds acc := by
  have positive : 1 * acc ≤ 10 ^ ds.length * acc :=
    Nat.mul_le_mul_right acc (Nat.pow_pos (by decide))
  rw [Nat.ofDigitChars_eq_ofDigitChars_zero]
  omega

/-- Digits are absorbed as long as the number fits. -/
theorem absorb_digits (ds : List Char) (acc : Nat)
    (small : Nat.ofDigitChars 10 ds acc < 18446744073709551616) :
    absorb acc (ds.map fun c => c.toNat - '0'.toNat) = (Nat.ofDigitChars 10 ds acc, 0) := by
  induction ds generalizing acc with
  | nil => rfl
  | cons c ds ih =>
      rw [Nat.ofDigitChars_cons] at small ⊢
      rw [List.map_cons, absorb, if_pos (Nat.lt_of_le_of_lt (le_ofDigitChars ds _) small), ih _ small]

theorem toDigits_cons (n : Nat) :
    ∃ c cs, Nat.toDigits 10 n = c :: cs ∧ c.isDigit = true := by
  cases front : Nat.toDigits 10 n with
  | nil => exact absurd front Nat.toDigits_ne_nil
  | cons c cs =>
      have mem : c ∈ Nat.toDigits 10 n := by rw [front]; exact List.mem_cons_self
      exact ⟨c, cs, rfl, Nat.isDigit_of_mem_toDigits (by decide) (by decide) mem⟩

/-- The first digit of a number is zero only if it is the only one. -/
theorem toDigits_head {n : Nat} {c : Char} {cs : List Char} (digits : Nat.toDigits 10 n = c :: cs) :
    cs = [] ∨ c.toNat - '0'.toNat ≠ 0 := by
  induction n using Nat.base_induction 10 (by decide) generalizing cs with
  | single m small =>
      rw [Nat.toDigits_of_lt_base small] at digits
      exact .inl (List.cons.inj digits).2.symm
  | digit m k small pos ih =>
      rw [← Nat.toDigits_append_toDigits (by decide) pos small] at digits
      obtain ⟨c', cs', front, _⟩ := toDigits_cons m
      rw [front] at digits
      obtain ⟨rfl, rfl⟩ := List.cons.inj digits
      rcases ih front with alone | other
      · -- A single digit that is not the number zero.
        subst alone
        have value : Nat.ofDigitChars 10 (Nat.toDigits 10 m) 0 = m :=
          Nat.ofDigitChars_ten_toDigits
        rw [front, Nat.ofDigitChars_cons, Nat.ofDigitChars_nil] at value
        exact .inr (by omega)
      · exact .inr other

/-- The digits of a number that fits 64 bits. -/
theorem readNumber_toDigits (negative : Bool) {n : Nat} (small : n < 18446744073709551616)
    {rest : List Char} (closes : Closes rest) :
    readNumber negative (Nat.toDigits 10 n ++ rest) = .ok (makeInteger negative n, rest) := by
  have digits : ∀ c ∈ Nat.toDigits 10 n, c.isDigit = true := fun c =>
    Nat.isDigit_of_mem_toDigits (by decide) (by decide)
  have value : Nat.ofDigitChars 10 (Nat.toDigits 10 n) 0 = n := Nat.ofDigitChars_ten_toDigits
  have absorbed := absorb_digits (Nat.toDigits 10 n) 0 (by rw [value]; exact small)
  rw [value] at absorbed
  have span := spanDigits_digits digits closes
  obtain ⟨c, cs, front, _⟩ := toDigits_cons n
  rw [front, List.map_cons] at span absorbed
  rw [front]
  unfold readNumber
  rw [span]
  split
  · rename_i none
    cases congrArg Prod.fst none
  · rename_i none
    cases congrArg Prod.fst none
  · rename_i zero
    rcases toDigits_head front with rfl | other
    · cases congrArg (List.length ∘ Prod.fst) zero
    · exact absurd (List.cons.inj (congrArg Prod.fst zero)).1 other
  · rename_i same
    cases same
    rw [absorbed]
    cases rest with
    | nil => rfl
    | cons c rest => rcases closes with rfl | rfl | rfl <;> rfl

/-- An integer is made of its sign and its magnitude. -/
theorem makeInteger_natAbs (i : JsonInteger) :
    makeInteger (decide (i.val < 0)) i.val.natAbs = .integer i := by
  have value : (if decide (i.val < 0) = true then -(i.val.natAbs : Int) else i.val.natAbs) = i.val := by
    split <;> rename_i sign <;> simp only [decide_eq_true_eq] at sign <;> omega
  have nonzero : (decide (i.val < 0) && decide (i.val.natAbs = 0)) = false := by
    simp only [Bool.and_eq_false_iff, decide_eq_false_iff_not]
    omega
  have fits : JsonInteger.ofInt? i.val = some i := dif_pos ⟨i.lower, i.upper⟩
  simp only [makeInteger, value, fits, nonzero]
  rfl

/-- An integer is printed as its sign and the digits of its magnitude. -/
theorem printNumber_integer (i : JsonInteger) : printNumber (.integer i) =
    (if i.val < 0 then ['-'] else []) ++ Nat.toDigits 10 i.val.natAbs :=
  Text.toList_toString i.val

/-! ### Members in order -/

theorem isChain_of_keysAscend : ∀ {members : List (String × Json)}, keysAscend members = true →
    members.IsChain (·.1 < ·.1)
  | [], _ => .nil
  | [m], _ => .singleton m
  | _ :: m :: rest, ascend => by
      rw [keysAscend, Bool.and_eq_true, decide_eq_true_eq] at ascend
      exact .cons_cons ascend.1 (isChain_of_keysAscend ascend.2)

/-- The keys of an ordered object ascend throughout. -/
theorem pairwise_of_keysAscend {members : List (String × Json)} (ascend : keysAscend members = true) :
    members.Pairwise (·.1 < ·.1) := by
  have : IsTrans (String × Json) fun m m' => m.1 < m'.1 := ⟨fun _ _ _ => lt_trans⟩
  exact (isChain_of_keysAscend ascend).pairwise

/-- A member with the last key so far is entered at the end. -/
theorem enter_eq_append {key : String} {value : Json} {before : List (String × Json)}
    (last : ∀ m ∈ before, m.1 < key) : enter key value before = before ++ [(key, value)] := by
  induction before with
  | nil => rfl
  | cons m before ih =>
      obtain ⟨smaller, last⟩ := List.forall_mem_cons.mp last
      rw [enter, if_neg (lt_asymm smaller), if_neg (ne_of_gt smaller), ih last, List.cons_append]

/-! ### Values -/

/-- A digit is neither a blank nor the end of a container. -/
theorem visible_of_isDigit {c : Char} (digit : c.isDigit = true) :
    isBlankChar c = false ∧ c ≠ ']' := by
  refine ⟨Bool.eq_false_iff.mpr fun blank => ?_, fun same => ?_⟩
  · simp only [isBlankChar, Bool.or_eq_true, decide_eq_true_eq] at blank
    rcases blank with ((rfl | rfl) | rfl) | rfl <;> cases digit
  · subst same
    cases digit

/-- What a printed value begins with: neither a blank nor the end of a container. -/
theorem printChars_cons {v : Json} (integral : v.Integral) :
    ∃ c cs, printChars v = c :: cs ∧ isBlankChar c = false ∧ c ≠ ']' := by
  cases v with
  | null => exact ⟨_, _, rfl, rfl, by decide⟩
  | bool b => cases b <;> exact ⟨_, _, rfl, rfl, by decide⟩
  | string s => exact ⟨_, _, rfl, rfl, by decide⟩
  | array elements => cases elements <;> exact ⟨_, _, rfl, rfl, by decide⟩
  | object members => cases members <;> exact ⟨_, _, rfl, rfl, by decide⟩
  | number n =>
      cases n with
      | double d => cases integral
      | integer i =>
          rw [printChars, printNumber_integer]
          split
          · exact ⟨_, _, rfl, rfl, by decide⟩
          · obtain ⟨c, cs, front, digit⟩ := toDigits_cons i.val.natAbs
            exact ⟨c, cs, front, visible_of_isDigit digit⟩

/-- A number that begins with a digit. -/
theorem readValue_digit {c : Char} (digit : c.isDigit = true) (fuel limit : Nat) (cs : List Char) :
    readValue (fuel + 1) limit (c :: cs) =
      readNumber false (c :: cs) >>= fun r => .ok (number r.1, r.2) := by
  unfold readValue
  rw [skipBlanks_cons (visible_of_isDigit digit).1]
  split
  · rename_i none
    cases none
  iterate 7
    · rename_i first
      cases first
      cases digit
  · rename_i same
    cases same
    rw [Text.digit?_of_isDigit digit]
    rfl

theorem readValue_integer (i : JsonInteger) (fuel limit : Nat) {rest : List Char}
    (closes : Closes rest) : readValue (fuel + 1) limit (printNumber (.integer i) ++ rest) =
      .ok (number (.integer i), rest) := by
  have small : i.val.natAbs < 18446744073709551616 := by
    have := i.lower
    have := i.upper
    omega
  have made := makeInteger_natAbs i
  rw [printNumber_integer]
  split
  · rename_i sign
    rw [decide_eq_true sign] at made
    have read := readNumber_toDigits true small closes
    rw [made] at read
    rw [List.cons_append, List.nil_append, List.cons_append, readValue, skipBlanks_cons rfl]
    simp only [read]
    rfl
  · rename_i sign
    rw [decide_eq_false sign] at made
    have read := readNumber_toDigits false small closes
    rw [made] at read
    obtain ⟨c, cs, front, digit⟩ := toDigits_cons i.val.natAbs
    rw [front] at read
    rw [List.nil_append, front, List.cons_append, readValue_digit digit, ← List.cons_append, read]
    rfl

/-! ### Containers -/

/-- A container may be opened if there is room for one more. -/
theorem Reads.open {α : Type} {limit need : Nat} {a : α} {rest rest' : List Char}
    {inside : Nat → Except Stop (α × List Char)}
    (reads : ∀ limit, Reads (need ≤ limit) (inside limit) a rest) :
    Reads (need + 1 ≤ limit) (match limit with
      | 0 => stopWithin .nestedTooDeep rest'
      | limit + 1 => inside limit) a rest := by
  cases limit with
  | zero => exact ⟨fun yes => absurd yes (by omega), fun _ => ⟨_, rfl⟩⟩
  | succ limit => exact (reads limit).congr Nat.succ_le_succ_iff.symm

def readElement (fuel limit : Nat) (cs : List Char) : Except Stop (List Json × List Char) :=
  readValue fuel limit cs >>= fun r =>
    readElements fuel limit false r.2 >>= fun r' => .ok (r.1 :: r'.1, r'.2)

theorem readElements_close (fuel limit : Nat) (first : Bool) (rest : List Char) :
    readElements (fuel + 1) limit first (']' :: rest) = .ok ([], rest) := by
  rw [readElements, skipBlanks_cons rfl]
  rfl

theorem readElements_first {c : Char} (visible : isBlankChar c = false) (other : c ≠ ']')
    (fuel limit : Nat) (cs : List Char) :
    readElements (fuel + 1) limit true (c :: cs) = readElement fuel limit (c :: cs) := by
  unfold readElements
  rw [skipBlanks_cons visible]
  split
  · rename_i none
    cases none
  · rename_i close
    exact absurd (List.cons.inj close).1 other
  · rename_i same
    cases same
    rfl

theorem readElements_next {c : Char} (visible : isBlankChar c = false) (other : c ≠ ']')
    (fuel limit : Nat) (cs : List Char) :
    readElements (fuel + 1) limit false (',' :: c :: cs) = readElement fuel limit (c :: cs) := by
  unfold readElements
  rw [skipBlanks_cons rfl]
  split
  · rename_i none
    cases none
  · rename_i close
    cases close
  · rename_i same
    cases same
    rw [if_neg Bool.false_ne_true, if_pos rfl, skipBlanks_cons visible]
    split
    · rename_i close
      exact absurd (List.cons.inj close).1 other
    · rfl

theorem readMembers_close (fuel limit : Nat) (first : Bool) (read : List (String × Json))
    (rest : List Char) : readMembers (fuel + 1) limit first read ('}' :: rest) = .ok (read, rest) := by
  rw [readMembers, skipBlanks_cons rfl]
  rfl

theorem readMembers_first (fuel limit : Nat) (read : List (String × Json)) (cs : List Char) :
    readMembers (fuel + 1) limit true read ('"' :: cs) = readMember fuel limit read cs := by
  rw [readMembers, skipBlanks_cons rfl]
  rfl

theorem readMembers_next (fuel limit : Nat) (read : List (String × Json)) (cs : List Char) :
    readMembers (fuel + 1) limit false read (',' :: '"' :: cs) = readMember fuel limit read cs := by
  rw [readMembers, skipBlanks_cons rfl]
  rfl

theorem reads_element {v : Json} {vs : List Json} {fuel limit : Nat} {cs rest rest' : List Char}
    (value : Reads (v.depth ≤ limit) (readValue fuel limit cs) v rest)
    (elements : Reads (elementsDepth vs ≤ limit) (readElements fuel limit false rest) vs rest') :
    Reads (elementsDepth (v :: vs) ≤ limit) (readElement fuel limit cs) (v :: vs) rest' :=
  (value.bind (elements.map (v :: ·))).congr max_le_iff.symm

theorem reads_member {k : String} {v : Json} {before ms : List (String × Json)} {fuel limit : Nat}
    {cs rest rest' : List Char} (last : ∀ m ∈ before, m.1 < k)
    (value : Reads (v.depth ≤ limit) (readValue fuel limit cs) v rest)
    (members : Reads (membersDepth ms ≤ limit)
      (readMembers fuel limit false (before ++ [(k, v)]) rest) (before ++ (k, v) :: ms) rest') :
    Reads (membersDepth ((k, v) :: ms) ≤ limit)
      (readMember (fuel + 1) limit before (k.toList.flatMap escapeChar ++ '"' :: ':' :: cs))
      (before ++ (k, v) :: ms) rest' := by
  rw [readMember, readString_quote]
  refine (value.bind ?_).congr max_le_iff.symm
  simp only [enter_eq_append last]
  exact members

/-! ### All values -/

/-- What holds no container. -/
theorem readValue_word (fuel limit : Nat) (rest : List Char) :
    readValue (fuel + 1) limit (printChars null ++ rest) = .ok (null, rest) ∧
      ∀ b, readValue (fuel + 1) limit (printChars (bool b) ++ rest) = .ok (bool b, rest) := by
  refine ⟨?_, fun b => ?_⟩
  · rw [printChars, List.cons_append, readValue, skipBlanks_cons rfl]
    rfl
  · cases b <;>
    · rw [printChars, List.cons_append, readValue, skipBlanks_cons rfl]
      rfl

theorem readValue_string (s : String) (fuel limit : Nat) (rest : List Char) :
    readValue (fuel + 1) limit (printChars (string s) ++ rest) = .ok (string s, rest) := by
  rw [printChars, quote, List.append_assoc, List.cons_append, readValue, skipBlanks_cons rfl]
  simp only [List.singleton_append, readString_quote]
  rfl

theorem readValue_array (fuel limit : Nat) (cs : List Char) :
    readValue (fuel + 1) limit ('[' :: cs) = match limit with
      | 0 => stopWithin .nestedTooDeep ('[' :: cs)
      | limit + 1 => readElements fuel limit true cs >>= fun r => .ok (array r.1, r.2) := by
  rw [readValue, skipBlanks_cons rfl]
  cases limit <;> rfl

theorem readValue_object (fuel limit : Nat) (cs : List Char) :
    readValue (fuel + 1) limit ('{' :: cs) = match limit with
      | 0 => stopWithin .nestedTooDeep ('{' :: cs)
      | limit + 1 => readMembers fuel limit true [] cs >>= fun r => .ok (object r.1, r.2) := by
  rw [readValue, skipBlanks_cons rfl]
  cases limit <;> rfl

/-- Something that holds no container is read at any depth. -/
theorem Reads.flat {v : Json} {limit : Nat} {result : Except Stop (Json × List Char)}
    {rest : List Char} (read : result = .ok (v, rest)) (flat : v.depth = 0) :
    Reads (v.depth ≤ limit) result v rest :=
  ⟨fun _ => read, fun no => absurd (by omega) no⟩

theorem closes_printElements (vs : List Json) (rest : List Char) :
    Closes (printElements vs ++ rest) := by
  cases vs with
  | nil => exact .inr (.inl rfl)
  | cons v vs => exact .inl rfl

theorem closes_printMembers (ms : List (String × Json)) (rest : List Char) :
    Closes (printMembers ms ++ rest) := by
  rcases ms with _ | ⟨⟨k, v⟩, ms⟩
  · exact .inr (.inr rfl)
  · exact .inl rfl

theorem positive_of_enough {v : Json} (integral : v.Integral) {fuel : Nat}
    (enough : 3 * (printChars v).length ≤ fuel) : ∃ fuel', fuel = fuel' + 1 := by
  obtain ⟨c, cs, front, _⟩ := printChars_cons integral
  rw [front, List.length_cons] at enough
  exact Nat.exists_eq_succ_of_ne_zero (by omega)

mutual

/-- A printed value in front of something that closes it. -/
theorem reads_value : ∀ (v : Json), v.isIntegral = true → v.isOrdered = true →
    ∀ {fuel limit : Nat} {rest : List Char}, Closes rest → 3 * (printChars v).length ≤ fuel →
      Reads (v.depth ≤ limit) (readValue fuel limit (printChars v ++ rest)) v rest
  | .null, integral, _, _, limit, rest, _, enough => by
      obtain ⟨fuel, rfl⟩ := positive_of_enough integral enough
      exact .flat (readValue_word fuel limit rest).1 rfl
  | .bool b, integral, _, _, limit, rest, _, enough => by
      obtain ⟨fuel, rfl⟩ := positive_of_enough integral enough
      exact .flat ((readValue_word fuel limit rest).2 b) rfl
  | .number (.integer i), integral, _, _, limit, rest, closes, enough => by
      obtain ⟨fuel, rfl⟩ := positive_of_enough integral enough
      exact .flat (readValue_integer i fuel limit closes) rfl
  | .string s, integral, _, _, limit, rest, _, enough => by
      obtain ⟨fuel, rfl⟩ := positive_of_enough integral enough
      exact .flat (readValue_string s fuel limit rest) rfl
  | .array [], integral, _, fuel, limit, rest, _, enough => by
      simp only [printChars, List.length_cons, List.length_nil] at enough
      obtain ⟨fuel, rfl⟩ : ∃ fuel', fuel = fuel' + 2 := ⟨fuel - 2, by omega⟩
      rw [printChars, List.cons_append, readValue_array]
      refine Reads.open fun limit => .map ?_ array
      rw [List.singleton_append, readElements_close]
      exact ⟨fun _ => rfl, fun no => absurd (Nat.zero_le _) no⟩
  | .array (v :: vs), integral, ordered, fuel, limit, rest, _, enough => by
      simp only [isIntegral, elementsIntegral, isOrdered, elementsOrdered, Bool.and_eq_true]
        at integral ordered
      simp only [printChars, List.length_cons, List.length_append] at enough
      obtain ⟨fuel, rfl⟩ : ∃ fuel', fuel = fuel' + 2 := ⟨fuel - 2, by omega⟩
      obtain ⟨c, cs, front, visible, other⟩ := printChars_cons integral.1
      rw [printChars, List.cons_append, List.cons_append, readValue_array, List.append_assoc]
      refine Reads.open fun limit => .map ?_ array
      rw [front, List.cons_append, readElements_first visible other, ← List.cons_append, ← front]
      exact reads_element
        (reads_value v integral.1 ordered.1 (closes_printElements vs rest) (by omega))
        (reads_elements vs integral.2 ordered.2 (by omega))
  | .object [], integral, _, fuel, limit, rest, _, enough => by
      simp only [printChars, List.length_cons, List.length_nil] at enough
      obtain ⟨fuel, rfl⟩ : ∃ fuel', fuel = fuel' + 2 := ⟨fuel - 2, by omega⟩
      rw [printChars, List.cons_append, readValue_object]
      refine Reads.open fun limit => .map ?_ object
      rw [List.singleton_append, readMembers_close]
      exact ⟨fun _ => rfl, fun no => absurd (Nat.zero_le _) no⟩
  | .object ((k, v) :: ms), integral, ordered, fuel, limit, rest, _, enough => by
      simp only [isIntegral, membersIntegral, isOrdered, membersOrdered, Bool.and_eq_true]
        at integral ordered
      simp only [printChars, quote, List.length_cons, List.length_append] at enough
      obtain ⟨fuel, rfl⟩ : ∃ fuel', fuel = fuel' + 3 := ⟨fuel - 3, by omega⟩
      simp only [printChars, quote, List.cons_append, List.append_assoc, List.nil_append]
      rw [readValue_object]
      refine Reads.open fun limit => .map ?_ object
      rw [readMembers_first]
      have ascend := pairwise_of_keysAscend ordered.1
      exact reads_member (List.forall_mem_nil _)
        (reads_value v integral.1 ordered.2.1 (closes_printMembers ms rest) (by omega))
        (reads_members ms [(k, v)] integral.2 ordered.2.2 ascend (by omega))

/-- The elements behind the first one, up to the closing bracket. -/
theorem reads_elements : ∀ (vs : List Json), elementsIntegral vs = true → elementsOrdered vs = true →
    ∀ {fuel limit : Nat} {rest : List Char}, 3 * (printElements vs).length ≤ fuel →
      Reads (elementsDepth vs ≤ limit) (readElements fuel limit false (printElements vs ++ rest)) vs
        rest
  | [], _, _, fuel, limit, rest, enough => by
      simp only [printElements, List.length_cons, List.length_nil] at enough
      obtain ⟨fuel, rfl⟩ : ∃ fuel', fuel = fuel' + 1 := ⟨fuel - 1, by omega⟩
      rw [printElements, List.singleton_append, readElements_close]
      exact ⟨fun _ => rfl, fun no => absurd (Nat.zero_le _) no⟩
  | v :: vs, integral, ordered, fuel, limit, rest, enough => by
      simp only [elementsIntegral, elementsOrdered, Bool.and_eq_true] at integral ordered
      simp only [printElements, List.length_cons, List.length_append] at enough
      obtain ⟨fuel, rfl⟩ : ∃ fuel', fuel = fuel' + 1 := ⟨fuel - 1, by omega⟩
      obtain ⟨c, cs, front, visible, other⟩ := printChars_cons integral.1
      rw [printElements, List.cons_append, List.cons_append, List.append_assoc, front,
        List.cons_append, readElements_next visible other, ← List.cons_append, ← front]
      exact reads_element
        (reads_value v integral.1 ordered.1 (closes_printElements vs rest) (by omega))
        (reads_elements vs integral.2 ordered.2 (by omega))

/-- The members behind those that were read, up to the closing brace. -/
theorem reads_members : ∀ (ms before : List (String × Json)), membersIntegral ms = true →
    membersOrdered ms = true → (before ++ ms).Pairwise (·.1 < ·.1) →
    ∀ {fuel limit : Nat} {rest : List Char}, 3 * (printMembers ms).length ≤ fuel →
      Reads (membersDepth ms ≤ limit) (readMembers fuel limit false before (printMembers ms ++ rest))
        (before ++ ms) rest
  | [], before, _, _, _, fuel, limit, rest, enough => by
      simp only [printMembers, List.length_cons, List.length_nil] at enough
      obtain ⟨fuel, rfl⟩ : ∃ fuel', fuel = fuel' + 1 := ⟨fuel - 1, by omega⟩
      rw [printMembers, List.singleton_append, readMembers_close, List.append_nil]
      exact ⟨fun _ => rfl, fun no => absurd (Nat.zero_le _) no⟩
  | (k, v) :: ms, before, integral, ordered, ascend, fuel, limit, rest, enough => by
      simp only [membersIntegral, membersOrdered, Bool.and_eq_true] at integral ordered
      simp only [printMembers, quote, List.length_cons, List.length_append] at enough
      obtain ⟨fuel, rfl⟩ : ∃ fuel', fuel = fuel' + 2 := ⟨fuel - 2, by omega⟩
      simp only [printMembers, quote, List.cons_append, List.append_assoc, List.nil_append]
      rw [readMembers_next]
      have last : ∀ m ∈ before, m.1 < k := fun m mem =>
        (List.pairwise_append.mp ascend).2.2 m mem (k, v) List.mem_cons_self
      have after : Reads (membersDepth ms ≤ limit)
          (readMembers fuel limit false (before ++ [(k, v)]) (printMembers ms ++ rest))
          (before ++ (k, v) :: ms) rest := by
        rw [List.append_cons before (k, v) ms] at ascend ⊢
        exact reads_members ms _ integral.2 ordered.2 ascend (by omega)
      exact reads_member last
        (reads_value v integral.1 ordered.1 (closes_printMembers ms rest) (by omega)) after

end

/-- The text of an integral value reads as the value, unless it is nested too deep. -/
theorem parse_print {v : Json} (integral : v.Integral) (ordered : v.Ordered) :
    (v.depth ≤ depthLimit → parse v.print = .ok v) ∧
      (depthLimit < v.depth → ∃ e, parse v.print = .error e ∧ e.fault = .nestedTooDeep) := by
  have reads : Reads (v.depth ≤ depthLimit)
      (readValue (3 * (printChars v).length + 3) depthLimit (printChars v ++ [])) v [] :=
    reads_value v integral ordered trivial (by omega)
  rw [List.append_nil] at reads
  rw [parse, print, String.toList_ofList, parseChars]
  refine ⟨fun shallow => ?_, fun deep => ?_⟩
  · rw [reads.read shallow]
    rfl
  · obtain ⟨n, refused⟩ := reads.refused (Nat.not_le.mpr deep)
    rw [refused]
    exact ⟨_, rfl, rfl⟩

end Registrar.Json
