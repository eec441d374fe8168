/-!
White space, as the Unicode property `White_Space` draws it, and the three things the bot does with
it: trimming a text, telling a blank text, and cutting a text at its first white space.

Main statements: `trim` takes nothing but white space off the two ends (`trim_spec`), and a text is
blank exactly when trimming leaves nothing (`isBlank_iff_trim`), and a text that has been trimmed is
left as it is (`trim_trim`).
-/

namespace Registrar.Text

/-- Members of the Unicode property `White_Space`: 25 characters, among them the no-break space but
none of the zero-width ones. -/
def isWhiteSpace (c : Char) : Bool :=
  let n := c.toNat
  (9 ≤ n && n ≤ 13) || n == 0x20 || n == 0x85 || n == 0xA0 || n == 0x1680 ||
    (0x2000 ≤ n && n ≤ 0x200A) || n == 0x2028 || n == 0x2029 || n == 0x202F || n == 0x205F ||
    n == 0x3000

def trimStart (cs : List Char) : List Char :=
  cs.dropWhile isWhiteSpace

def trimEnd : List Char → List Char
  | [] => []
  | c :: cs =>
    match trimEnd cs with
    | [] => if isWhiteSpace c then [] else [c]
    | rest => c :: rest

def trimChars (cs : List Char) : List Char :=
  trimEnd (trimStart cs)

/-- A text without the white space at its two ends. -/
def trim (s : String) : String :=
  String.ofList (trimChars s.toList)

/-- Whether a text holds nothing but white space. -/
def isBlank (s : String) : Bool :=
  s.toList.all isWhiteSpace

/-! ### Laws -/

@[simp] theorem trimEnd_nil : trimEnd [] = [] := rfl

theorem trimEnd_eq_nil_iff {cs : List Char} : trimEnd cs = [] ↔ cs.all isWhiteSpace = true := by
  induction cs with
  | nil => simp
  | cons c cs ih =>
    rw [trimEnd]
    cases h : trimEnd cs with
    | nil =>
      have := ih.1 h
      by_cases hc : isWhiteSpace c <;> simp_all
    | cons d ds =>
      have : ¬ cs.all isWhiteSpace = true := fun hh => by simp [ih.2 hh] at h
      simp_all

/-- Trimming the end cuts a stretch of white space off, and nothing else. -/
theorem trimEnd_append_space (cs : List Char) :
    ∃ ws, cs = trimEnd cs ++ ws ∧ ws.all isWhiteSpace = true := by
  induction cs with
  | nil => exact ⟨[], rfl, rfl⟩
  | cons c cs ih =>
    obtain ⟨ws, hcs, hws⟩ := ih
    rw [trimEnd]
    cases h : trimEnd cs with
    | nil =>
      rw [h] at hcs
      by_cases hc : isWhiteSpace c
      · exact ⟨c :: ws, by simp [hc, hcs], by simpa [hc] using hws⟩
      · exact ⟨ws, by simp [hc, hcs], hws⟩
    | cons d ds =>
      rw [h] at hcs
      exact ⟨ws, by simp [hcs], hws⟩

theorem trimStart_append_space (cs : List Char) :
    ∃ ws, cs = ws ++ trimStart cs ∧ ws.all isWhiteSpace = true :=
  ⟨cs.takeWhile isWhiteSpace, by simp [trimStart, List.takeWhile_append_dropWhile],
    by simp⟩

/-- A text is its trim between two stretches of white space. -/
theorem trim_spec (s : String) :
    ∃ before after : List Char, s.toList = before ++ (trim s).toList ++ after ∧
      before.all isWhiteSpace = true ∧ after.all isWhiteSpace = true := by
  obtain ⟨before, h₁, hb⟩ := trimStart_append_space s.toList
  obtain ⟨after, h₂, ha⟩ := trimEnd_append_space (trimStart s.toList)
  refine ⟨before, after, ?_, hb, ha⟩
  rw [trim, String.toList_ofList, trimChars, List.append_assoc, ← h₂, ← h₁]

theorem isBlank_iff_trim {s : String} : isBlank s = true ↔ trim s = "" := by
  have hstart : ∀ cs : List Char,
      (trimStart cs).all isWhiteSpace = true ↔ cs.all isWhiteSpace = true := by
    intro cs
    induction cs with
    | nil => simp [trimStart]
    | cons c cs ih =>
      by_cases hc : isWhiteSpace c
      · simpa [trimStart, hc] using ih
      · simp [trimStart, hc]
  rw [isBlank, ← hstart, ← trimEnd_eq_nil_iff, trim, trimChars]
  constructor
  · intro h
    rw [h]
  · intro h
    have := congrArg String.toList h
    simpa using this

theorem trimEnd_trimEnd (cs : List Char) : trimEnd (trimEnd cs) = trimEnd cs := by
  induction cs with
  | nil => rfl
  | cons c cs ih =>
    rw [trimEnd]
    cases h : trimEnd cs with
    | nil => by_cases hc : isWhiteSpace c <;> simp [hc, trimEnd]
    | cons d ds =>
      rw [h] at ih
      simp only
      rw [trimEnd, ih]

/-- Trimming the end leaves a first character that is not white space where it is. -/
theorem trimStart_trimEnd_trimStart (cs : List Char) :
    trimStart (trimEnd (trimStart cs)) = trimEnd (trimStart cs) := by
  cases h : trimStart cs with
  | nil => rfl
  | cons c rest =>
    have visible : isWhiteSpace c = false := by
      have first := List.head?_dropWhile_not isWhiteSpace cs
      rw [show cs.dropWhile isWhiteSpace = c :: rest from h] at first
      simpa using first
    rw [trimEnd]
    split <;> simp [trimStart, visible]

theorem trim_trim (s : String) : trim (trim s) = trim s := by
  rw [trim, trim, String.toList_ofList, trimChars, trimChars, trimStart_trimEnd_trimStart,
    trimEnd_trimEnd]

/-- Two texts put together are blank exactly if both of them are. -/
theorem isBlank_append (s t : String) : isBlank (s ++ t) = (isBlank s && isBlank t) := by
  rw [isBlank, String.toList_append, List.all_append]
  rfl

end Registrar.Text
