import Registrar.Config.Storage
import Registrar.Proofs.Text.Decimal
import Registrar.Proofs.Url.Percent
import Registrar.Url.Parser
import Mathlib.Data.List.TakeWhile

/-!
What a client learns from the URL of a server.

The settings are put into the URL as they are. A client takes a URL apart by its delimiters and decodes
the password, so a password arrives only if it means itself in a URL: a delimiter in it ends the
authority too early, and an escape in it is decoded to something else. A colon or an at sign does no harm,
because the first colon and the last at sign are those that the settings put there.

* `Locator.read`: how a client reads the URL.
* `Locator.read_url`: a password without a delimiter arrives as it is decoded, with the rest intact.
* `Locator.plainLength_of_read`: one with a delimiter loses at least what comes from there on.
* `Locator.read_url_iff`: the passwords that arrive.
-/

namespace Registrar

/-! ### Texts cut at a sign -/

namespace Url

variable {p : Char → Bool} {sep : Char}

theorem cutAt_append {xs ys : List Char} {c : Char} (before : ∀ x ∈ xs, p x = false)
    (first : p c = true) : cutAt p (xs ++ c :: ys) = (xs, c :: ys) := by
  have passed : ∀ x ∈ xs, (!p x) = true := fun x mem => by rw [before x mem]; rfl
  rw [cutAt, List.takeWhile_append_of_pos passed, List.dropWhile_append_of_pos passed,
    List.takeWhile_cons_of_neg (by simp [first]), List.dropWhile_cons_of_neg (by simp [first]),
    List.append_nil]

theorem cutAt_of_forall {xs : List Char} (every : ∀ x ∈ xs, p x = false) : cutAt p xs = (xs, []) := by
  have passed : ∀ x ∈ xs, (!p x) = true := fun x mem => by rw [every x mem]; rfl
  rw [cutAt, List.takeWhile_eq_self_iff.mpr passed, List.dropWhile_eq_nil_iff.mpr passed]

theorem cutAfter_append {xs ys : List Char} (before : sep ∉ xs) :
    cutAfter sep (xs ++ sep :: ys) = (xs, some ys) := by
  have cut : cutAt (· == sep) (xs ++ sep :: ys) = (xs, sep :: ys) :=
    cutAt_append (fun x mem => beq_false_of_ne (ne_of_mem_of_not_mem mem before)) (beq_self_eq_true sep)
  rw [cutAfter, cut]

theorem cutAfter_of_notMem {xs : List Char} (free : sep ∉ xs) : cutAfter sep xs = (xs, none) := by
  have cut : cutAt (· == sep) xs = (xs, []) :=
    cutAt_of_forall fun x mem => beq_false_of_ne (ne_of_mem_of_not_mem mem free)
  rw [cutAfter, cut]

/-- Cutting at a sign takes nothing but that sign away. -/
theorem cutAfter_eq_some {cs xs ys : List Char} (cut : cutAfter sep cs = (xs, some ys)) :
    cs = xs ++ sep :: ys ∧ sep ∉ xs := by
  by_cases mem : sep ∈ cs
  · obtain ⟨front, back, rfl, before⟩ := List.eq_append_cons_of_mem mem
    rw [cutAfter_append before] at cut
    cases cut
    exact ⟨rfl, before⟩
  · rw [cutAfter_of_notMem mem] at cut
    cases cut

/-- What comes after the last such sign. -/
theorem cutAtLast_append {xs ys : List Char} (behind : sep ∉ ys) :
    cutAtLast sep (xs ++ sep :: ys) = (some xs, ys) := by
  have reversed : (xs ++ sep :: ys).reverse = ys.reverse ++ sep :: xs.reverse := by simp
  rw [cutAtLast, reversed, cutAfter_append (by simpa using behind)]
  simp only [List.reverse_reverse]

/-- What stands before the last such sign is a part of the text. -/
theorem sublist_of_cutAtLast {cs xs ys : List Char} (cut : cutAtLast sep cs = (some xs, ys)) :
    xs.Sublist cs := by
  unfold cutAtLast at cut
  split at cut
  · rename_i back front found
    cases cut
    obtain ⟨text, _⟩ := cutAfter_eq_some found
    rw [← List.reverse_reverse cs, text, List.reverse_append, List.reverse_cons, List.append_assoc]
    exact List.sublist_append_left _ _
  · cases cut

end Url

/-! ### Reading the URL of a server -/

namespace Redis

/-- What a URL tells of a server: the password that is asked for, where the server is, and which of
its databases is meant. -/
structure Locator where
  password : Option String
  address : String
  database : Int64
deriving DecidableEq

namespace Locator

def endsAuthority (c : Char) : Bool := c == '/' || c == '?' || c == '#'

def endsPath (c : Char) : Bool := c == '?' || c == '#'

/-- The password of a user: what comes after the first colon, decoded. It may not be there, and it may
not be a text. -/
def readPassword (user : Option (List Char)) : Option (Option String) :=
  match user.bind fun cs => (Url.cutAfter ':' cs).2 with
  | some cs => (Percent.decode? cs).map some
  | none => some none

/-- The number of a database: the path behind its slash. -/
def readDatabase : List Char → Option Int64
  | '/' :: cs =>
    (Text.readInteger Text.signedBound (String.ofList (Url.cutAt endsPath cs).1)).map Int64.ofInt
  | _ => none

/-- Reads what stands behind the scheme: the authority, with the user before its last at sign, and the
path. -/
def readParts (cs : List Char) : Option Locator := do
  let (authority, path) := Url.cutAt endsAuthority cs
  let (user, address) := Url.cutAtLast '@' authority
  let password ← readPassword user
  let database ← readDatabase path
  some ⟨password, String.ofList address, database⟩

def read (s : String) : Option Locator :=
  match s.toList with
  | 'r' :: 'e' :: 'd' :: 'i' :: 's' :: ':' :: '/' :: '/' :: cs => readParts cs
  | _ => none

/-- The settings of a server with a password, as a client should come to know them. -/
def ofSettings (s : RedisSettings) : Locator := ⟨s.password, s.address, s.database⟩

variable {s : RedisSettings} {password : String}

theorem readParts_append {authority path : List Char} {c : Char}
    (inside : ∀ c ∈ authority, endsAuthority c = false) (ends : endsAuthority c = true) :
    readParts (authority ++ c :: path) =
      (readPassword (Url.cutAtLast '@' authority).1).bind fun password =>
        (readDatabase (c :: path)).map fun database =>
          ⟨password, String.ofList (Url.cutAtLast '@' authority).2, database⟩ := by
  rw [readParts, Url.cutAt_append inside ends]
  dsimp only
  cases readDatabase (c :: path) <;> rfl

/-- The number of a database as it is written. -/
theorem readDatabase_toString (n : Int64) : readDatabase ('/' :: (toString n.toInt).toList) = some n := by
  have digits : ∀ c ∈ (toString n.toInt).toList, endsPath c = false := by
    intro c mem
    rcases Text.eq_or_isDigit_of_mem_toString mem with rfl | digit
    · rfl
    · rw [endsPath, Bool.or_eq_false_iff, beq_eq_false_iff_ne, beq_eq_false_iff_ne]
      constructor <;> rintro rfl <;> cases digit
  have lower : -(Text.signedBound : Int) ≤ n.toInt := n.le_toInt
  have upper : n.toInt < Text.signedBound := n.toInt_lt
  rw [readDatabase, Url.cutAt_of_forall digits, String.ofList_toList,
    Text.readInteger_toString lower upper, Option.map_some, Int64.ofInt_toInt]

theorem read_url_eq (set : s.password = some password) :
    read s.url = readParts (':' :: password.toList ++ '@' :: s.address.toList ++
      '/' :: (toString s.database.toInt).toList) := by
  have text : s.url.toList = 'r' :: 'e' :: 'd' :: 'i' :: 's' :: ':' :: '/' :: '/' ::
      (':' :: password.toList ++ '@' :: s.address.toList ++
        '/' :: (toString s.database.toInt).toList) := by
    simp [RedisSettings.url, set, String.toList_append]
  rw [read, text]
  rfl

/-- A password without a delimiter is read as it is decoded, and the rest as it is set. -/
theorem read_url (set : s.password = some password) (bare : '@' ∉ s.address.toList)
    (inside : ∀ c ∈ s.address.toList, endsAuthority c = false)
    (whole : ∀ c ∈ password.toList, endsAuthority c = false) :
    read s.url = (Percent.decode? password.toList).map fun decoded =>
      { ofSettings s with password := some decoded } := by
  have authority : ∀ c ∈ ':' :: password.toList ++ '@' :: s.address.toList,
      endsAuthority c = false := by
    simp only [List.cons_append, List.mem_cons, List.mem_append]
    rintro c (rfl | mem | rfl | mem)
    · rfl
    · exact whole c mem
    · rfl
    · exact inside c mem
  have first : Url.cutAfter ':' (':' :: password.toList) = ([], some password.toList) :=
    Url.cutAfter_append List.not_mem_nil
  rw [read_url_eq set, readParts_append authority rfl, Url.cutAtLast_append bare,
    readDatabase_toString, readPassword, Option.bind_some, first, String.ofList_toList]
  dsimp only
  cases Percent.decode? password.toList <;> rfl

/-- Of a password with a delimiter, no more is read than what stands before that. -/
theorem plainLength_of_read {front path : List Char} {c : Char} {l : Locator} {decoded : String}
    (whole : ∀ c ∈ front, endsAuthority c = false) (ends : endsAuthority c = true)
    (read : readParts (':' :: front ++ c :: path) = some l) (given : l.password = some decoded) :
    Percent.plainLength decoded.toList ≤ Percent.plainLength front := by
  have authority : ∀ c ∈ ':' :: front, endsAuthority c = false :=
    List.forall_mem_cons.mpr ⟨rfl, whole⟩
  rw [readParts_append authority ends] at read
  obtain ⟨found, password, read⟩ := Option.bind_eq_some_iff.mp read
  obtain ⟨database, _, rfl⟩ := Option.map_eq_some_iff.mp read
  subst given
  unfold readPassword at password
  split at password
  · rename_i cs behind
    obtain ⟨user, last, first⟩ := Option.bind_eq_some_iff.mp behind
    obtain ⟨text, decodes, same⟩ := Option.map_eq_some_iff.mp password
    cases same
    -- What is decoded comes after a colon in a part of what stands before the delimiter.
    have user_sub : user.Sublist (':' :: front) := Url.sublist_of_cutAtLast (Prod.ext last rfl)
    obtain ⟨split, _⟩ := Url.cutAfter_eq_some (Prod.ext rfl first)
    have sub : (':' :: cs).Sublist (':' :: front) := by
      rw [split] at user_sub
      exact (List.sublist_append_right _ _).trans user_sub
    exact (Percent.plainLength_of_decode? decodes).trans
      (Percent.plainLength_le_of_sublist (List.cons_sublist_cons.mp sub))
  · cases password

/-- The settings of a server with a password are put into a URL as they are. A client that reads the URL
comes to know exactly what is set if no delimiter and no escape is in the password, and something else,
or nothing, in every other case. -/
theorem read_url_iff (s : RedisSettings) (password : String) (set : s.password = some password)
    (bare : '@' ∉ s.address.toList) (inside : ∀ c ∈ s.address.toList, endsAuthority c = false) :
    read s.url = some (ofSettings s) ↔
      (∀ c ∈ password.toList, endsAuthority c = false) ∧ ¬ Percent.HasEscape password.toList := by
  have arrives (whole : ∀ c ∈ password.toList, endsAuthority c = false) :
      read s.url = some (ofSettings s) ↔ Percent.decode? password.toList = some password := by
    rw [read_url set bare inside whole, Option.map_eq_some_iff]
    constructor
    · rintro ⟨decoded, decodes, same⟩
      have own : some decoded = some password := (congrArg Locator.password same).trans set
      rw [decodes, own]
    · intro decodes
      exact ⟨password, decodes, by rw [ofSettings, set]⟩
  constructor
  · intro read
    have whole : ∀ c ∈ password.toList, endsAuthority c = false := by
      by_contra delimited
      simp only [not_forall, Bool.not_eq_false] at delimited
      obtain ⟨c, found⟩ := Option.isSome_iff_exists.mp (List.find?_isSome.mpr (by simpa using delimited))
      obtain ⟨ends, front, back, text, before⟩ := List.find?_eq_some_iff_append.mp found
      have before : ∀ x ∈ front, endsAuthority x = false := by simpa using before
      rw [read_url_eq set, text, ← List.cons_append, List.append_assoc, List.append_assoc,
        List.cons_append] at read
      have shorter := plainLength_of_read before ends read set
      rw [text, Percent.plainLength_append, Percent.plainLength_cons] at shorter
      have positive := c.utf8Size_pos
      omega
    exact ⟨whole, Percent.decode?_eq_self_iff.mp ((arrives whole).mp read)⟩
  · rintro ⟨whole, plain⟩
    exact (arrives whole).mpr (Percent.decode?_eq_self_iff.mpr plain)

/-- Whether there is a delimiter in a text is found out sign by sign. -/
theorem whole_of_all {text : String}
    (checked : text.toList.all (fun c => !endsAuthority c) = true) :
    ∀ c ∈ text.toList, endsAuthority c = false := by
  simpa only [List.all_eq_true, Bool.not_eq_true'] using checked

/-- Colons, at signs, blanks and a stray percent sign in a password do no harm. -/
theorem read_url_iff_stray_signs :
    let s : RedisSettings :=
      { RedisSettings.default with password := some ":a@b c%4", address := "cache:6380", database := -3 }
    read s.url = some (ofSettings s) := by
  intro s
  exact (read_url_iff s ":a@b c%4" rfl (by decide) (whole_of_all (by decide))).mpr
    ⟨whole_of_all (by decide), by decide⟩

/-- A password that looks as if it were encoded arrives as another one, and with a slash in a password
nothing can be made of the URL. -/
theorem reserved_password_read_otherwise :
    let s : RedisSettings :=
      { RedisSettings.default with password := some "p%40ss", address := "cache:6380", database := 3 }
    read s.url = some ⟨some "p@ss", "cache:6380", 3⟩ ∧ read s.url ≠ some (ofSettings s) ∧
      read { s with password := some "p/ss" }.url = none := by
  intro s
  have arrives : read s.url = some ⟨some "p@ss", "cache:6380", 3⟩ := by
    have decodes : Percent.decode? "p%40ss".toList = some "p@ss" := Percent.textOfBytes?_bytes "p@ss"
    have whole := @read_url s "p%40ss" rfl (by decide) (whole_of_all (by decide))
      (whole_of_all (by decide))
    rwa [decodes] at whole
  refine ⟨arrives, ?_, by decide +kernel⟩
  rw [arrives]
  decide

end Locator

end Redis

end Registrar
