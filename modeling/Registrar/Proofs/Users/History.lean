import Registrar.Users.Directory
import Mathlib.Data.List.Nodup
import Mathlib.Data.List.Induction

/-!
What the table of users holds after any history.

Records are entered one after another, and some of them are refused. Which row a login then has
depends on the accepted records of that login alone: `standing` reads it off them, column by column,
without going through the table. The table agrees with it because entering one more record does to
the row of its login what one more record does to `standing`, and leaves the rows of others alone.

* `enter_cases`: what entering a record does, in four cases.
* `Keyed.enter`: logins and identifiers stay unique.
* `filter_after`: the rows of a login are what `standing` says, so there is one or none.
* `rows_after_history`: this, and what the next record is answered.
-/

namespace Registrar

namespace Roles

@[simp] theorem none_union (r : Roles) : none.union r = r := by
  simp [union, none]

/-- Roles that are there already add nothing. -/
theorem union_of_contains {r given : Roles} (held : r.contains given = true) :
    r.union given = r := by
  have both : r.bits &&& given.bits = given.bits := by simpa [contains] using held
  have same : r.bits ||| given.bits = r.bits := by
    rw [← both]
    refine UInt32.toBitVec_inj.mp (BitVec.eq_of_getLsbD_eq fun i _ => ?_)
    simp only [UInt32.toBitVec_or, UInt32.toBitVec_and, BitVec.getLsbD_or, BitVec.getLsbD_and]
    cases r.bits.toBitVec.getLsbD i <;> rfl
  rw [union, same]

def has (r : Roles) (i : Nat) : Bool := r.bits.toBitVec.getLsbD i

theorem has_union (a b : Roles) (i : Nat) : (a.union b).has i = (a.has i || b.has i) := by
  simp [has, union]

end Roles

namespace Directory

/-- A record that is to be entered, and the time at which that is tried. -/
structure Entering where
  now : Instant
  given : UserRecord

def afterAll (d : Directory) (calls : List Entering) : Directory :=
  calls.foldl (fun d e => (d.enter e.now e.given).2) d

/-- The records that are accepted on the way, the earliest first. -/
def accepted (d : Directory) : List Entering → List Entering
  | [] => []
  | e :: rest =>
    match d.enter e.now e.given with
    | (.ok _, d) => e :: accepted d rest
    | (.error _, d) => accepted d rest

def ofLogin (login : String) (calls : List Entering) : List Entering :=
  calls.filter fun e => e.given.login = login

/-- The messenger identity that was given last, if any was. -/
def lastTelegramId (calls : List Entering) : Option Int64 :=
  calls.reverse.findSome? (·.given.telegramId)

def allRoles (calls : List Entering) : Roles :=
  calls.foldl (fun roles e => roles.union e.given.roles) .none

/-- The row that records for one login add up to: identifier and time of creation are those of the
first, the messenger identity is the last one that was given, and the roles are those of all. -/
def standing : List Entering → Option UserRecord
  | [] => none
  | first :: rest =>
    some
      { id := first.given.id
        login := first.given.login
        telegramId := lastTelegramId (first :: rest)
        roles := allRoles (first :: rest)
        createdAt := first.given.createdAt
        updatedAt := (rest.getLast?.getD first).now }

def replace (d : Directory) (login : String) (row : UserRecord) : Directory :=
  ⟨d.rows.map fun r => if r.login = login then row else r⟩

variable {d : Directory} {now : Instant} {given row : UserRecord} {login : String}

/-! ### Entering one record -/

/-- Entering a record is refused for a blank login, or for an identifier that is taken if the login is
new; otherwise it merges the record with the row of its login, or adds a row. -/
theorem enter_cases (d : Directory) (now : Instant) (given : UserRecord) :
    (Text.isBlank given.login = true ∧ d.enter now given = (.error blankLogin, d)) ∨
    (Text.isBlank given.login = false ∧ d.byLogin? given.login = none ∧
      d.byId? given.id ≠ none ∧ d.enter now given = (.error duplicateId, d)) ∨
    (Text.isBlank given.login = false ∧ ∃ row, d.byLogin? given.login = some row ∧
      d.enter now given = (.ok (merge now row given), d.replace given.login (merge now row given))) ∨
    (Text.isBlank given.login = false ∧ d.byLogin? given.login = none ∧ d.byId? given.id = none ∧
      d.enter now given =
        (.ok { given with updatedAt := now }, ⟨d.rows ++ [{ given with updatedAt := now }]⟩)) := by
  unfold enter
  cases blank : Text.isBlank given.login with
  | true => exact .inl ⟨rfl, if_pos rfl⟩
  | false =>
      refine .inr ?_
      rw [if_neg Bool.false_ne_true]
      cases known : d.byLogin? given.login with
      | some row => exact .inr (.inl ⟨rfl, row, rfl, rfl⟩)
      | none =>
          cases taken : d.byId? given.id with
          | some row => exact .inl ⟨rfl, rfl, nofun, rfl⟩
          | none => exact .inr (.inr ⟨rfl, rfl, rfl, rfl⟩)

theorem login_of_byLogin? (found : d.byLogin? login = some row) : row.login = login := by
  simpa using List.find?_some found

/-- When entering a record is refused, and that it then does nothing. -/
theorem enter_refused (d : Directory) (now : Instant) (given : UserRecord) :
    ((∃ e, (d.enter now given).1 = .error e) ↔ Text.isBlank given.login = true ∨
      (d.byLogin? given.login = none ∧ d.byId? given.id ≠ none)) ∧
    ((∃ e, (d.enter now given).1 = .error e) → (d.enter now given).2 = d) := by
  rcases enter_cases d now given with ⟨blank, after⟩ | ⟨visible, new, taken, after⟩ |
    ⟨visible, row, known, after⟩ | ⟨visible, new, free, after⟩
  · simp [after, blank]
  · simp [after, new, taken]
  · simp [after, visible, known]
  · simp [after, visible, free]

/-! ### Logins and identifiers -/

/-- No two rows share a login or an identifier, and no login is blank. -/
structure Keyed (d : Directory) : Prop where
  logins : (d.rows.map UserRecord.login).Nodup
  ids : (d.rows.map UserRecord.id).Nodup
  visible {r : UserRecord} : r ∈ d.rows → Text.isBlank r.login = false

/-- In a list without repetition of a key, a member is found by its key. -/
theorem find?_eq_some_of_nodup {κ : Type} [DecidableEq κ] {key : UserRecord → κ}
    {rows : List UserRecord} (nodup : (rows.map key).Nodup) (mem : row ∈ rows) :
    (rows.find? fun r => key r = key row) = some row := by
  induction rows with
  | nil => cases mem
  | cons r rows ih =>
      rw [List.map_cons, List.nodup_cons] at nodup
      rcases List.mem_cons.mp mem with rfl | mem
      · exact List.find?_cons_of_pos (by simp)
      · have other : key r ≠ key row := fun same =>
          nodup.1 (same ▸ List.mem_map_of_mem mem)
        rw [List.find?_cons_of_neg (by simpa using other)]
        exact ih nodup.2 mem

theorem Keyed.byLogin?_of_mem (keyed : d.Keyed) (mem : row ∈ d.rows) :
    d.byLogin? row.login = some row := find?_eq_some_of_nodup keyed.logins mem

theorem Keyed.byId?_of_mem (keyed : d.Keyed) (mem : row ∈ d.rows) :
    d.byId? row.id = some row := find?_eq_some_of_nodup keyed.ids mem

theorem mem_of_byLogin? (found : d.byLogin? login = some row) : row ∈ d.rows :=
  List.mem_of_find?_eq_some found

theorem not_mem_map_of_find? {κ : Type} [DecidableEq κ] {key : UserRecord → κ} {k : κ}
    {rows : List UserRecord} (absent : (rows.find? fun r => key r = k) = none) :
    k ∉ rows.map key := by
  intro mem
  obtain ⟨r, mem, same⟩ := List.mem_map.mp mem
  simpa [same] using List.find?_eq_none.mp absent r mem

/-- A merge keeps what identifies a row. -/
theorem map_replace_merge {κ : Type} {key : UserRecord → κ} (keyed : d.Keyed)
    (known : d.byLogin? given.login = some row) (kept : key (merge now row given) = key row) :
    (d.replace given.login (merge now row given)).rows.map key = d.rows.map key := by
  simp only [replace, List.map_map]
  refine List.map_congr_left fun r mem => ?_
  simp only [Function.comp_apply]
  split
  · rename_i same
    have found := keyed.byLogin?_of_mem mem
    rw [same, known] at found
    rw [kept, Option.some.inj found]
  · rfl

/-- What identifies rows stays unique. -/
theorem Keyed.enter (keyed : d.Keyed) (now : Instant) (given : UserRecord) :
    (d.enter now given).2.Keyed := by
  rcases enter_cases d now given with ⟨_, after⟩ | ⟨_, _, _, after⟩ |
    ⟨visible, row, known, after⟩ | ⟨visible, new, free, after⟩
  · rw [after]
    exact keyed
  · rw [after]
    exact keyed
  · rw [after]
    refine ⟨?_, ?_, fun {r} mem => ?_⟩
    · rw [map_replace_merge keyed known rfl]
      exact keyed.logins
    · rw [map_replace_merge keyed known rfl]
      exact keyed.ids
    · obtain ⟨r', mem', rfl⟩ := List.mem_map.mp mem
      split
      · exact login_of_byLogin? known ▸ visible
      · exact keyed.visible mem'
  · rw [after]
    refine ⟨?_, ?_, fun {r} mem => ?_⟩
    · simp only [List.map_append, List.map_cons, List.map_nil]
      exact List.nodup_append_comm.mp (List.nodup_cons.mpr ⟨not_mem_map_of_find? new, keyed.logins⟩)
    · simp only [List.map_append, List.map_cons, List.map_nil]
      exact List.nodup_append_comm.mp (List.nodup_cons.mpr ⟨not_mem_map_of_find? free, keyed.ids⟩)
    · rcases List.mem_append.mp mem with mem | mem
      · exact keyed.visible mem
      · rw [List.mem_singleton.mp mem]
        exact visible

theorem keyed_empty : empty.Keyed := ⟨List.nodup_nil, List.nodup_nil, nofun⟩

/-! ### The rows of a login -/

def rowsOf (d : Directory) (login : String) : List UserRecord :=
  d.rows.filter fun r => r.login = login

/-- A login has the row by which it is found, and no other. -/
theorem Keyed.rowsOf_eq (keyed : d.Keyed) (login : String) :
    d.rowsOf login = (d.byLogin? login).toList := by
  have logins := keyed.logins
  unfold rowsOf byLogin?
  generalize d.rows = rows at logins
  induction rows with
  | nil => rfl
  | cons r rows ih =>
      rw [List.map_cons, List.nodup_cons] at logins
      by_cases same : r.login = login
      · have others : rows.filter (fun r => r.login = login) = [] := by
          refine List.filter_eq_nil_iff.mpr fun r' mem same' => logins.1 ?_
          rw [same, ← of_decide_eq_true same']
          exact List.mem_map_of_mem mem
        rw [List.filter_cons_of_pos (by simpa using same), others,
          List.find?_cons_of_pos (by simpa using same)]
        rfl
      · rw [List.filter_cons_of_neg (by simpa using same),
          List.find?_cons_of_neg (by simpa using same)]
        exact ih logins.2

/-- A record adds to what the records for its login have come to. -/
def absorb (now : Instant) (given : UserRecord) : Option UserRecord → UserRecord
  | none => { given with updatedAt := now }
  | some row => merge now row given

theorem lastTelegramId_concat (calls : List Entering) (e : Entering) :
    lastTelegramId (calls ++ [e]) = e.given.telegramId.or (lastTelegramId calls) := by
  rw [lastTelegramId, List.reverse_concat, List.findSome?_cons]
  cases e.given.telegramId <;> rfl

theorem allRoles_concat (calls : List Entering) (e : Entering) :
    allRoles (calls ++ [e]) = (allRoles calls).union e.given.roles := List.foldl_concat ..

theorem standing_concat (calls : List Entering) (e : Entering) :
    standing (calls ++ [e]) = some (absorb e.now e.given (standing calls)) := by
  cases calls with
  | nil => simp [standing, absorb, lastTelegramId, allRoles]
  | cons first rest =>
      simp only [List.cons_append, standing, absorb, merge, ← lastTelegramId_concat,
        ← allRoles_concat, List.getLast?_concat, Option.getD_some]

theorem byLogin?_replace (d : Directory) (named : row.login = login) (login' : String) :
    (d.replace login row).byLogin? login' =
      (d.byLogin? login').map fun r => if login' = login then row else r := by
  have kept : ∀ r : UserRecord, (if r.login = login then row else r).login = r.login := by
    intro r
    split
    · rename_i same
      rw [named, same]
    · rfl
  simp only [byLogin?, replace, List.find?_map, Function.comp_def, kept]
  refine Option.map_congr fun r found => ?_
  rw [login_of_byLogin? found]

/-- A record that is accepted is absorbed by the row of its login, and no other row changes. -/
theorem byLogin?_enter (answered : (d.enter now given).1 = .ok row) :
    row = absorb now given (d.byLogin? given.login) ∧
      ∀ login, (d.enter now given).2.byLogin? login =
        if login = given.login then some row else d.byLogin? login := by
  rcases enter_cases d now given with ⟨_, after⟩ | ⟨_, _, _, after⟩ |
    ⟨visible, old, known, after⟩ | ⟨visible, new, free, after⟩
  · rw [after] at answered
    cases answered
  · rw [after] at answered
    cases answered
  · rw [after] at answered ⊢
    cases answered
    refine ⟨by rw [known]; rfl, fun login => ?_⟩
    have named : old.login = given.login := login_of_byLogin? known
    rw [byLogin?_replace d (show (merge now old given).login = given.login from named)]
    split
    · rename_i own
      rw [own, known]
      rfl
    · exact Option.map_id'
  · rw [after] at answered ⊢
    cases answered
    refine ⟨by rw [new]; rfl, fun login => ?_⟩
    rw [byLogin?, List.find?_append, List.find?_singleton]
    change (d.byLogin? login).or _ = _
    by_cases own : login = given.login
    · rw [own, new, if_pos rfl, if_pos (decide_eq_true rfl)]
      rfl
    · rw [if_neg own, if_neg (by simpa using Ne.symm own), Option.or_none]

/-! ### Histories -/

theorem afterAll_concat (d : Directory) (calls : List Entering) (e : Entering) :
    d.afterAll (calls ++ [e]) = ((d.afterAll calls).enter e.now e.given).2 := List.foldl_concat ..

theorem accepted_cons (d : Directory) (e : Entering) (rest : List Entering) :
    d.accepted (e :: rest) = (if (d.enter e.now e.given).1.isOk then [e] else []) ++
      (d.enter e.now e.given).2.accepted rest := by
  rw [accepted]
  rcases d.enter e.now e.given with ⟨answer | answer, d'⟩ <;> rfl

theorem accepted_concat (d : Directory) (calls : List Entering) (e : Entering) :
    d.accepted (calls ++ [e]) = d.accepted calls ++
      (if ((d.afterAll calls).enter e.now e.given).1.isOk then [e] else []) := by
  induction calls generalizing d with
  | nil => exact (accepted_cons d e []).trans (List.append_nil _)
  | cons first rest ih =>
      rw [List.cons_append, accepted_cons, ih, accepted_cons, List.append_assoc]
      rfl

theorem ofLogin_concat (login : String) (calls : List Entering) (e : Entering) :
    ofLogin login (calls ++ [e]) =
      if login = e.given.login then ofLogin login calls ++ [e] else ofLogin login calls := by
  rw [ofLogin, List.filter_append]
  split
  · rename_i own
    rw [List.filter_cons_of_pos (by simpa using own.symm)]
    rfl
  · rename_i other
    rw [List.filter_cons_of_neg (by simpa using Ne.symm other)]
    exact List.append_nil _

theorem keyed_afterAll (calls : List Entering) : (empty.afterAll calls).Keyed := by
  induction calls using List.reverseRecOn with
  | nil => exact keyed_empty
  | append_singleton calls e ih =>
      rw [afterAll_concat]
      exact ih.enter e.now e.given

/-- The row of a login is what the accepted records for it add up to. -/
theorem byLogin?_afterAll (calls : List Entering) (login : String) :
    (empty.afterAll calls).byLogin? login = standing (ofLogin login (empty.accepted calls)) := by
  induction calls using List.reverseRecOn generalizing login with
  | nil => rfl
  | append_singleton calls e ih =>
      rw [afterAll_concat]
      cases answer : ((empty.afterAll calls).enter e.now e.given).1 with
      | error fault =>
          have same : empty.accepted (calls ++ [e]) = empty.accepted calls := by
            rw [accepted_concat, answer]
            exact List.append_nil _
          rw [(enter_refused _ e.now e.given).2 ⟨fault, answer⟩, ih, same]
      | ok row =>
          have grows : empty.accepted (calls ++ [e]) = empty.accepted calls ++ [e] := by
            rw [accepted_concat, answer]
            rfl
          obtain ⟨absorbed, view⟩ := byLogin?_enter answer
          rw [view, absorbed, grows, ofLogin_concat]
          split
          · rename_i own
            rw [standing_concat, own, ih]
          · exact ih login

/-- What the next record is answered, and what it does to a table. -/
structure Answered (d : Directory) (e : Entering) : Prop where
  /-- Only a blank login is refused, and an identifier that is taken under a login that is new. -/
  refused_iff : (∃ fault, (d.enter e.now e.given).1 = .error fault) ↔
    Text.isBlank e.given.login = true ∨
      (d.byLogin? e.given.login = none ∧ d.byId? e.given.id ≠ none)
  unchanged {fault : UsersError} :
    (d.enter e.now e.given).1 = .error fault → (d.enter e.now e.given).2 = d
  /-- The answer is the row that is stored. -/
  found {row : UserRecord} : (d.enter e.now e.given).1 = .ok row →
    (d.enter e.now e.given).2.byLogin? e.given.login = some row ∧
      (d.enter e.now e.given).2.byId? row.id = some row
  /-- A row stays, and so do its identifier, its time of creation and its roles. -/
  kept {login : String} {row : UserRecord} : d.byLogin? login = some row →
    ∃ row', (d.enter e.now e.given).2.byLogin? login = some row' ∧ row'.id = row.id ∧
      row'.createdAt = row.createdAt ∧ ∀ i, row.roles.has i = true → row'.roles.has i = true
  /-- A record that tells nothing new moves the time of the last change, and nothing else. -/
  again {row : UserRecord} : d.byLogin? e.given.login = some row →
    row.roles.contains e.given.roles = true →
    (e.given.telegramId = none ∨ e.given.telegramId = row.telegramId) →
      d.enter e.now e.given = (.ok { row with updatedAt := e.now },
        d.replace e.given.login { row with updatedAt := e.now })

theorem Keyed.answered (keyed : d.Keyed) (e : Entering) : Answered d e where
  refused_iff := (enter_refused d e.now e.given).1
  unchanged refused := (enter_refused d e.now e.given).2 ⟨_, refused⟩
  found {row} answer := by
    have stored : (d.enter e.now e.given).2.byLogin? e.given.login = some row := by
      rw [(byLogin?_enter answer).2, if_pos rfl]
    exact ⟨stored, (keyed.enter e.now e.given).byId?_of_mem (mem_of_byLogin? stored)⟩
  kept {login row} known := by
    cases answer : (d.enter e.now e.given).1 with
    | error fault =>
        rw [(enter_refused d e.now e.given).2 ⟨fault, answer⟩]
        exact ⟨row, known, rfl, rfl, fun _ => id⟩
    | ok after =>
        obtain ⟨rfl, view⟩ := byLogin?_enter answer
        rw [view]
        split
        · rename_i own
          rw [← own, known]
          exact ⟨_, rfl, rfl, rfl, fun i held => by simp [absorb, merge, Roles.has_union, held]⟩
        · exact ⟨row, known, rfl, rfl, fun _ => id⟩
  again {row} known held told := by
    have visible : Text.isBlank e.given.login = false :=
      login_of_byLogin? known ▸ keyed.visible (mem_of_byLogin? known)
    have same : merge e.now row e.given = { row with updatedAt := e.now } := by
      have identity : e.given.telegramId.or row.telegramId = row.telegramId := by
        rcases told with nobody | same
        · rw [nobody, Option.none_or]
        · rw [same, Option.or_self]
      rw [merge, identity, Roles.union_of_contains held]
    rcases enter_cases d e.now e.given with ⟨blank, _⟩ | ⟨_, new, _⟩ |
      ⟨_, old, known', after⟩ | ⟨_, new, _⟩
    · rw [visible] at blank
      cases blank
    · rw [known] at new
      cases new
    · obtain rfl := Option.some.inj (known.symm.trans known')
      rw [after, same]
    · rw [known] at new
      cases new

/-- A role that was given stays. -/
theorem has_allRoles (calls : List Entering) (i : Nat) :
    (allRoles calls).has i = calls.any fun e => e.given.roles.has i := by
  induction calls using List.reverseRecOn with
  | nil => simp [allRoles, Roles.none, Roles.has]
  | append_singleton calls e ih => simp [allRoles_concat, Roles.has_union, ih]

/-- After any history of records, be they accepted or refused: a login has exactly one row if a
record was accepted for it, and none otherwise. The row has the identifier and the time of creation
of the first record that was accepted for the login, every role of any of them, and the messenger
identity that was given last. It is what is found by login and by identifier, and what the next
record is answered with, which is refused if its login is blank, or new with an identifier that is
taken, and then does nothing. -/
theorem rows_after_history (calls : List Entering) :
    let d := empty.afterAll calls
    (∀ login, d.rowsOf login = (standing (ofLogin login (empty.accepted calls))).toList) ∧
    (∀ login first rest row, ofLogin login (empty.accepted calls) = first :: rest →
      d.byLogin? login = some row →
        row.id = first.given.id ∧ row.createdAt = first.given.createdAt ∧
        row.telegramId = lastTelegramId (first :: rest) ∧
        ∀ i, row.roles.has i = (first :: rest).any fun e => e.given.roles.has i) ∧
    ∀ e, Answered d e := by
  intro d
  have keyed : d.Keyed := keyed_afterAll calls
  refine ⟨fun login => ?_, fun login first rest row split found => ?_, keyed.answered⟩
  · rw [keyed.rowsOf_eq, byLogin?_afterAll]
  · rw [byLogin?_afterAll, split] at found
    cases found
    exact ⟨rfl, rfl, rfl, has_allRoles _⟩

end Directory

end Registrar
