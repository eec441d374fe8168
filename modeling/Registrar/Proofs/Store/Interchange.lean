import Registrar.Proofs.Redis.Layout
import Registrar.Proofs.Store.Record
import Mathlib.Logic.Function.Basic

/-!
A store in memory and one on a server give the same answers.

Both keep a record for each conversation, and a call on either does to the record of its conversation
what `Record.perform` says, and nothing to the others. A store in memory keeps its records as they
are. On a server the state is a text under one key and the scratch fields are a hash under another;
no two of these keys are the same, so that a request for one of them leaves what the others hold.

* `Keeping.answers_eq`: what keeps records answers as the records do.
* `Memory.keeping`, `Redis.Store.keeping`: both stores keep records.
* `Redis.Store.answers_eq_memory`: the same calls get the same answers from both.
-/

namespace Registrar

abbrev Records : Type := Conversation → Record

namespace Records

def empty : Records := fun _ => .empty

/-- The answer to a call, and the records after it. -/
def perform (records : Records) (call : StoreCall) : call.Answer × Records :=
  (((records call.conversation).perform call).1,
    Function.update records call.conversation ((records call.conversation).perform call).2)

theorem perform_apply (records : Records) (call : StoreCall) (c : Conversation) :
    (records.perform call).2 c =
      if c = call.conversation then ((records c).perform call).2 else records c := by
  simp only [perform, Function.update_apply]
  split
  · rename_i own
    rw [own]
  · rfl

/-- What does not touch its record touches none. -/
theorem perform_of_same {records : Records} {call : StoreCall}
    (same : ((records call.conversation).perform call).2 = records call.conversation) :
    (records.perform call).2 = records := by
  rw [perform, same, Function.update_eq_self]

end Records

/-! ### Stores that keep records -/

/-- The answers to calls that are made one after another, each at its time. -/
def answers {σ : Type} (perform : Nat → σ → (call : StoreCall) → call.Answer × σ) (s : σ) :
    List (Nat × StoreCall) → List (Σ call : StoreCall, call.Answer)
  | [] => []
  | (now, call) :: calls =>
    ⟨call, (perform now s call).1⟩ :: answers perform (perform now s call).2 calls

/-- What a store holds can be seen as records, and a call does to it what it does to the records. -/
structure Keeping {σ : Type} (perform : Nat → σ → (call : StoreCall) → call.Answer × σ)
    (shows : σ → Records → Prop) : Prop where
  answer {s : σ} {records : Records} (now : Nat) (call : StoreCall) : shows s records →
    (perform now s call).1 = (records.perform call).1
  after {s : σ} {records : Records} (now : Nat) (call : StoreCall) : shows s records →
    shows (perform now s call).2 (records.perform call).2

theorem Keeping.answers_eq {σ : Type} {perform : Nat → σ → (call : StoreCall) → call.Answer × σ}
    {shows : σ → Records → Prop} (keeping : Keeping perform shows) {s : σ} {records : Records}
    (holds : shows s records) (calls : List (Nat × StoreCall)) :
    answers perform s calls = answers (fun _ => Records.perform) records calls := by
  induction calls generalizing s records with
  | nil => rfl
  | cons first calls ih =>
      obtain ⟨now, call⟩ := first
      rw [answers, answers, keeping.answer now call holds, ih (keeping.after now call holds)]

/-- A store in memory keeps records. -/
theorem Memory.keeping :
    Keeping Memory.perform fun m records => ∀ c, m.record c = records c where
  answer now call holds := by
    rw [Memory.answer_perform, holds]
    rfl
  after now call holds c := by
    rw [Memory.record_perform, Records.perform_apply, holds]

/-! ### On a server -/

namespace Redis

namespace Server

@[simp] theorem get?_put (srv : Server) (key key' : String) (e : Entry) :
    (srv.put key e).entries.get? key' = if key' = key then some e else srv.entries.get? key' :=
  Table.get?_insert ..

@[simp] theorem get?_drop (srv : Server) (key key' : String) :
    (srv.drop key).entries.get? key' = if key' = key then none else srv.entries.get? key' :=
  Table.get?_erase ..

/-- The server is in no transaction, and no answer is laid down. -/
structure Idle (srv : Server) : Prop where
  pending : srv.pending = none
  scripted (name : String) : srv.scripted name = none

theorem Idle.empty : Idle .empty := ⟨rfl, fun _ => rfl⟩

variable {srv : Server}

theorem Idle.put (idle : srv.Idle) (key : String) (e : Entry) : (srv.put key e).Idle :=
  ⟨idle.pending, idle.scripted⟩

theorem Idle.drop (idle : srv.Idle) (key : String) : (srv.drop key).Idle :=
  ⟨idle.pending, idle.scripted⟩

theorem Idle.perform (idle : srv.Idle) (r : Request) : srv.perform r = srv.execute r := by
  rw [Server.perform, idle.scripted]

/-- A request that begins no transaction is carried out at once. -/
theorem Idle.serveAll_single (idle : srv.Idle) {r : Request} (plain : r ≠ .multi) :
    srv.serveAll [r] = ([(srv.execute r).1], (srv.execute r).2) := by
  have served : srv.serve r = srv.execute r := by
    rw [← idle.perform r]
    cases r with
    | multi => exact absurd rfl plain
    | _ => simp only [serve, idle.pending]
  simp only [serveAll, served]

/-- An entry is there just as what it shows is. -/
theorem entry_cases {α : Type} {e? : Option Entry} {a? : Option α} {f : α → Value}
    (same : e?.map Entry.value = a?.map f) :
    (e? = none ∧ a? = none) ∨ ∃ a lifetime, e? = some ⟨f a, lifetime⟩ ∧ a? = some a := by
  cases e? with
  | none =>
      cases a? with
      | none => exact .inl ⟨rfl, rfl⟩
      | some a => cases same
  | some e =>
      cases a? with
      | none => cases same
      | some a =>
          have value : e.value = f a := Option.some.inj same
          exact .inr ⟨a, e.lifetime, by rw [← value], rfl⟩

/-- A field of a hash is replaced, and the hash is made first if there is none. -/
theorem execute_hset {key : String} {fields? : Option (Table String String)}
    (holds : (srv.entries.get? key).map Entry.value = fields?.map .hash) (field value : String) :
    ∃ fresh lifetime, srv.execute (.hset key field value) =
      (flag fresh, srv.put key ⟨.hash ((fields?.getD .empty).insert field value), lifetime⟩) := by
  rcases entry_cases holds with ⟨missing, rfl⟩ | ⟨fields, lifetime, found, rfl⟩
  · exact ⟨true, none, by simp only [execute, missing, Option.getD_none]⟩
  · exact ⟨!fields.contains field, lifetime, by simp only [execute, found, Option.getD_some]⟩

/-- A hash gets a field and a lifetime in one transaction. -/
theorem Idle.serveAll_note (idle : srv.Idle) {key : String} {fields? : Option (Table String String)}
    (holds : (srv.entries.get? key).map Entry.value = fields?.map .hash) (field value : String)
    {seconds : Int} (positive : 0 < seconds) :
    ∃ fresh srv', srv.serveAll [.multi, .hset key field value, .expire key seconds, .exec] =
        ([.okay, .status "QUEUED", .status "QUEUED", .list [flag fresh, flag true]], srv') ∧
      srv'.Idle ∧ ∀ key', srv'.entries.get? key' = if key' = key then
        some ⟨.hash ((fields?.getD .empty).insert field value), some seconds.toNat⟩
        else srv.entries.get? key' := by
  obtain ⟨fresh, lifetime, hset⟩ := execute_hset holds field value
  generalize noted : (fields?.getD .empty).insert field value = fields at hset ⊢
  have kept := idle.put key ⟨.hash fields, lifetime⟩
  have expire : (srv.put key ⟨.hash fields, lifetime⟩).execute (.expire key seconds) =
      (flag true, (srv.put key ⟨.hash fields, lifetime⟩).put key
        ⟨.hash fields, some seconds.toNat⟩) := by
    simp only [execute, get?_put, if_true, if_neg (Int.not_le.mpr positive)]
  have ready : ({ srv with pending := none } : Server) = srv := by rw [← idle.pending]
  refine ⟨fresh, _, ?_, kept.put key ⟨.hash fields, some seconds.toNat⟩, fun key' => ?_⟩
  · simp only [serveAll, serve, idle.pending, idle.scripted, List.nil_append, List.cons_append,
      ready, performAll, idle.perform, hset, kept.perform, expire, Option.getD_none]
  · rw [get?_put, get?_put]
    split <;> rfl

end Server

namespace Store

variable {s : Store} {srv srv' : Server} {records : Records} {call : StoreCall}

/-- What the server holds under the keys of the store are the records, whatever lifetimes are left. -/
structure Shows (s : Store) (srv : Server) (records : Records) : Prop where
  idle : srv.Idle
  state (c : Conversation) : (srv.entries.get? (s.stateKey c)).map Entry.value =
    (records c).state.map fun state => .text state.tag
  scratch (c : Conversation) : (srv.entries.get? (s.scratchKey c)).map Entry.value =
    (records c).scratch.map .hash

theorem Shows.empty (s : Store) : s.Shows .empty .empty := ⟨.empty, fun _ => rfl, fun _ => rfl⟩

/-- The entries of one conversation have changed as a call changes its record. -/
theorem Shows.change (shows : s.Shows srv records) (c : Conversation)
    (own : call.conversation = c) (idle : srv'.Idle)
    (others : ∀ key, key ≠ s.stateKey c → key ≠ s.scratchKey c →
      srv'.entries.get? key = srv.entries.get? key)
    (state : (srv'.entries.get? (s.stateKey c)).map Entry.value =
      ((records c).perform call).2.state.map fun state => .text state.tag)
    (scratch : (srv'.entries.get? (s.scratchKey c)).map Entry.value =
      ((records c).perform call).2.scratch.map .hash) :
    s.Shows srv' (records.perform call).2 := by
  subst own
  refine ⟨idle, fun c => ?_, fun c => ?_⟩
  · rw [Records.perform_apply]
    split
    · rename_i own
      rw [own, state]
    · rename_i other
      rw [others _ (fun same => other (stateKey_inj same).2) (stateKey_ne_scratchKey _ _ _ _),
        shows.state]
  · rw [Records.perform_apply]
    split
    · rename_i own
      rw [own, scratch]
    · rename_i other
      rw [others _ (stateKey_ne_scratchKey _ _ _ _).symm
        (fun same => other (scratchKey_inj same).2), shows.scratch]

/-- Only what is under the key of a state has changed. -/
theorem Shows.change_state (shows : s.Shows srv records) (c : Conversation)
    (own : call.conversation = c) (idle : srv'.Idle) {e? : Option Entry}
    (entries : ∀ key, srv'.entries.get? key =
      if key = s.stateKey c then e? else srv.entries.get? key)
    (state : e?.map Entry.value =
      ((records c).perform call).2.state.map fun state => .text state.tag)
    (kept : ((records c).perform call).2.scratch = (records c).scratch) :
    s.Shows srv' (records.perform call).2 := by
  refine shows.change c own idle (fun key other _ => ?_) ?_ ?_
  · rw [entries, if_neg other]
  · rw [entries, if_pos rfl, state]
  · rw [entries, if_neg (stateKey_ne_scratchKey s s c c).symm, kept, shows.scratch]

/-- Only what is under the key of scratch fields has changed. -/
theorem Shows.change_scratch (shows : s.Shows srv records) (c : Conversation)
    (own : call.conversation = c) (idle : srv'.Idle) {e? : Option Entry}
    (entries : ∀ key, srv'.entries.get? key =
      if key = s.scratchKey c then e? else srv.entries.get? key)
    (scratch : e?.map Entry.value = ((records c).perform call).2.scratch.map .hash)
    (kept : ((records c).perform call).2.state = (records c).state) :
    s.Shows srv' (records.perform call).2 := by
  refine shows.change c own idle (fun key _ other => ?_) ?_ ?_
  · rw [entries, if_neg other]
  · rw [entries, if_neg (stateKey_ne_scratchKey s s c c), kept, shows.state]
  · rw [entries, if_pos rfl, scratch]

/-! ### The calls -/

/-- A call that is one request. -/
theorem perform_single (idle : srv.Idle) {r : Request} (plain : r ≠ .multi)
    (asks : s.requests call = [r]) :
    s.perform srv call = (interpret call [(srv.execute r).1], (srv.execute r).2) := by
  simp only [perform, asks, idle.serveAll_single plain]

/-- The state is read as the record has it. -/
theorem Shows.get (shows : s.Shows srv records) (c : Conversation) :
    s.perform srv (.get c) = (((records c).perform (.get c)).1, srv) := by
  rw [perform_single shows.idle (r := .get (s.stateKey c)) nofun rfl]
  rcases Server.entry_cases (shows.state c) with ⟨missing, nothing⟩ | ⟨state, _, found, stored⟩
  · simp only [Server.execute, missing, Record.perform, nothing]
    rfl
  · simp only [Server.execute, found, Record.perform, stored]
    rfl

/-- A scratch field is read, and decoded, as the record has it. -/
theorem Shows.getData (shows : s.Shows srv records) (c : Conversation) (field : String) :
    s.perform srv (.getData c field) = (((records c).perform (.getData c field)).1, srv) := by
  rw [perform_single shows.idle (r := .hget (s.scratchKey c) field) nofun rfl]
  rcases Server.entry_cases (shows.scratch c) with ⟨missing, nothing⟩ | ⟨fields, _, found, stored⟩
  · simp only [Server.execute, missing, Record.perform, Record.text?, nothing]
    rfl
  · simp only [Server.execute, found, Record.perform, Record.text?, stored, Option.bind_some]
    cases fields.get? field with
    | none => rfl
    | some text =>
        simp only [interpret, single, List.headD_cons, textOf, Record.valueOf]
        cases Memory.decodeText text <;> rfl

theorem seconds_pos (s : Store) : 0 < s.seconds := Nat.le_max_left ..

/-- The lifetime is sent as it is, if it fits a signed word. -/
theorem signedSeconds_eq (fits : s.lifetime / 1000 < Text.signedBound) :
    s.signedSeconds = s.seconds := by
  have small : s.seconds < Text.signedBound := by
    unfold seconds Text.signedBound at *
    omega
  unfold signedSeconds Text.signedBound at *
  rw [UInt64.toInt64_ofNat', Int64.toInt_ofNat_of_lt small]

/-- The lifetime of a store survives as a signed word. -/
theorem signedSeconds_pos (fits : s.lifetime / 1000 < Text.signedBound) : 0 < s.signedSeconds := by
  rw [signedSeconds_eq fits]
  exact Int.natCast_pos.mpr s.seconds_pos

/-- A scratch field is replaced in one transaction, and the fields live on. -/
theorem Shows.setData (shows : s.Shows srv records) (fits : s.lifetime / 1000 < Text.signedBound)
    (c : Conversation) (field : String) (value : Json) :
    (s.perform srv (.setData c field value)).1 = .ok () ∧
      s.Shows (s.perform srv (.setData c field value)).2
        (records.perform (.setData c field value)).2 := by
  obtain ⟨fresh, srv', served, idle, entries⟩ := shows.idle.serveAll_note (shows.scratch c) field
    value.print (signedSeconds_pos fits)
  simp only [perform, requests, served]
  exact ⟨by cases fresh <;> rfl, shows.change_scratch c rfl idle entries rfl rfl⟩

/-- A state is replaced. -/
theorem Shows.set (shows : s.Shows srv records) (c : Conversation) (state : State) :
    (s.perform srv (.set c state)).1 = .ok () ∧
      s.Shows (s.perform srv (.set c state)).2 (records.perform (.set c state)).2 := by
  rw [perform_single shows.idle (r := .setex (s.stateKey c) s.seconds state.tag) nofun rfl]
  exact ⟨rfl, shows.change_state c rfl (shows.idle.put _ _) (srv.get?_put _ · _) rfl rfl⟩

/-- A state is removed. -/
theorem Shows.delete (shows : s.Shows srv records) (c : Conversation) :
    (s.perform srv (.delete c)).1 = .ok () ∧
      s.Shows (s.perform srv (.delete c)).2 (records.perform (.delete c)).2 := by
  rw [perform_single shows.idle (r := .del (s.stateKey c)) nofun rfl]
  exact ⟨rfl, shows.change_state c rfl (shows.idle.drop _) (srv.get?_drop _ ·) rfl rfl⟩

/-- All scratch fields are removed. -/
theorem Shows.clearData (shows : s.Shows srv records) (c : Conversation) :
    (s.perform srv (.clearData c)).1 = .ok () ∧
      s.Shows (s.perform srv (.clearData c)).2 (records.perform (.clearData c)).2 := by
  rw [perform_single shows.idle (r := .del (s.scratchKey c)) nofun rfl]
  exact ⟨rfl, shows.change_scratch c rfl (shows.idle.drop _) (srv.get?_drop _ ·) rfl rfl⟩

/-- A call on the server is answered out of the records, and does to the entries what it does to the
records. -/
theorem Shows.perform (shows : s.Shows srv records) (fits : s.lifetime / 1000 < Text.signedBound)
    (call : StoreCall) : (s.perform srv call).1 = (records.perform call).1 ∧
      s.Shows (s.perform srv call).2 (records.perform call).2 := by
  cases call with
  | get c =>
      rw [shows.get, Records.perform_of_same rfl]
      exact ⟨rfl, shows⟩
  | getData c field =>
      rw [shows.getData, Records.perform_of_same rfl]
      exact ⟨rfl, shows⟩
  | set c state => exact shows.set c state
  | delete c => exact shows.delete c
  | setData c field value => exact shows.setData fits c field value
  | clearData c => exact shows.clearData c

/-- A store on a server keeps records, if the server can count its lifetime. -/
theorem keeping (s : Store) (fits : s.lifetime / 1000 < Text.signedBound) :
    Keeping (fun _ => s.perform) s.Shows where
  answer _ call shows := (shows.perform fits call).1
  after _ call shows := (shows.perform fits call).2

/-- Whatever its prefix is and whatever is asked of it, in whatever order and about whatever
conversations, a store on a server gives the answers that a store in memory gives, refusals to decode
included. Both begin empty, nothing is evicted, no lifetime is over, nobody else writes to the keys,
and the lifetime in seconds fits a signed word. -/
theorem answers_eq_memory (s : Store) (fits : s.lifetime / 1000 < Text.signedBound)
    (calls : List (Nat × StoreCall)) :
    answers (fun _ => s.perform) Server.empty calls = answers Memory.perform .empty calls :=
  calc
    answers (fun _ => s.perform) Server.empty calls = answers (fun _ => Records.perform) .empty calls :=
      (s.keeping fits).answers_eq (.empty s) calls
    _ = answers Memory.perform .empty calls :=
      (Memory.keeping.answers_eq Memory.record_empty calls).symm

/-- A tag and a field without a name are there until they are removed. -/
theorem answers_eq_memory_nameless :
    let s : Store := ⟨"quiz:data:", 60000⟩
    let c : Conversation := ⟨-1, 7⟩
    let calls : List (Nat × StoreCall) := [(0, .set c ⟨""⟩), (1, .get c), (2, .setData c "" .null),
      (3, .getData c ""), (4, .delete c), (5, .get c), (6, .clearData c), (7, .getData c "")]
    s.lifetime / 1000 < Text.signedBound ∧
      answers (fun _ => s.perform) Server.empty calls = answers Memory.perform .empty calls ∧
      answers Memory.perform .empty calls = [⟨.set c ⟨""⟩, .ok ()⟩, ⟨.get c, .ok (⟨""⟩ : State)⟩,
        ⟨.setData c "" .null, .ok ()⟩, ⟨.getData c "", .ok (some Json.null)⟩, ⟨.delete c, .ok ()⟩,
        ⟨.get c, .ok State.default⟩, ⟨.clearData c, .ok ()⟩, ⟨.getData c "", .ok none⟩] :=
  ⟨by decide, answers_eq_memory _ (by decide) _, by cbv⟩

end Store

end Redis

end Registrar
