import Registrar.Proofs.Store.Interchange
import Registrar.Store.Backing

/-!
How long records live on a server.

A state is written together with its lifetime by one request. For a scratch field that takes two, and
a hash that got the field but not the lifetime would stay for ever. The two are sent as one
transaction. Wherever the connection breaks off, the server has got all of it or carries out nothing.

* `venture_cases`: a call that may be cut off is carried out as a whole or not at all.
* `mortal_step`: whatever happens, a record that will go away will still go away.
* `records_mortal`: so will every record that was ever written; who writes one renews its lifetime, and
  no other.
* `lifetimes_sent`: which lifetimes are sent. A state goes with an unsigned word and a scratch field with
  a signed one, so that the two are the same just for lifetimes that fit a signed word.

The server is one that takes every lifetime that is positive as a signed word.
-/

namespace Registrar.Redis

namespace Server

/-- The connection breaks off: a transaction that has begun is forgotten. -/
def hangUp (srv : Server) : Server := { srv with pending := none }

/-- Some seconds pass. What has no more time left than that is gone. -/
def elapse (seconds : Nat) (srv : Server) : Server :=
  { srv with entries := (srv.entries.retain fun _ e => e.lifetime.all (seconds < ·)).map fun e =>
      { e with lifetime := e.lifetime.map (· - seconds) } }

/-- The seconds that are left to what a key holds, if it holds anything and they are limited. -/
def timeLeft? (srv : Server) (key : String) : Option Nat :=
  (srv.entries.get? key).bind Entry.lifetime

variable {srv : Server} {key : String}

theorem Idle.hangUp (idle : srv.Idle) : srv.hangUp = srv := by
  rw [Server.hangUp, ← idle.pending]

theorem Idle.elapse (idle : srv.Idle) (seconds : Nat) : (srv.elapse seconds).Idle :=
  ⟨idle.pending, idle.scripted⟩

/-- What is still there after some seconds was there before, and has had that much more time. -/
theorem get?_elapse {seconds : Nat} {e : Entry}
    (found : (srv.elapse seconds).entries.get? key = some e) :
    ∃ e₀, srv.entries.get? key = some e₀ ∧ e₀.lifetime.all (seconds < ·) = true ∧
      e.lifetime = e₀.lifetime.map (· - seconds) := by
  rw [Server.elapse, Table.get?_map, Table.get?_retain, Option.map_eq_some_iff] at found
  obtain ⟨e₀, kept, rfl⟩ := found
  obtain ⟨before, lives⟩ := Option.filter_eq_some_iff.mp kept
  exact ⟨e₀, before, lives, rfl⟩

/-- After a field was asked to be replaced the key holds something, whatever it held before, and
everything else is as it was. -/
theorem execute_hset_cases (idle : srv.Idle) (key field value : String) :
    (srv.execute (.hset key field value)).2.Idle ∧
      (∃ e, (srv.execute (.hset key field value)).2.entries.get? key = some e) ∧
      ∀ other, other ≠ key →
        (srv.execute (.hset key field value)).2.entries.get? other = srv.entries.get? other := by
  have after (e : Entry) : (srv.put key e).Idle ∧ (∃ e', (srv.put key e).entries.get? key = some e') ∧
      ∀ other, other ≠ key → (srv.put key e).entries.get? other = srv.entries.get? other :=
    ⟨idle.put key e, ⟨e, by rw [get?_put, if_pos rfl]⟩, fun other apart => by
      rw [get?_put, if_neg apart]⟩
  cases found : srv.entries.get? key with
  | none =>
      simp only [execute, found]
      exact after _
  | some e =>
      obtain ⟨held, lifetime⟩ := e
      cases held with
      | hash fields =>
          simp only [execute, found]
          exact after _
      | text held =>
          -- The field is refused, and the text stays.
          simp only [execute, found]
          exact ⟨idle, ⟨_, rfl⟩, fun _ _ => trivial⟩

theorem serveAll_cons (srv : Server) (r : Request) (requests : List Request) :
    (srv.serveAll (r :: requests)).2 = ((srv.serve r).2.serveAll requests).2 := rfl

/-- Within a transaction, requests are only kept until it is executed. -/
theorem serveAll_of_pending {srv : Server} {kept requests : List Request}
    (begun : srv.pending = some kept) (unfinished : Request.exec ∉ requests) :
    (srv.serveAll requests).2 = { srv with pending := some (kept ++ requests) } := by
  induction requests generalizing srv kept with
  | nil => rw [serveAll, List.append_nil, ← begun]
  | cons r requests ih =>
      rw [List.mem_cons, not_or] at unfinished
      have served : (srv.serve r).2 = { srv with pending := some (kept ++ [r]) } := by
        cases r with
        | exec => exact absurd rfl unfinished.1
        | _ => simp only [serve, begun]
      have rest := @ih { srv with pending := some (kept ++ [r]) } _ rfl unfinished.2
      rw [serveAll_cons, served, rest, List.append_assoc, List.singleton_append]

/-- Nothing comes of a transaction that has not been executed when the connection breaks off. -/
theorem Idle.unfinished (idle : srv.Idle) {requests : List Request}
    (unfinished : Request.exec ∉ requests) :
    (srv.serveAll (.multi :: requests)).2.hangUp = srv := by
  have begun : (srv.serve .multi).2 = { srv with pending := some [] } := by
    simp only [serve, idle.pending, idle.scripted]
  rw [serveAll_cons, begun]
  exact (congrArg Server.hangUp (serveAll_of_pending rfl unfinished)).trans idle.hangUp

/-- What a key holds gets another lifetime. -/
theorem execute_expire {e : Entry} (holds : srv.entries.get? key = some e) {seconds : Int}
    (positive : 0 < seconds) : (srv.execute (.expire key seconds)).2 =
      srv.put key { e with lifetime := some seconds.toNat } := by
  simp only [execute, holds, if_neg (Int.not_le.mpr positive)]

/-- What a key holds goes away when its lifetime is over at once. -/
theorem execute_expire_over {e : Entry} (holds : srv.entries.get? key = some e) {seconds : Int}
    (ends : seconds ≤ 0) : (srv.execute (.expire key seconds)).2 = srv.drop key := by
  simp only [execute, holds, if_pos ends]

/-- A transaction is carried out one request after another. -/
theorem Idle.serveAll_transaction (idle : srv.Idle) (key field value : String) (seconds : Int) :
    (srv.serveAll [.multi, .hset key field value, .expire key seconds, .exec]).2 =
      ((srv.execute (.hset key field value)).2.execute (.expire key seconds)).2 := by
  have ready : ({ srv with pending := none } : Server) = srv := idle.hangUp
  have idle₁ := (execute_hset_cases idle key field value).1
  simp only [serveAll, serve, idle.pending, idle.scripted, List.nil_append, List.cons_append, ready,
    performAll, idle.perform, idle₁.perform]

/-- A transaction that replaces a field leaves a lifetime with what the key holds, be the field
refused or not. -/
theorem Idle.transaction_renews (idle : srv.Idle) (key field value : String) {seconds : Int}
    (positive : 0 < seconds) :
    let srv' := (srv.serveAll [.multi, .hset key field value, .expire key seconds, .exec]).2
    srv'.Idle ∧ srv'.timeLeft? key = some seconds.toNat ∧
      ∀ other, other ≠ key → srv'.entries.get? other = srv.entries.get? other := by
  obtain ⟨idle₁, ⟨e, holds⟩, others⟩ := execute_hset_cases idle key field value
  rw [idle.serveAll_transaction, execute_expire holds positive]
  refine ⟨idle₁.put _ _, ?_, fun other apart => ?_⟩
  · rw [timeLeft?, get?_put, if_pos rfl]
    rfl
  · rw [get?_put, if_neg apart, others other apart]

end Server

namespace Store

/-! ### Calls that may be cut off -/

/-- How far a call gets: it is answered, or the connection breaks off when so many of its requests have
reached the server. One that the server refuses to look at has been cut off before the first. -/
inductive Passage where
  | answered
  | cutOff (received : Nat) (fault : Fault)

/-- The answer to a call that may be cut off, and the server after it. -/
def venture (s : Store) (srv : Server) (call : StoreCall) : Passage → call.Answer × Server
  | .answered => s.perform srv call
  | .cutOff received fault =>
    (.error (failure (attempt call) fault),
      (srv.serveAll ((s.requests call).take received)).2.hangUp)

/-- All requests of the call reach the server. -/
def Arrives (s : Store) (call : StoreCall) : Passage → Prop
  | .answered => True
  | .cutOff received _ => (s.requests call).length ≤ received

def writtenKey? (s : Store) : StoreCall → Option String
  | .set c _ => some (s.stateKey c)
  | .setData c _ _ => some (s.scratchKey c)
  | _ => none

/-- What the key holds has the whole lifetime before it, and everything else is as it was. -/
structure Renews (s : Store) (key : String) (srv srv' : Server) : Prop where
  own : srv'.timeLeft? key = some (max 1 (s.lifetime / 1000))
  others (other : String) : other ≠ key → srv'.entries.get? other = srv.entries.get? other

variable {s : Store} {srv : Server} {call : StoreCall} {key : String}

/-- A call that writes renews the lifetime of what it writes. -/
theorem perform_writes (idle : srv.Idle) (fits : s.lifetime / 1000 < Text.signedBound)
    (writes : s.writtenKey? call = some key) :
    (s.perform srv call).2.Idle ∧ s.Renews key srv (s.perform srv call).2 := by
  cases call with
  | set c state =>
      cases writes
      rw [perform_single idle (r := .setex (s.stateKey c) s.seconds state.tag) nofun rfl]
      refine ⟨idle.put _ _, ?_, fun other apart => ?_⟩
      · rw [Server.timeLeft?, Server.execute, Server.get?_put, if_pos rfl]
        rfl
      · rw [Server.execute, Server.get?_put, if_neg apart]
  | setData c field value =>
      cases writes
      obtain ⟨idle', left, others⟩ := idle.transaction_renews (s.scratchKey c) field value.print
        (signedSeconds_pos fits)
      refine ⟨idle', left.trans ?_, others⟩
      rw [signedSeconds_eq fits, Int.toNat_natCast]
      rfl
  | get | delete | getData | clearData => cases writes

/-- Reading a state changes nothing. -/
theorem perform_get (idle : srv.Idle) (c : Conversation) : (s.perform srv (.get c)).2 = srv := by
  rw [perform_single idle (r := .get (s.stateKey c)) nofun rfl]
  simp only [Server.execute]
  split <;> rfl

/-- Reading a scratch field changes nothing. -/
theorem perform_getData (idle : srv.Idle) (c : Conversation) (field : String) :
    (s.perform srv (.getData c field)).2 = srv := by
  rw [perform_single idle (r := .hget (s.scratchKey c) field) nofun rfl]
  simp only [Server.execute]
  split
  · rfl
  · split <;> rfl
  · rfl

/-- A call that does not write reads, and changes nothing, or removes what a key holds. -/
theorem perform_of_not_writes (idle : srv.Idle) (reads : s.writtenKey? call = none) :
    (s.perform srv call).2 = srv ∨ ∃ key, (s.perform srv call).2 = srv.drop key := by
  cases call with
  | get c => exact .inl (perform_get idle c)
  | getData c field => exact .inl (perform_getData idle c field)
  | delete c =>
      rw [perform_single idle (r := .del (s.stateKey c)) nofun rfl]
      exact .inr ⟨_, rfl⟩
  | clearData c =>
      rw [perform_single idle (r := .del (s.scratchKey c)) nofun rfl]
      exact .inr ⟨_, rfl⟩
  | set | setData => cases reads

theorem perform_idle (idle : srv.Idle) (fits : s.lifetime / 1000 < Text.signedBound) :
    (s.perform srv call).2.Idle := by
  cases writes : s.writtenKey? call with
  | some key => exact (perform_writes idle fits writes).1
  | none =>
      rcases perform_of_not_writes idle writes with same | ⟨key, dropped⟩
      · rw [same]
        exact idle
      · rw [dropped]
        exact idle.drop key

/-- Wherever the connection breaks off, a call is carried out as a whole, if all of it has reached the
server, or not at all. -/
theorem venture_cases (idle : srv.Idle) (fits : s.lifetime / 1000 < Text.signedBound)
    (call : StoreCall) (passage : Passage) :
    s.Arrives call passage ∧ (s.venture srv call passage).2 = (s.perform srv call).2 ∨
      ¬ s.Arrives call passage ∧ (s.venture srv call passage).2 = srv := by
  cases passage with
  | answered => exact .inl ⟨trivial, rfl⟩
  | cutOff received fault =>
      by_cases whole : (s.requests call).length ≤ received
      · refine .inl ⟨whole, ?_⟩
        rw [venture, List.take_of_length_le whole]
        exact (perform_idle idle fits).hangUp
      · refine .inr ⟨whole, ?_⟩
        have short : received < (s.requests call).length := Nat.lt_of_not_le whole
        cases call with
        | setData c field value =>
            cases received with
            | zero => exact idle.hangUp
            | succ received =>
                -- The last of the requests, which would execute the transaction, is not among them.
                have early : received ≤ 2 := Nat.le_of_lt_succ (Nat.lt_of_succ_lt_succ short)
                have sent : [Request.hset (s.scratchKey c) field value.print,
                      .expire (s.scratchKey c) s.signedSeconds, .exec].take received =
                    [Request.hset (s.scratchKey c) field value.print,
                      .expire (s.scratchKey c) s.signedSeconds].take received :=
                  @List.take_append_of_le_length _ [_, _] [Request.exec] received early
                refine idle.unfinished fun mem => ?_
                rw [sent] at mem
                simpa using List.mem_of_mem_take mem
        | get | set | delete | getData | clearData =>
            obtain rfl : received = 0 := Nat.lt_one_iff.mp short
            exact idle.hangUp

/-- A call that changes nothing when it is answered changes nothing when it is cut off. -/
theorem venture_same (idle : srv.Idle) (fits : s.lifetime / 1000 < Text.signedBound)
    (same : (s.perform srv call).2 = srv) (passage : Passage) :
    (s.venture srv call passage).2 = srv := by
  rcases venture_cases idle fits call passage with ⟨-, performed⟩ | ⟨-, nothing⟩
  · exact performed.trans same
  · exact nothing

/-! ### What becomes of a server -/

/-- A call is made, seconds pass, or a key is lost: it was evicted, or somebody else removed it. -/
inductive Occasion where
  | call (call : StoreCall) (passage : Passage)
  | elapse (seconds : Nat)
  | lose (key : String)

def step (s : Store) (srv : Server) : Occasion → Server
  | .call call passage => (s.venture srv call passage).2
  | .elapse seconds => srv.elapse seconds
  | .lose key => srv.drop key

def after (s : Store) (srv : Server) (occasions : List Occasion) : Server := occasions.foldl s.step srv

/-- A call writes to the key, and all of it reaches the server. -/
inductive Writes (s : Store) (key : String) : Occasion → Prop where
  | intro {call : StoreCall} {passage : Passage} (own : s.writtenKey? call = some key)
      (arrives : s.Arrives call passage) : Writes s key (.call call passage)

/-- What the key holds, if anything, will be gone when the lifetime is over. -/
def Mortal (s : Store) (srv : Server) (key : String) : Prop :=
  ∀ e, srv.entries.get? key = some e → ∃ left ≤ max 1 (s.lifetime / 1000), e.lifetime = some left

theorem Mortal.of_same {srv' : Server} (mortal : s.Mortal srv key)
    (same : srv'.entries.get? key = srv.entries.get? key) : s.Mortal srv' key :=
  fun e found => mortal e (same ▸ found)

theorem Mortal.drop (mortal : s.Mortal srv key) (lost : String) : s.Mortal (srv.drop lost) key := by
  intro e found
  rw [Server.get?_drop] at found
  split at found
  · cases found
  · exact mortal e found

theorem Mortal.elapse (mortal : s.Mortal srv key) (seconds : Nat) :
    s.Mortal (srv.elapse seconds) key := by
  intro e found
  obtain ⟨e₀, before, -, lifetime⟩ := Server.get?_elapse found
  obtain ⟨left, most, limited⟩ := mortal e₀ before
  exact ⟨left - seconds, Nat.le_trans (Nat.sub_le ..) most, by rw [lifetime, limited]; rfl⟩

theorem Renews.mortal {srv' : Server} (renews : s.Renews key srv srv') : s.Mortal srv' key := by
  intro e found
  have own := renews.own
  rw [Server.timeLeft?, found] at own
  exact ⟨_, Nat.le_refl _, own⟩

theorem idle_step (idle : srv.Idle) (fits : s.lifetime / 1000 < Text.signedBound)
    (occasion : Occasion) : (s.step srv occasion).Idle := by
  cases occasion with
  | call call passage =>
      rw [step]
      rcases venture_cases idle fits call passage with ⟨-, performed⟩ | ⟨-, nothing⟩
      · exact performed ▸ perform_idle idle fits
      · exact nothing.symm ▸ idle
  | elapse seconds => exact idle.elapse seconds
  | lose key => exact idle.drop key

/-- What will go away still will after anything that happens, and what is written to a key will go
away. -/
theorem mortal_step (idle : srv.Idle) (fits : s.lifetime / 1000 < Text.signedBound)
    {occasion : Occasion} (before : s.Mortal srv key ∨ s.Writes key occasion) :
    s.Mortal (s.step srv occasion) key := by
  cases occasion with
  | elapse seconds => exact before.elim (·.elapse seconds) nofun
  | lose lost => exact before.elim (·.drop lost) nofun
  | call call passage =>
      rcases venture_cases idle fits call passage with ⟨-, performed⟩ | ⟨missing, nothing⟩
      · rw [step, performed]
        cases writes : s.writtenKey? call with
        | some written =>
            obtain ⟨-, renews⟩ := perform_writes idle fits writes
            rcases eq_or_ne key written with rfl | apart
            · exact renews.mortal
            · rcases before with mortal | ⟨own, -⟩
              · exact mortal.of_same (renews.others key apart)
              · exact absurd (Option.some.inj (own.symm.trans writes)) apart
        | none =>
            rcases before with mortal | ⟨own, -⟩
            · rcases perform_of_not_writes idle writes with same | ⟨lost, dropped⟩
              · exact mortal.of_same (by rw [same])
              · exact dropped ▸ mortal.drop lost
            · exact absurd (own.symm.trans writes) nofun
      · rw [step, nothing]
        rcases before with mortal | ⟨-, arrives⟩
        · exact mortal
        · exact absurd arrives missing

theorem idle_after (idle : srv.Idle) (fits : s.lifetime / 1000 < Text.signedBound)
    (occasions : List Occasion) : (s.after srv occasions).Idle := by
  induction occasions generalizing srv with
  | nil => exact idle
  | cons occasion occasions ih => exact ih (idle_step idle fits occasion)

/-- What was written to a key at some time will go away. -/
theorem mortal_after (idle : srv.Idle) (fits : s.lifetime / 1000 < Text.signedBound)
    {occasions : List Occasion}
    (written : s.Mortal srv key ∨ ∃ occasion ∈ occasions, s.Writes key occasion) :
    s.Mortal (s.after srv occasions) key := by
  induction occasions generalizing srv with
  | nil => exact written.elim id nofun
  | cons occasion occasions ih =>
      refine ih (idle_step idle fits occasion) ?_
      rcases written with mortal | ⟨writing, mem, writes⟩
      · exact .inl (mortal_step idle fits (.inl mortal))
      · rcases List.mem_cons.mp mem with rfl | later
        · exact .inl (mortal_step idle fits (.inr writes))
        · exact .inr ⟨writing, later, writes⟩

/-- Whatever a server holds at first, after calls that may be cut off at any point, after time has
passed and keys have been lost, in any order: what was ever written to a key and is still there has
no more than the whole lifetime left. A call that writes and is answered without an error gives
what it writes the whole lifetime and leaves all other keys as they are, with the time that is left
to them. A call that reads leaves everything as it is, however far it gets. -/
theorem records_mortal (s : Store) (fits : s.lifetime / 1000 < Text.signedBound) (srv : Server)
    (idle : srv.Idle) (occasions : List Occasion) :
    let now := s.after srv occasions
    (∀ key e, (∃ occasion ∈ occasions, s.Writes key occasion) → now.entries.get? key = some e →
      ∃ left ≤ max 1 (s.lifetime / 1000), e.lifetime = some left) ∧
    (∀ call passage key v, s.writtenKey? call = some key → (s.venture now call passage).1 = .ok v →
      s.Renews key now (s.venture now call passage).2) ∧
    ∀ c field passage, (s.venture now (.get c) passage).2 = now ∧
      (s.venture now (.getData c field) passage).2 = now := by
  have idle' := idle_after idle fits occasions
  refine ⟨fun key e written => mortal_after idle fits (.inr written) e,
    fun call passage key v writes answered => ?_, fun c field passage =>
      ⟨venture_same idle' fits (perform_get idle' c) passage,
        venture_same idle' fits (perform_getData idle' c field) passage⟩⟩
  cases passage with
  | answered => exact (perform_writes idle' fits writes).2
  | cutOff received fault => cases answered

/-- Forty seconds after a scratch field was written, a transaction is cut off before its last request
and leaves the time alone. A state whose answer is lost is there with its whole lifetime. -/
theorem records_mortal_cut_off :
    let s : Store := ⟨"quiz:", 90500⟩
    let c : Conversation := ⟨-1, 7⟩
    let occasions : List Occasion := [.call (.setData c "login" (.string "ann")) .answered,
      .elapse 40, .call (.setData c "code" (.string "482913")) (.cutOff 3 .unreachable),
      .call (.set c ⟨"awaiting_otp"⟩) (.cutOff 1 .unreachable)]
    let now := s.after .empty occasions
    s.lifetime / 1000 < Text.signedBound ∧ Server.empty.Idle ∧
      now.timeLeft? (s.scratchKey c) = some 50 ∧ s.Mortal now (s.scratchKey c) ∧
      now.timeLeft? (s.stateKey c) = some 90 ∧ s.Mortal now (s.stateKey c) := by
  intro s c occasions now
  obtain ⟨mortal, -, -⟩ := records_mortal s (by decide) .empty .empty occasions
  exact ⟨by decide, .empty, by cbv,
    fun e => mortal (s.scratchKey c) e ⟨_, .head _, .intro rfl trivial⟩, by cbv,
    fun e => mortal (s.stateKey c) e
      ⟨_, .tail _ (.tail _ (.tail _ (.head _))), .intro rfl (Nat.le_refl 1)⟩⟩

/-! ### The lifetimes that are sent -/

/-- The keys that get a lifetime with a call, and the seconds that are sent for them. -/
def lifetimesSent (s : Store) (call : StoreCall) : List (String × Int) :=
  (s.requests call).filterMap fun
    | .setex key seconds _ => some (key, seconds)
    | .expire key seconds => some (key, seconds)
    | _ => none

/-- A lifetime that does not fit a signed word is taken for a negative number. -/
theorem signedSeconds_wraps (word : s.lifetime / 1000 < Text.wordBound)
    (long : Text.signedBound ≤ s.seconds) :
    s.signedSeconds = s.seconds - Text.wordBound ∧ s.signedSeconds < 0 := by
  have most : s.seconds < Text.wordBound := by
    unfold seconds Text.wordBound at *
    omega
  have size : Int64.size = Text.wordBound := rfl
  have wraps : s.signedSeconds = s.seconds - Text.wordBound := by
    rw [signedSeconds, UInt64.toInt64_ofNat', Int64.toInt_ofNat', Int.bmod_def, size]
    unfold Text.wordBound Text.signedBound at *
    omega
  exact ⟨wraps, by omega⟩

theorem signedSeconds_eq_iff (word : s.lifetime / 1000 < Text.wordBound) :
    s.signedSeconds = s.seconds ↔ s.seconds < Text.signedBound := by
  constructor
  · intro same
    by_contra long
    have negative := (signedSeconds_wraps word (Nat.le_of_not_lt long)).2
    omega
  · intro short
    exact signedSeconds_eq (Nat.lt_of_le_of_lt (Nat.le_max_right ..) short)

/-- What gets a lifetime that is not positive is gone. -/
theorem setData_drops (idle : srv.Idle) (negative : s.signedSeconds < 0) (c : Conversation)
    (field : String) (value : Json) :
    (s.perform srv (.setData c field value)).2.entries.get? (s.scratchKey c) = none := by
  obtain ⟨-, ⟨e, holds⟩, -⟩ :=
    Server.execute_hset_cases idle (s.scratchKey c) field value.print
  have after : (s.perform srv (.setData c field value)).2 = _ :=
    idle.serveAll_transaction (s.scratchKey c) field value.print s.signedSeconds
  rw [after, Server.execute_expire_over holds (Int.le_of_lt negative), Server.get?_drop, if_pos rfl]

/-- Settings that are accepted give a store the lifetime that is set. -/
theorem seconds_of_openFor {settings : StoreSettings} {reach : Network} {server : Server}
    (accepted : settings.validate = .ok ())
    (opened : BackingStore.openFor settings reach = .ok (.redis s server)) :
    s.seconds = settings.lifetime := by
  have lasting : settings.lifetime ≠ 0 := by
    intro zero
    rw [StoreSettings.validate, if_pos zero] at accepted
    cases accepted
  have same : s = ⟨settings.keyPrefix, 1000 * settings.lifetime⟩ := by
    unfold BackingStore.openFor at opened
    split at opened
    · cases opened
    · cases found : (connectAndCheck reach settings.redis.url).2 with
      | error e =>
          rw [found] at opened
          cases opened
      | ok srv =>
          rw [found] at opened
          cases opened
          rfl
  rw [same, seconds]
  dsimp only
  omega

/-- A state is sent with the lifetime in whole seconds, and with one if there are none. Settings that
are accepted give the lifetime that is set. The same lifetime is sent with a scratch field just if it
fits a signed word. If it does not, it is sent as a negative number, and no scratch field outlives
its writing. -/
theorem lifetimes_sent (s : Store) (word : s.lifetime / 1000 < Text.wordBound) (c : Conversation)
    (state : State) (field : String) (value : Json) :
    ∃ (seconds : Nat) (signed : Int), seconds = max 1 (s.lifetime / 1000) ∧
      s.lifetimesSent (.set c state) = [(s.stateKey c, (seconds : Int))] ∧
      s.lifetimesSent (.setData c field value) = [(s.scratchKey c, signed)] ∧
      (∀ settings reach server, settings.validate = .ok () →
        BackingStore.openFor settings reach = .ok (.redis s server) →
        seconds = settings.lifetime) ∧
      (signed = seconds ↔ seconds < Text.signedBound) ∧
      (Text.signedBound ≤ seconds → signed = seconds - Text.wordBound ∧ signed < 0 ∧
        ∀ srv : Server, srv.Idle →
          (s.perform srv (.setData c field value)).2.entries.get? (s.scratchKey c) = none) := by
  refine ⟨s.seconds, s.signedSeconds, rfl, rfl, rfl, fun settings reach server =>
    seconds_of_openFor, signedSeconds_eq_iff word, fun long => ?_⟩
  obtain ⟨wraps, negative⟩ := signedSeconds_wraps word long
  exact ⟨wraps, negative, fun srv idle => setData_drops idle negative c field value⟩

/-- The shortest lifetime that does not fit a signed word. -/
theorem lifetimes_sent_negative :
    let s : Store := ⟨"fsm:", 1000 * 9223372036854775808⟩
    s.lifetime / 1000 < Text.wordBound ∧
      ∃ signed : Int, signed < 0 ∧
        s.lifetimesSent (.setData ⟨1, 7⟩ "login" (.string "ann")) = [("fsm:data:1:7", signed)] := by
  intro s
  obtain ⟨seconds, signed, rfl, -, sent, -, -, long⟩ :=
    lifetimes_sent s (by decide) ⟨1, 7⟩ ⟨"awaiting_login"⟩ "login" (.string "ann")
  exact ⟨by decide, signed, (long (by decide)).2.1, sent⟩

/-- An environment in which records live on a server for as many seconds as just do not fit a signed
word. -/
def agelessEnvironment : Environment :=
  .ofList [("FSM_STORAGE", "redis"), ("FSM_TTL_SECS", "9223372036854775808")]

def agelessSettings : StoreSettings :=
  ⟨.redis, .default, "fsm:", 9223372036854775808, 60⟩

/-- The server that is taken if none is set is one on this machine. -/
theorem read_default_url :
    Endpoint.read RedisSettings.default.url = .ok ⟨.network "127.0.0.1" 6379, 0, none, none⟩ := by
  have understood : (Endpoint.read RedisSettings.default.url).toOption =
      some ⟨.network "127.0.0.1" 6379, 0, none, none⟩ := by decide +kernel
  cases read : Endpoint.read RedisSettings.default.url with
  | error fault =>
      rw [read] at understood
      cases understood
  | ok e =>
      rw [read] at understood
      exact congrArg Except.ok (Option.some.inj understood)

/-- The store that is opened there, on a server that holds nothing. -/
theorem openFor_agelessSettings :
    BackingStore.openFor agelessSettings (fun _ => .ok .empty) =
      .ok (.redis ⟨"fsm:", 1000 * 9223372036854775808⟩ .empty) := by
  simp only [BackingStore.openFor, agelessSettings, connectAndCheck, connect, read_default_url]
  rfl

/-- Settings are accepted with which a state is kept as long as is set, and a scratch field is answered
to have been written and is not there. -/
theorem accepted_lifetime_negative :
    let s : Store := ⟨"fsm:", 1000 * 9223372036854775808⟩
    let write : StoreCall := .setData ⟨1, 7⟩ "login" (.string "ann")
    StoreSettings.load agelessEnvironment = .ok agelessSettings ∧
      agelessSettings.validate = .ok () ∧
      BackingStore.openFor agelessSettings (fun _ => .ok .empty) = .ok (.redis s .empty) ∧
      s.lifetimesSent (.set ⟨1, 7⟩ ⟨"awaiting_login"⟩) = [("fsm:state:1:7", 9223372036854775808)] ∧
      s.lifetimesSent write = [("fsm:data:1:7", -9223372036854775808)] ∧
      (s.perform .empty write).1 = .ok () ∧
      (s.perform .empty write).2.entries.get? "fsm:data:1:7" = none :=
  ⟨by rfl, by rfl, openFor_agelessSettings, by rfl, by rfl, by rfl, by rfl⟩

end Store

end Registrar.Redis
