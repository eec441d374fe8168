import Registrar.Bot.Installation
import Registrar.Proofs.Dispatch.Attendance
import Registrar.Proofs.Store.Backing

/-!
What the bot put together keeps, whatever it is asked.

* `Installation.not_before_instantAt`: a span that is not over has not passed on the clock of the bot
  either, even where that clock can no longer show the time.
* `Installation.Made.run`: no program changes the policy, the beginning of the clock, or the kind of
  the store.
* `Installation.answer_store`, `answer_set`, `answer_setText`, `answer_getText`: calls of the store,
  in terms of what it holds for one conversation.
* `Installation.holds_run`: a program of another conversation leaves records that no sweep takes.
-/

namespace Registrar

/-! ### The clock -/

namespace Instant

theorem ofParts?_eq_some {seconds : Int} {nanos : Nat} {t : Instant}
    (made : ofParts? seconds nanos = some t) : t.seconds = seconds ∧ t.nanos = nanos := by
  unfold ofParts? at made
  split at made
  · cases made
    exact ⟨rfl, rfl⟩
  · cases made

theorem addSeconds?_eq_some {t later : Instant} {n : Nat} (added : t.addSeconds? n = some later) :
    n = 0 ∧ later = t ∨ 0 < n ∧ later.seconds = t.seconds + n ∧
      (t.nanos < 1000000000 → later.nanos = t.nanos) := by
  unfold addSeconds? at added
  split at added
  · rename_i zero
    exact .inl ⟨zero, (Option.some.inj added).symm⟩
  · rename_i positive
    obtain ⟨seconds, nanos⟩ := ofParts?_eq_some added
    exact .inr ⟨by omega, seconds, fun small => by rw [nanos, if_pos small]⟩

theorem before_eq_false_iff {a b : Instant} :
    a.before b = false ↔ b.seconds < a.seconds ∨ b.seconds = a.seconds ∧ b.nanos ≤ a.nanos := by
  simp only [before, Bool.or_eq_false_iff, Bool.and_eq_false_iff, decide_eq_false_iff_not,
    beq_eq_false_iff_ne]
  omega

end Instant

namespace Installation

variable {b b' : Installation} {now : Nat}

/-- The clock shows the time since its beginning, and its beginning when that can no longer be shown. -/
theorem instantAt_cases (b : Installation) (now : Nat) :
    let nanos := b.site.origin.nanos + now % 1000 * 1000000
    let seconds := b.site.origin.seconds + now / 1000 + nanos / 1000000000
    (b.instantAt now).seconds = seconds ∧ (b.instantAt now).nanos = nanos % 1000000000 ∨
      Instant.last < seconds ∧ b.instantAt now = b.site.origin := by
  intro nanos seconds
  have first := b.site.origin.inRange.1
  by_cases shown : seconds ≤ Instant.last
  · have inRange : Instant.first ≤ seconds ∧ seconds ≤ Instant.last := ⟨by omega, shown⟩
    have small : nanos % 1000000000 < 1000000000 := Nat.mod_lt _ (by decide)
    have made : Instant.ofParts? seconds (nanos % 1000000000) =
        some ⟨seconds, nanos % 1000000000, inRange, .inl small⟩ :=
      dif_pos ⟨inRange, .inl small⟩
    have shows : b.instantAt now = (some _).getD b.site.origin :=
      congrArg (Option.getD · b.site.origin) made
    rw [shows]
    exact .inl ⟨rfl, rfl⟩
  · refine .inr ⟨Int.not_le.mp shown, ?_⟩
    have missing : Instant.ofParts? seconds (nanos % 1000000000) = none :=
      dif_neg fun h => shown h.1.2
    exact congrArg (Option.getD · b.site.origin) missing

/-- What the clock shows depends on when it began alone. -/
theorem instantAt_congr (origin : b'.site.origin = b.site.origin) :
    b'.instantAt now = b.instantAt now := by
  unfold instantAt
  rw [origin]

/-- A span that is not over has not passed on the clock either. -/
theorem not_before_instantAt {t u span : Nat} {expires : Instant}
    (origin : b'.site.origin = b.site.origin)
    (expiry : (b.instantAt t).addSeconds? span = some expires) (later : t ≤ u)
    (window : u ≤ t + 1000 * span) : expires.before (b'.instantAt u) = false := by
  rw [Instant.before_eq_false_iff]
  have shown := b.instantAt_cases t
  have shown' := b'.instantAt_cases u
  have last := expires.inRange.2
  have last' := (b'.instantAt u).inRange.2
  rw [origin] at shown'
  dsimp only at shown shown'
  rcases Instant.addSeconds?_eq_some expiry with ⟨rfl, rfl⟩ | ⟨positive, seconds, nanos⟩
  · have same : u = t := by omega
    subst same
    rcases shown with ⟨seconds, nanos⟩ | ⟨beyond, same⟩
    · rcases shown' with ⟨seconds', nanos'⟩ | ⟨beyond', same'⟩ <;> omega
    · rcases shown' with ⟨seconds', nanos'⟩ | ⟨beyond', same'⟩
      · omega
      · rw [same, same']
        exact .inr ⟨rfl, Nat.le_refl _⟩
  · rcases shown with ⟨seconds, nanos⟩ | ⟨beyond, same⟩
    · rcases shown' with ⟨seconds', nanos'⟩ | ⟨beyond', same'⟩ <;> omega
    · rcases shown' with ⟨seconds', nanos'⟩ | ⟨beyond', same'⟩
      · omega
      · rw [same'] at last' ⊢
        rw [same] at seconds
        omega

/-! ### What does not change about a bot -/

/-- The bot has these settings, keeps its store in memory, and its clock began at this instant. -/
structure Made (c : BotConfig) (origin : Instant) (b : Installation) : Prop where
  policy : b.policy = c.policy
  origin : b.site.origin = origin
  store : ∃ swept contents, b.store = .memory (1000 * c.store.sweepInterval) swept contents

variable {c : BotConfig} {site : Site} {origin : Instant}

theorem made_build (memory : c.store.kind = .memory) (built : build c site = .ok b) :
    b.Made c site.origin := by
  simp only [build, BackingStore.openFor, memory] at built
  cases location : Location.read c.databaseUrl with
  | error e => simp [location, Except.mapError, bind, Except.bind] at built
  | ok location' =>
      cases opened : OpenDirectory.openAt site.files location' with
      | error e => simp [location, opened, Except.mapError, bind, Except.bind] at built
      | ok place =>
          cases created : EmailSender.create c.email with
          | error e => simp [location, opened, created, Except.mapError, bind, Except.bind] at built
          | ok sender =>
              simp [location, opened, created, Except.mapError, bind, Except.bind] at built
              subst built
              exact ⟨rfl, rfl, 0, .empty, rfl⟩

theorem Made.answer (made : b.Made c origin) (r : Request) : (b.answer now r).2.Made c origin := by
  obtain ⟨policy, origin, swept, contents, store⟩ := made
  cases r with
  | store call =>
      let due := contents.elapse (1000 * c.store.sweepInterval) swept now
      refine ⟨policy, origin, now, (due.perform now call).2, ?_⟩
      simp only [Installation.answer, store]
      rfl
  | _ => exact ⟨policy, origin, swept, contents, store⟩

theorem Made.run {α : Type} (made : b.Made c origin) (p : Program α) :
    (p.run (Installation.answer now) b).2.Made c origin := by
  induction p generalizing b with
  | done | panic | crash => exact made
  | ask r next ih => exact ih _ (made.answer r)

/-! ### The store of a bot -/

variable {interval swept : Nat} {key : Conversation}
  {state : Option (Stamped State)} {scratch : Option (Stamped (Table String String))}

open Memory

theorem answer_store (now : Nat) (call : StoreCall)
    (holds : b.store.Holds interval swept key state scratch) (own : call.conversation = key) :
    let state' := aged interval swept now state
    let scratch' := aged interval swept now scratch
    ∃ s', b.answer now (.store call) =
        ((Record.perform ⟨state'.map Stamped.value, scratch'.map Stamped.value⟩ call).1,
          { b with store := s' }) ∧
      s'.Holds interval now key (stateAfter now state' call) (scratchAfter now scratch' call) := by
  obtain ⟨s', performed, holds'⟩ := holds.perform own now
  refine ⟨s', ?_, holds'⟩
  simp only [answer, performed]
  rfl

/-- The same when all sweeps that are due have run. -/
theorem answer_store_now (call : StoreCall)
    (holds : b.store.Holds interval now key state scratch)
    (own : call.conversation = key) :
    ∃ s', b.answer now (.store call) =
        ((Record.perform ⟨state.map Stamped.value, scratch.map Stamped.value⟩ call).1,
          { b with store := s' }) ∧
      s'.Holds interval now key (stateAfter now state call) (scratchAfter now scratch call) := by
  have answered := answer_store now call holds own
  rw [aged_self, aged_self] at answered
  exact answered

theorem answer_set (holds : b.store.Holds interval now key state scratch) (after : State) :
    ∃ s', b.answer now (.store (.set key after)) = (.ok (), { b with store := s' }) ∧
      s'.Holds interval now key (some ⟨after, now⟩) scratch :=
  answer_store_now (.set key after) holds rfl

theorem answer_setText (holds : b.store.Holds interval now key state scratch) (field text : String) :
    ∃ s', b.answer now (.store (.setData key field (.string text))) =
        (.ok (), { b with store := s' }) ∧
      s'.Holds interval now key state (some
        ⟨((scratch.map Stamped.value).getD .empty).insert field (Json.string text).print, now⟩) :=
  answer_store_now (.setData key field (.string text)) holds rfl

/-- A field that holds a text is read, and the scratch map is touched. -/
theorem answer_getText {fields : Table String String} {touched : Nat} {field text : String}
    (holds : b.store.Holds interval now key state (some ⟨fields, touched⟩))
    (found : fields.get? field = some (Json.string text).print) :
    ∃ s', b.answer now (.store (.getData key field)) =
        (.ok ((some text).map .string), { b with store := s' }) ∧
      s'.Holds interval now key state (some ⟨fields, now⟩) := by
  obtain ⟨s', answered, holds'⟩ := answer_store_now (.getData key field) holds rfl
  refine ⟨s', answered.trans (Prod.ext ?_ rfl), holds'⟩
  exact Record.perform_getText key found

/-- A program of another conversation leaves the records that are spared by then. -/
theorem holds_run {α : Type} {p : Program α} {c' : Conversation} (minds : p.Minds c')
    (other : c' ≠ key) {r : Stamped State} {f : Stamped (Table String String)}
    (spares : Spares interval r.touched now) (spares' : Spares interval f.touched now)
    (holds : ∃ swept, b.store.Holds interval swept key (some r) (some f)) :
    let b' := (p.run (Installation.answer now) b).2
    ∃ swept, b'.store.Holds interval swept key (some r) (some f) := by
  induction p generalizing b with
  | done | panic | crash => exact holds
  | ask q next ih =>
      obtain ⟨own, rest⟩ := minds
      obtain ⟨swept, holds⟩ := holds
      refine ih _ (rest _) ?_
      cases q with
      | store call =>
          have apart : call.conversation ≠ key := own call rfl ▸ other
          have holds' := holds.perform_other apart now
          rw [spares.aged, spares'.aged] at holds'
          exact ⟨now, holds'⟩
      | _ => exact ⟨swept, holds⟩

end Installation

end Registrar
