import Registrar.Bot.Installation
import Registrar.Proofs.Store.Retention

/-!
What the store of the bot holds for a conversation as time goes by.

The sweeper of a store in memory only runs when a call comes, and then makes up for all sweeps that
are due. What it leaves of a record is `Memory.aged`; a record that is `Memory.Spares`d stays.

* `BackingStore.Holds.perform`: a call is answered out of what is left of the records of its
  conversation by then, as `Record.perform` has it.
* `BackingStore.Holds.perform_other`: the calls of others leave them otherwise alone.
-/

namespace Registrar

namespace Memory

variable {α : Type} {interval start stop : Nat}

/-- What is left of a record after a sweeper has run from one time to another. -/
def aged (interval start stop : Nat) (slot : Option (Stamped α)) : Option (Stamped α) :=
  match lastSweep interval start stop with
  | some time => slot.filter fun r => time - r.touched ≤ 2 * interval
  | none => slot

theorem states_elapse (m : Memory) (c : Conversation) :
    (m.elapse interval start stop).states.get? c = aged interval start stop (m.states.get? c) := by
  simp only [elapse, aged]
  cases lastSweep interval start stop with
  | none => rfl
  | some time => exact states_keepFresh _ _ m c

theorem scratch_elapse (m : Memory) (c : Conversation) :
    (m.elapse interval start stop).scratch.get? c = aged interval start stop (m.scratch.get? c) := by
  simp only [elapse, aged]
  cases lastSweep interval start stop with
  | none => rfl
  | some time => exact scratch_keepFresh _ _ m c

/-- No time, no sweep. -/
@[simp] theorem aged_self (slot : Option (Stamped α)) : aged interval start start slot = slot := by
  have idle : lastSweep interval start start = none := by simp [lastSweep]
  simp only [aged, idle]

/-- No sweep by a time comes later than twice the interval after another time. -/
def Spares (interval touched now : Nat) : Prop := now / interval * interval ≤ touched + 2 * interval

/-- What is spared by a time is spared by any time before it. -/
theorem Spares.mono {touched now sooner : Nat} (spares : Spares interval touched now)
    (earlier : sooner ≤ now) : Spares interval touched sooner :=
  Nat.le_trans (Nat.mul_le_mul_right _ (Nat.div_le_div_right earlier)) spares

/-- A record stays as long as it is spared. -/
theorem Spares.aged {r : Stamped α} (spares : Spares interval r.touched stop) :
    aged interval start stop (some r) = some r := by
  unfold Spares at spares
  unfold Memory.aged
  split
  · rename_i time swept
    unfold lastSweep at swept
    split at swept
    · cases swept
    · split at swept
      · obtain rfl := Option.some.inj swept
        exact Option.filter_some_pos (decide_eq_true (by omega))
      · cases swept
  · rfl

end Memory

namespace BackingStore

open Memory

/-- A store in memory, swept at an interval and so up to a time, holds these records for a
conversation. -/
def Holds (s : BackingStore) (interval swept : Nat) (c : Conversation)
    (state : Option (Stamped State)) (scratch : Option (Stamped (Table String String))) : Prop :=
  ∃ contents, s = .memory interval swept contents ∧ contents.states.get? c = state ∧
    contents.scratch.get? c = scratch

variable {s : BackingStore} {interval swept : Nat} {c : Conversation}
  {state : Option (Stamped State)} {scratch : Option (Stamped (Table String String))}
  {call : StoreCall}

/-- A call of the conversation is answered out of what is left of its records by then. -/
theorem Holds.perform (h : s.Holds interval swept c state scratch) (own : call.conversation = c)
    (now : Nat) :
    let state' := aged interval swept now state
    let scratch' := aged interval swept now scratch
    ∃ s', s.perform now call =
        ((Record.perform ⟨state'.map Stamped.value, scratch'.map Stamped.value⟩ call).1, s') ∧
      s'.Holds interval now c (stateAfter now state' call) (scratchAfter now scratch' call) := by
  obtain ⟨contents, rfl, rfl, rfl⟩ := h
  refine ⟨_, Prod.ext ?_ rfl, ((contents.elapse interval swept now).perform now call).2, rfl, ?_, ?_⟩
  · change ((contents.elapse interval swept now).perform now call).1 = _
    rw [answer_perform, own, record, states_elapse, scratch_elapse]
  · rw [states_perform, if_pos own, states_elapse]
  · rw [scratch_perform, if_pos own, scratch_elapse]

/-- A call of another conversation leaves what is left of the records by then. -/
theorem Holds.perform_other (h : s.Holds interval swept c state scratch)
    (other : call.conversation ≠ c) (now : Nat) :
    (s.perform now call).2.Holds interval now c (aged interval swept now state)
      (aged interval swept now scratch) := by
  obtain ⟨contents, rfl, rfl, rfl⟩ := h
  refine ⟨((contents.elapse interval swept now).perform now call).2, rfl, ?_, ?_⟩
  · rw [states_perform, if_neg other, states_elapse]
  · rw [scratch_perform, if_neg other, scratch_elapse]

end BackingStore

end Registrar
