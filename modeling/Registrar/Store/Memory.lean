import Registrar.Data.Table
import Registrar.Store.Call
/-!
A store in memory.

States and scratch maps carry the time at which they were last read or written, each its own. A sweep
removes what has not been touched for longer than a given age. Scratch values are kept as JSON text,
so that they read back as they would from a store outside the process.

Times are milliseconds on a clock that never runs backwards.
-/

namespace Registrar

/-- A value and the time at which it was last touched. -/
structure Stamped (α : Type) where
  value : α
  touched : Nat

structure Memory where
  states : Table Conversation (Stamped State)
  scratch : Table Conversation (Stamped (Table String String))

namespace Memory

def empty : Memory := ⟨.empty, .empty⟩

/-- The number of conversations with a state record. -/
def size (m : Memory) : Nat := m.states.size

/-- Whether neither a state nor a scratch map is held. -/
def isEmpty (m : Memory) : Bool := m.states.isEmpty && m.scratch.isEmpty

/-- The number of records of both kinds. -/
def recordCount (m : Memory) : Nat := m.states.size + m.scratch.size

def decodeText (text : String) : Except StorageError Json :=
  (Json.parse text).mapError .ofJsonError

/-- The answer to a call at a time, and the store after it. -/
def perform (now : Nat) (m : Memory) : (call : StoreCall) → call.Answer × Memory
  | .get c =>
    match m.states.get? c with
    | some slot => (.ok slot.value, { m with states := m.states.insert c ⟨slot.value, now⟩ })
    | none => (.ok State.default, m)
  | .set c state => (.ok (), { m with states := m.states.insert c ⟨state, now⟩ })
  | .delete c => (.ok (), { m with states := m.states.erase c })
  | .getData c field =>
    match m.scratch.get? c with
    | some slot =>
      let m := { m with scratch := m.scratch.insert c ⟨slot.value, now⟩ }
      match slot.value.get? field with
      | some text =>
        match decodeText text with
        | .ok v => (.ok (some v), m)
        | .error e => (.error e, m)
      | none => (.ok none, m)
    | none => (.ok none, m)
  | .setData c field value =>
    let fields :=
      match m.scratch.get? c with
      | some slot => slot.value
      | none => .empty
    (.ok (), { m with scratch := m.scratch.insert c ⟨fields.insert field value.print, now⟩ })
  | .clearData c => (.ok (), { m with scratch := m.scratch.erase c })

/-- The records that at a time have been left untouched for at most `maxAge`. -/
def keepFresh (now maxAge : Nat) (m : Memory) : Memory :=
  ⟨m.states.retain fun _ slot => now - slot.touched ≤ maxAge,
    m.scratch.retain fun _ slot => now - slot.touched ≤ maxAge⟩

/-- Removes the records that have been left untouched for longer than twice the sweep interval, and
tells how many they were. -/
def sweep (interval now : Nat) (m : Memory) : Nat × Memory :=
  let kept := m.keepFresh now (2 * interval)
  (m.recordCount - kept.recordCount, kept)

/-- The last time after `start` and not after `stop` at which a sweeper with this interval runs. It runs
at the multiples of the interval, and never for the interval zero. -/
def lastSweep (interval start stop : Nat) : Option Nat :=
  if interval = 0 then none
  else if start / interval < stop / interval then some (stop / interval * interval)
  else none

/-- The store after a sweeper has run from one time to another, with no call between. What an earlier
sweep removes is only older at a later one, so the last sweep alone leaves the same records. -/
def elapse (interval start stop : Nat) (m : Memory) : Memory :=
  match lastSweep interval start stop with
  | some time => (m.sweep interval time).2
  | none => m

end Memory

end Registrar
