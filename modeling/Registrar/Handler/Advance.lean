import Registrar.Handler.Program
/-!
Running a program up to the point where it has to wait: for time to pass, or for a permit of the gate.
-/

namespace Registrar

/-- Where a program stops for the time being. -/
inductive Stop (α : Type) where
  /-- It has ended. -/
  | ended (ending : Ending α)
  /-- It goes on after a number of milliseconds. -/
  | asleep (milliseconds : Nat) (rest : Program α)
  /-- It goes on as soon as it is given a permit. -/
  | atGate (rest : Program α)

/-- What a program finds and leaves behind: its surroundings, the permits at the gate that nobody has
taken, and the notes written so far, the latest first. -/
structure Scene (σ : Type) where
  surroundings : σ
  permits : Nat
  notes : List String

namespace Program

variable {α σ : Type}

/-- Runs a program until it has to wait. A permit that is there is taken at once, and a pause of no
length is none. -/
def advance (answer : σ → (r : Request) → r.Answer × σ) : Program α → Scene σ → Stop α × Scene σ
  | done a, s => (.ended (.done a), s)
  | panic, s => (.ended .panic, s)
  | crash, s => (.ended .crash, s)
  | ask (.pause 0) next, s => (next ()).advance answer s
  | ask (.pause (n + 1)) next, s => (.asleep (n + 1) (next ()), s)
  | ask .permit next, ⟨w, 0, notes⟩ => (.atGate (next ()), ⟨w, 0, notes⟩)
  | ask .permit next, ⟨w, n + 1, notes⟩ => (next ()).advance answer ⟨w, n, notes⟩
  | ask (.note text) next, s => (next ()).advance answer { s with notes := text :: s.notes }
  | ask r next, s =>
    let (a, w) := answer s.surroundings r
    (next a).advance answer { s with surroundings := w }

end Program

end Registrar
