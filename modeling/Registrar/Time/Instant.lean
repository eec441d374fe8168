import Registrar.Time.Calendar
/-!
Instants: seconds since the beginning of 1970 in universal time, with nanoseconds.

A leap second is told as the second before it with more than a thousand million nanoseconds. The
years from -262143 to 262142 are covered; an instant outside them cannot be represented.
-/

namespace Registrar

/-- The first second that an instant can have: the beginning of the year -262143. -/
def Instant.first : Int := (Calendar.Date.mk (-262143) 1 1).toDays * 86400

/-- The last second that an instant can have: the end of the year 262142. -/
def Instant.last : Int := (Calendar.Date.mk 262142 12 31).toDays * 86400 + 86399

structure Instant where
  seconds : Int
  nanos : Nat
  inRange : Instant.first ≤ seconds ∧ seconds ≤ Instant.last
  nanos_lt : nanos < 1000000000 ∨ nanos < 2000000000 ∧ seconds % 60 = 59
deriving DecidableEq

namespace Instant

def ofParts? (seconds : Int) (nanos : Nat) : Option Instant :=
  if h : (first ≤ seconds ∧ seconds ≤ last) ∧
      (nanos < 1000000000 ∨ nanos < 2000000000 ∧ seconds % 60 = 59) then
    some ⟨seconds, nanos, h.1, h.2⟩
  else none

/-- The beginning of 1970. -/
def epoch : Instant := ⟨0, 0, by decide, Or.inl (by decide)⟩

def before (a b : Instant) : Bool :=
  a.seconds < b.seconds || (a.seconds == b.seconds && a.nanos < b.nanos)

/-- The instant a number of whole seconds later, if it can be represented; one second after a moment
inside a leap second lies in the second after the leap second. -/
def addSeconds? (t : Instant) (n : Nat) : Option Instant :=
  if n = 0 then some t
  else ofParts? (t.seconds + n) (if t.nanos < 1000000000 then t.nanos else t.nanos - 1000000000)

/-- Nanoseconds since the beginning of 1970. -/
def totalNanos (t : Instant) : Int := t.seconds * 1000000000 + t.nanos

/-- Nanoseconds from one instant to another. The second after a leap second comes when the leap second is
over, but this is only counted from the earlier time of day to the later one. -/
def nanosUntil (t later : Instant) : Int :=
  later.totalNanos - t.totalNanos +
    if t.seconds % 86400 < later.seconds % 86400 ∧ 1000000000 ≤ t.nanos then 1000000000
    else if later.seconds % 86400 < t.seconds % 86400 ∧ 1000000000 ≤ later.nanos then -1000000000
    else 0

/-- The whole seconds from one instant to another, a part of a second being dropped. -/
def secondsUntil (t later : Instant) : Int :=
  Int.tdiv (t.nanosUntil later) 1000000000

end Instant

end Registrar
