import Registrar.Handler.Program
import Registrar.Store.Fault
import Registrar.Store.Memory
import Registrar.Users.Directory
/-!
Surroundings to try handlers in: a store in memory, a clock that moves on a little at every glance, a
list of codes to hand out, and failures on request. What leaves the bot is kept, the latest first.
-/

namespace Registrar

/-- An entry into the table of users: what was asked for, and the row that came of it. -/
structure Enrolment where
  login : String
  telegramId : Option Int64
  roles : Roles
  row : UserRecord

/-- Surroundings to try handlers in. -/
structure Rehearsal where
  clock : Instant
  memory : Memory
  faults : List FaultRule
  /-- The codes to be handed out next. -/
  codes : List (Except String String)
  /-- The code that is handed out when no other is left. -/
  lastCode : String
  /-- The reason why no e-mail goes out, if there is one. -/
  mailFault : Option EmailError
  /-- The reason why no message goes out, if there is one. -/
  chatFault : Option String
  /-- The reason why no user can be entered, if there is one. -/
  usersFault : Option UsersError
  users : Directory
  /-- The number of identifiers given out. -/
  identifiers : Nat
  sent : List Outgoing
  mailed : List Email
  enrolled : List Enrolment

namespace Rehearsal

/-- Surroundings without failures in which nothing has happened. -/
def start (clock : Instant) (lastCode : String) : Rehearsal :=
  ⟨clock, .empty, [], [], lastCode, none, none, none, .empty, 0, [], [], []⟩

/-- A moment later: a microsecond, or none at the end of time. -/
def later (t : Instant) : Instant :=
  let nanos := t.nanos + 1000
  let next :=
    if nanos < 1000000000 then Instant.ofParts? t.seconds nanos
    else Instant.ofParts? (t.seconds + 1) (nanos - 1000000000)
  next.getD t

/-- Answers a call on the store, or refuses it by the rules. -/
def callStore (now : Nat) (s : Rehearsal) (call : StoreCall) : call.Answer × Rehearsal :=
  match FaultRule.judge call s.faults with
  | (some reason, faults) => (.error (.backend reason), { s with faults := faults })
  | (none, faults) =>
    let (answer, memory) := s.memory.perform now call
    (answer, { s with faults := faults, memory := memory })

def handOut (s : Rehearsal) : Except BotError String × Rehearsal :=
  match s.codes with
  | [] => (.ok s.lastCode, s)
  | .ok code :: codes => (.ok code, { s with codes := codes })
  | .error reason :: codes => (.error (.otp reason), { s with codes := codes })

def enroll (s : Rehearsal) (login : String) (telegramId : Option Int64) (roles : Roles) :
    Except UsersError UserRecord × Rehearsal :=
  match s.usersFault with
  | some fault => (.error fault, s)
  | none =>
    let given : UserRecord :=
      ⟨UserRecord.identifier s.identifiers, login, telegramId, roles, s.clock, s.clock⟩
    let (answer, users) := s.users.enter s.clock given
    let s := { s with users := users, identifiers := s.identifiers + 1 }
    match answer with
    | .ok row => (.ok row, { s with enrolled := ⟨login, telegramId, roles, row⟩ :: s.enrolled })
    | .error e => (.error e, s)

/-- Answers a request at a time in milliseconds. Nobody waits: pauses and permits are granted. -/
def answer (now : Nat) (s : Rehearsal) : (r : Request) → r.Answer × Rehearsal
  | .store call => s.callStore now call
  | .clock => (s.clock, { s with clock := later s.clock })
  | .newCode => s.handOut
  | .deliver mail =>
    match s.mailFault with
    | some fault => (.error fault, s)
    | none => (.ok (), { s with mailed := mail :: s.mailed })
  | .enroll login telegramId roles => s.enroll login telegramId roles
  | .send message =>
    match s.chatFault with
    | some reason => (.error (.bot reason), s)
    | none => (.ok (), { s with sent := message :: s.sent })
  | .pause _ => ((), s)
  | .permit => ((), s)
  | .note _ => ((), s)

end Rehearsal

end Registrar
