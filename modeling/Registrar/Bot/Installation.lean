import Registrar.Email.Sender
import Registrar.Handler.Program
import Registrar.Registration.Code
import Registrar.Registration.Steps
import Registrar.Store.Backing
import Registrar.Users.Location
/-!
The bot put together from its settings: a store, a table of users, a sender of e-mails, a source of
codes, and the handlers.
-/

namespace Registrar

/-- What the bot finds around it when it is put together. -/
structure Site where
  /-- The instant at the beginning of the clock. -/
  origin : Instant
  network : Redis.Store.Network
  web : Http.Web
  files : DirectoryFiles
  /-- The random blocks for each code. -/
  random : Nat → List (Except String Registration.Block)

/-- A site from which nothing can be reached, and where codes of a length come from the same bytes over
and over. -/
def Site.offline (origin : Instant) (files : DirectoryFiles) (codeLength : Nat) : Site where
  origin := origin
  network := Redis.Store.nowhere
  web := Http.nowhere
  files := files
  random := fun _ => List.replicate (codeLength + 1) (.ok (.ofFn fun i => UInt8.ofNat (37 * i.val + 1)))

structure Installation where
  site : Site
  store : BackingStore
  users : OpenDirectory
  sender : EmailSender
  policy : Registration.Policy
  /-- The number of codes drawn. -/
  codes : Nat
  /-- The number of users entered. -/
  entered : Nat
  /-- The messages that were sent, the latest first. -/
  sent : List Outgoing

inductive BuildError where
  | store (cause : StorageError)
  | users (cause : UsersError)
  | email (cause : ConfigError)
deriving DecidableEq

namespace BuildError

/-- The wording of the reason why the bot cannot be put together. -/
def message : BuildError → String
  | store cause => "Failed to initialize state store: " ++ cause.message
  | users cause => "Failed to initialize user storage: " ++ cause.message
  | email cause => cause.message

end BuildError

namespace Installation

/-- Puts the bot together: first the store, then the table of users, then the sender of e-mails. -/
def build (c : BotConfig) (site : Site) : Except BuildError Installation := do
  let store ← (BackingStore.openFor c.store site.network).mapError .store
  let location ← (Location.read c.databaseUrl).mapError .users
  let (users, files) ← (OpenDirectory.openAt site.files location).mapError .users
  let sender ← (EmailSender.create c.email).mapError .email
  .ok {
    site := { site with files := files }
    store := store
    users := users
    sender := sender
    policy := c.policy
    codes := 0
    entered := 0
    sent := [] }

def routes (c : BotConfig) : Routes := Registration.routes c.policy c.quizUrl

def instantAt (b : Installation) (now : Nat) : Instant :=
  let nanos := b.site.origin.nanos + now % 1000 * 1000000
  (Instant.ofParts? (b.site.origin.seconds + now / 1000 + nanos / 1000000000)
    (nanos % 1000000000)).getD b.site.origin

def drawCode (b : Installation) : Except BotError String :=
  (Registration.newCode? b.policy.codeLength (b.site.random b.codes)).getD
    (.error (.otp "the source of random bytes came to an end"))

/-- Answers a request at a time in milliseconds. -/
def answer (now : Nat) (b : Installation) : (r : Request) → r.Answer × Installation
  | .store call =>
    let (answer, store) := b.store.perform now call
    (answer, { b with store := store })
  | .clock => (b.instantAt now, b)
  | .newCode => (b.drawCode, { b with codes := b.codes + 1 })
  | .deliver mail => ((b.sender.send b.site.web mail).2, b)
  | .enroll login telegramId roles =>
    let now := b.instantAt now
    let given : UserRecord :=
      ⟨UserRecord.identifier b.entered, login, telegramId, roles, now, now⟩
    let (answer, users, files) := b.users.enter now given b.site.files
    (answer, { b with
      users := users, site := { b.site with files := files }, entered := b.entered + 1 })
  | .send message => (.ok (), { b with sent := message :: b.sent })
  | .pause _ => ((), b)
  | .permit => ((), b)
  | .note _ => ((), b)

end Installation

end Registrar
