import Registrar.Config.Storage
import Registrar.Redis.Store
/-!
The store that the settings ask for: in memory, with a sweeper, or on a Redis server.
-/

namespace Registrar

/-- A store at work. Times are in milliseconds. -/
inductive BackingStore where
  /-- A store in memory, how often it is swept, and until when that has been done. -/
  | memory (interval swept : Nat) (contents : Memory)
  | redis (store : Redis.Store) (server : Redis.Server)

namespace BackingStore

/-- Opens the store that settings ask for. A server has to answer. -/
def openFor (s : StoreSettings) (reach : Redis.Store.Network) : Except StorageError BackingStore :=
  match s.kind with
  | .memory => .ok (memory (1000 * s.sweepInterval) 0 .empty)
  | .redis =>
    (Redis.Store.connectAndCheck reach s.redis.url).2.map
      (redis ⟨s.keyPrefix, 1000 * s.lifetime⟩)

/-- The answer to a call at a time, and the store after it. What is due to be swept by then is swept
first. -/
def perform (now : Nat) (call : StoreCall) : BackingStore → call.Answer × BackingStore
  | memory interval swept contents =>
    let (answer, contents) := (contents.elapse interval swept now).perform now call
    (answer, memory interval now contents)
  | redis store server =>
    let (answer, server) := store.perform server call
    (answer, redis store server)

end BackingStore

end Registrar
