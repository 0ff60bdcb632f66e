import Consortium.Config.Service
import Consortium.Lock.Environment
import Consortium.Network.Bootstrap
import Consortium.Network.Task

/-!
What a configuration decides: the network to create, where locks are kept, and when a lock is taken
to be forgotten.
-/

namespace Consortium

namespace ServiceConfig

def founding (config : ServiceConfig) : NetworkFounding :=
  { NetworkFounding.unspecified with networkId := config.defaultNetworkId }

/-- A new environment of locks. It cannot be made where a plain file stands in the place of the data
directory. -/
def openLocks (config : ServiceConfig) (directoryBlocked : Bool) :
    Except NetworkError LockEnvironment :=
  (LockEnvironment.create config.lockMapSize directoryBlocked).mapError .store

def reconcileLocks {π σ : Type} [LockStore σ] (config : ServiceConfig) (services : Services π σ) :
    Except NetworkError (List RequestLock) × Services π σ :=
  let (removed, locks) := RequestLock.reconcile config.lockMaxAge services.clock services.locks
  (removed.mapError .ofLock, { services with locks })

end ServiceConfig

end Consortium
