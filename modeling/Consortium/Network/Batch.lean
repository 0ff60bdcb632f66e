import Consortium.Network.Task

/-!
The same change to the memberships of several parties. Each is a request of its own: a failure is
reported for its party, and the batch goes on.
-/

namespace Consortium

namespace Coordinator

variable {π σ : Type} [Platform π] [LockStore σ] [Suite]

/-- Changes the memberships of the parties in turn. `ids` has the uuids of each request. -/
def runBatch (coordinator : Coordinator) (networkId : NetworkId) (change : MembershipChange)
    (ids : Nat → FreshIds) : List Party → Services π σ →
      List (Party × Except NetworkError Outcome) × Services π σ
  | [], services => ([], services)
  | party :: rest, services =>
      let (result, services) :=
        coordinator.run (.change networkId party change) (ids 0) services
      let (others, services) :=
        coordinator.runBatch networkId change (fun index => ids (index + 1)) rest services
      ((party, result) :: others, services)

end Coordinator

end Consortium
