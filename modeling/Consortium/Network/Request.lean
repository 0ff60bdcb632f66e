import Consortium.Network.Bootstrap
import Consortium.Network.Group
import Consortium.Network.Transition

/-!
Everything that a coordinator can be asked to do.
-/

namespace Consortium

inductive Request where
  | found (founding : NetworkFounding)
  | apply (application : MembershipApplication)
  | change (networkId : NetworkId) (party : Party) (change : MembershipChange)
  | revoke (networkId : NetworkId) (party : Party)
  | createGroup (proposal : GroupProposal)
  | modifyGroup (id : LinearId) (change : GroupChange)
  | exitGroup (id : LinearId)
deriving DecidableEq

def Coordinator.plan {π : Type} [Platform π] (coordinator : Coordinator) (request : Request)
    (ids : FreshIds) (platform : π) : Except NetworkError Plan :=
  match request with
  | .found founding => coordinator.planBootstrap founding ids platform
  | .apply application => coordinator.planApplication application ids platform
  | .change networkId party change => coordinator.planTransition networkId party change platform
  | .revoke networkId party => coordinator.planRevocation networkId party platform
  | .createGroup proposal => coordinator.planGroup proposal ids platform
  | .modifyGroup id change => coordinator.planGroupChange id change platform
  | .exitGroup id => coordinator.planGroupExit id platform

end Consortium
