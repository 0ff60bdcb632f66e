import Consortium.Network.Plan

/-!
Issuance without an authority to ask: creating a network, and asking to join one.
-/

namespace Consortium

structure NetworkFounding where
  networkId : Option NetworkId
  groupId : Option LinearId
  groupName : Option String
  business : Option BusinessIdentity
deriving DecidableEq

namespace NetworkFounding

def unspecified : NetworkFounding := ⟨none, none, none, none⟩

instance : Inhabited NetworkFounding := ⟨unspecified⟩

end NetworkFounding

structure MembershipApplication where
  networkId : NetworkId
  /-- Who is to review the application. -/
  operator : Party
  business : Option BusinessIdentity
deriving DecidableEq

namespace Coordinator

def foundingMembership (coordinator : Coordinator) (founding : NetworkFounding)
    (networkId : NetworkId) (ids : FreshIds) (now : Timestamp) : MembershipState where
  networkId := networkId
  linearId := .ofUuid ids.membership
  issuer := coordinator.identity
  issued := now
  modified := now
  participants := .singleton coordinator.identity
  identity := ⟨coordinator.identity, founding.business⟩
  status := .active
  roles := .singleton .operator

def foundingGroup (coordinator : Coordinator) (founding : NetworkFounding)
    (networkId : NetworkId) (ids : FreshIds) (now : Timestamp) : GroupState where
  networkId := networkId
  linearId := founding.groupId.getD (.ofUuid ids.group)
  issuer := coordinator.identity
  issued := now
  modified := now
  participants := .singleton coordinator.identity
  name := founding.groupName

/-- One transaction issues the operator's membership and the first group. -/
def foundingPlan (coordinator : Coordinator) (founding : NetworkFounding) (networkId : NetworkId)
    (ids : FreshIds) : Plan where
  claims := .ofNetwork networkId :: (founding.groupId.map LockKey.ofGroup).toList
  draft := fun now =>
    let signers := SortedSet.singleton coordinator.identity.owningKey
    { Transaction.empty with
      outputs :=
        [.ofMembership (coordinator.foundingMembership founding networkId ids now),
          .ofGroup (coordinator.foundingGroup founding networkId ids now)]
      commands := [⟨.membership .bootstrap, signers⟩, ⟨.group .bootstrap, signers⟩] }
  outcome := fun record => do
    let membership ← Plan.membershipOf record
    let group ← Plan.groupOf record
    .ok (.bootstrapped record.txId networkId membership group)

def planBootstrap {π : Type} [Platform π] (coordinator : Coordinator) (founding : NetworkFounding)
    (ids : FreshIds) (platform : π) : Except NetworkError Plan := do
  let networkId := founding.networkId.getD (.ofUuid ids.network)
  if ← Platform.ask (Platform.networkExists networkId platform) then
    .error (.alreadyExists (.network networkId))
  Platform.requireFreeGroup platform founding.groupId
  .ok (coordinator.foundingPlan founding networkId ids)

def pendingMembership (coordinator : Coordinator) (application : MembershipApplication)
    (ids : FreshIds) (now : Timestamp) : MembershipState where
  networkId := application.networkId
  linearId := .ofUuid ids.membership
  issuer := coordinator.identity
  issued := now
  modified := now
  participants := .ofList [coordinator.identity, application.operator]
  identity := ⟨coordinator.identity, application.business⟩
  status := .pending
  roles := .empty

def applicationPlan (coordinator : Coordinator) (application : MembershipApplication)
    (ids : FreshIds) : Plan where
  claims := [.ofPendingMembership application.networkId coordinator.identity]
  draft := fun now =>
    { Transaction.empty with
      outputs := [.ofMembership (coordinator.pendingMembership application ids now)]
      commands := [⟨.membership .request, .singleton coordinator.identity.owningKey⟩] }
  outcome := Plan.recordedMembership

def planApplication {π : Type} [Platform π] (coordinator : Coordinator)
    (application : MembershipApplication) (ids : FreshIds) (platform : π) :
    Except NetworkError Plan := do
  let networkId := application.networkId
  if !(← Platform.ask (Platform.networkExists networkId platform)) then
    .error (.notFound (.network networkId))
  let own ← Platform.ask (Platform.membership networkId coordinator.identity platform)
  if own.isSome then .error (.alreadyExists (.membership coordinator.identity networkId))
  let _ ← Platform.requireMembership platform networkId application.operator
  .ok (coordinator.applicationPlan application ids)

end Coordinator

end Consortium
