import Consortium.Network.Plan

/-!
Groups of a network: creation, modification and exit. Everybody who takes part in a group signs for
it.
-/

namespace Consortium

structure GroupProposal where
  networkId : NetworkId
  groupId : Option LinearId
  name : Option String
  /-- Who takes part besides the creator, in any order. -/
  participants : List Party
deriving DecidableEq

structure GroupChange where
  name : Option String
  participants : Option (SortedSet Party)
deriving DecidableEq

namespace GroupChange

def newName (change : GroupChange) (current : GroupState) : Option String :=
  change.name.filter fun name => decide (current.name ≠ some name)

def joining (change : GroupChange) (current : GroupState) : List Party :=
  match change.participants with
  | none => []
  | some participants => (participants.difference current.participants).toList

def apply (change : GroupChange) (current : GroupState) : GroupState :=
  { current with
    name := change.name.or current.name
    participants := change.participants.getD current.participants }

end GroupChange

namespace Coordinator

variable {π : Type} [Platform π]

def owningKeys (parties : SortedSet Party) : SortedSet PublicKey :=
  .ofList (parties.toList.map Party.owningKey)

def requireMembers (platform : π) (networkId : NetworkId) :
    List Party → Except NetworkError Unit
  | [] => .ok ()
  | party :: rest => do
      let _ ← Platform.requireMembership platform networkId party
      requireMembers platform networkId rest

def proposedGroup (coordinator : Coordinator) (proposal : GroupProposal) (ids : FreshIds)
    (now : Timestamp) : GroupState where
  networkId := proposal.networkId
  linearId := proposal.groupId.getD (.ofUuid ids.group)
  issuer := coordinator.identity
  issued := now
  modified := now
  participants := .ofList (coordinator.identity :: proposal.participants)
  name := proposal.name

def groupPlan (coordinator : Coordinator) (proposal : GroupProposal) (ids : FreshIds)
    (initiator : StateAndRef) : Plan where
  claims :=
    (proposal.groupId.map LockKey.ofGroup).toList ++
      (proposal.name.map (LockKey.ofGroupName proposal.networkId)).toList
  draft := fun now =>
    let group := coordinator.proposedGroup proposal ids now
    { Transaction.empty with
      outputs := [.ofGroup group]
      references := [initiator]
      commands := [⟨.group .create, owningKeys group.participants⟩] }
  outcome := Plan.recordedGroup

def planGroup (coordinator : Coordinator) (proposal : GroupProposal) (ids : FreshIds)
    (platform : π) : Except NetworkError Plan := do
  let networkId := proposal.networkId
  let initiator ← Platform.requireMembership platform networkId coordinator.identity
  Platform.requireFreeGroup platform proposal.groupId
  Platform.requireFreeName platform networkId proposal.name
  requireMembers platform networkId proposal.participants
  .ok (coordinator.groupPlan proposal ids initiator)

/-- The next version of a group. Its time of modification never goes back. -/
def evolvedGroup (current : GroupState) (change : GroupChange) (now : Timestamp) : GroupState :=
  { change.apply current with modified := .latest now current.modified }

def requireGroupState (platform : π) (id : LinearId) :
    Except NetworkError (StateAndRef × GroupState) := do
  let input ← Platform.requireGroup platform id
  match input.group? with
  | some current => .ok (input, current)
  | none => .error (.notFound (.group id))

/-- Old and new participants sign for a change. -/
def groupChangePlan (input : StateAndRef) (current : GroupState) (change : GroupChange)
    (initiator : StateAndRef) : Plan where
  claims := ((change.newName current).map (LockKey.ofGroupName current.networkId)).toList
  draft := fun now =>
    let output := evolvedGroup current change now
    { Transaction.empty with
      inputs := [input]
      outputs := [.ofGroup output]
      references := [initiator]
      commands := [⟨.group .modify, owningKeys (current.participants.union output.participants)⟩] }
  outcome := Plan.recordedGroup

def planGroupChange (coordinator : Coordinator) (id : LinearId) (change : GroupChange)
    (platform : π) : Except NetworkError Plan := do
  let (input, current) ← requireGroupState platform id
  let networkId := current.networkId
  let initiator ← Platform.requireMembership platform networkId coordinator.identity
  Platform.requireFreeName platform networkId (change.newName current)
  requireMembers platform networkId (change.joining current)
  .ok (groupChangePlan input current change initiator)

def groupExitPlan (input : StateAndRef) (current : GroupState) (initiator : StateAndRef) :
    Plan where
  claims := []
  draft := fun _ =>
    { Transaction.empty with
      inputs := [input]
      references := [initiator]
      commands := [⟨.group .exit, owningKeys current.participants⟩] }
  outcome := Plan.consumption

def planGroupExit (coordinator : Coordinator) (id : LinearId) (platform : π) :
    Except NetworkError Plan := do
  let (input, current) ← requireGroupState platform id
  let initiator ←
    Platform.requireMembership platform current.networkId coordinator.identity
  .ok (groupExitPlan input current initiator)

end Coordinator

end Consortium
