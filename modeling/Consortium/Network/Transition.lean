import Consortium.Network.Plan

/-!
Transitions of a membership under the authority of a member: its own or another one's.
-/

namespace Consortium

inductive MembershipChange where
  | activate
  | suspend
  | setRoles (roles : SortedSet Role)
  | setBusiness (business : Option BusinessIdentity)
  | setParticipants (participants : SortedSet Party)
deriving DecidableEq

namespace MembershipChange

def command : MembershipChange → MembershipCommand
  | .activate => .activate
  | .suspend => .suspend
  | .setRoles _ => .modifyRoles
  | .setBusiness _ => .modifyBusinessIdentity
  | .setParticipants _ => .modifyParticipants

def apply (change : MembershipChange) (membership : MembershipState) : MembershipState :=
  match change with
  | .activate => { membership with status := .active }
  | .suspend => { membership with status := .suspended }
  | .setRoles roles => { membership with roles }
  | .setBusiness business => { membership with identity := ⟨membership.owner, business⟩ }
  | .setParticipants participants => { membership with participants }

end MembershipChange

namespace Coordinator

variable {π : Type} [Platform π]

/-- The initiator and the owner of a membership both sign for its transition. -/
def transitionSigners (coordinator : Coordinator) (owner : Party) : SortedSet PublicKey :=
  .ofList [coordinator.identity.owningKey, owner.owningKey]

/-- The membership that authorizes a change: this party's own, which is a reference unless it is
the one that changes. -/
def authority (coordinator : Coordinator) (networkId : NetworkId) (party : Party) (platform : π) :
    Except NetworkError (List StateAndRef) :=
  if party = coordinator.identity then .ok []
  else do
    let own ← Platform.requireMembership platform networkId coordinator.identity
    .ok [own]

/-- The next version of a membership. Its time of modification never goes back. -/
def evolvedMembership (current : MembershipState) (change : MembershipChange) (now : Timestamp) :
    MembershipState :=
  { change.apply current with modified := .latest now current.modified }

def transitionPlan (coordinator : Coordinator) (input : StateAndRef) (current : MembershipState)
    (party : Party) (change : MembershipChange) (references : List StateAndRef) : Plan where
  claims := []
  draft := fun now =>
    { Transaction.empty with
      inputs := [input]
      outputs := [.ofMembership (evolvedMembership current change now)]
      references := references
      commands := [⟨.membership change.command, coordinator.transitionSigners party⟩] }
  outcome := Plan.recordedMembership

def planTransition (coordinator : Coordinator) (networkId : NetworkId) (party : Party)
    (change : MembershipChange) (platform : π) : Except NetworkError Plan := do
  let input ← Platform.requireMembership platform networkId party
  match input.membership? with
  | none => .error (.notFound (.membershipContents party))
  | some current =>
      let references ← coordinator.authority networkId party platform
      .ok (coordinator.transitionPlan input current party change references)

def revocationPlan (coordinator : Coordinator) (input : StateAndRef) (party : Party)
    (references : List StateAndRef) : Plan where
  claims := []
  draft := fun _ =>
    { Transaction.empty with
      inputs := [input]
      references := references
      commands := [⟨.membership .revoke, coordinator.transitionSigners party⟩] }
  outcome := Plan.consumption

def planRevocation (coordinator : Coordinator) (networkId : NetworkId) (party : Party)
    (platform : π) : Except NetworkError Plan := do
  let input ← Platform.requireMembership platform networkId party
  let references ← coordinator.authority networkId party platform
  .ok (coordinator.revocationPlan input party references)

end Coordinator

end Consortium
