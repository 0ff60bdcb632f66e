import Consortium.Identity.Business
import Consortium.Identity.LinearId
import Consortium.Identity.NetworkId
import Consortium.Identity.Role
import Consortium.Ledger.Hash
import Consortium.Ordered.Set
import Consortium.Time.Timestamp

/-!
Ledger states: groups and memberships, each a version of an entity that keeps its linear id.
-/

namespace Consortium

open Std

inductive EntityKind where
  | group
  | membership
deriving DecidableEq

def EntityKind.name : EntityKind → String
  | .group => "group"
  | .membership => "membership"

structure ContractId where
  name : String
deriving DecidableEq

namespace ContractId

instance : Ord ContractId := ⟨compareOn name⟩

instance : TransOrd ContractId := inferInstanceAs (TransCmp (compareOn name))

instance : LawfulEqOrd ContractId :=
  lawfulEqCmp_compareOn fun equal => by
    rename_i left right
    cases left
    cases right
    cases equal
    rfl

def group : ContractId := ⟨"bnms.contracts.GroupContract"⟩

def membership : ContractId := ⟨"bnms.contracts.MembershipContract"⟩

end ContractId

inductive MembershipStatus where
  /-- Requested by the member and not yet activated. -/
  | pending
  | active
  /-- Barred from acting in the network for now. -/
  | suspended
deriving DecidableEq

namespace MembershipStatus

def all : List MembershipStatus := [.pending, .active, .suspended]

def name : MembershipStatus → String
  | .pending => "PENDING"
  | .active => "ACTIVE"
  | .suspended => "SUSPENDED"

end MembershipStatus

/-- What every version of a group or a membership carries. -/
structure EntityHeader where
  networkId : NetworkId
  linearId : LinearId
  issuer : Party
  issued : Timestamp
  modified : Timestamp
  participants : SortedSet Party
deriving DecidableEq

structure GroupState extends EntityHeader where
  name : Option String
deriving DecidableEq

structure MembershipState extends EntityHeader where
  identity : MemberIdentity
  status : MembershipStatus
  roles : SortedSet Role
deriving DecidableEq

namespace MembershipState

def owner (membership : MembershipState) : Party := membership.identity.party

def business (membership : MembershipState) : Option BusinessIdentity :=
  membership.identity.business

def isActive (membership : MembershipState) : Bool := decide (membership.status = .active)

def isPending (membership : MembershipState) : Bool := decide (membership.status = .pending)

def isSuspended (membership : MembershipState) : Bool := decide (membership.status = .suspended)

def holds (membership : MembershipState) (permission : Permission) : Bool :=
  membership.roles.toList.any fun role => role.grants permission

/-- An operator holds a role of the operator's name, whatever that role grants. -/
def isOperator (membership : MembershipState) : Bool :=
  membership.roles.toList.any fun role => decide (role.name = Role.operatorName)

end MembershipState

inductive ContractState where
  | group (state : GroupState)
  | membership (state : MembershipState)
deriving DecidableEq

namespace ContractState

def kind : ContractState → EntityKind
  | .group _ => .group
  | .membership _ => .membership

def group? : ContractState → Option GroupState
  | .group state => some state
  | .membership _ => none

def membership? : ContractState → Option MembershipState
  | .group _ => none
  | .membership state => some state

def header : ContractState → EntityHeader
  | .group state => state.toEntityHeader
  | .membership state => state.toEntityHeader

def participants (state : ContractState) : SortedSet Party := state.header.participants

end ContractState

/-- A state and the contract that has to approve its creation and its consumption. -/
structure TransactionState where
  data : ContractState
  contract : ContractId
deriving DecidableEq

namespace TransactionState

def ofGroup (group : GroupState) : TransactionState := ⟨.group group, .group⟩

def ofMembership (membership : MembershipState) : TransactionState :=
  ⟨.membership membership, .membership⟩

def group? (state : TransactionState) : Option GroupState := state.data.group?

def membership? (state : TransactionState) : Option MembershipState := state.data.membership?

end TransactionState

structure StateRef where
  txId : TxHash
  index : UInt32
deriving DecidableEq

namespace StateRef

instance : Ord StateRef := ⟨compareLex (compareOn txId) (compareOn index)⟩

instance : TransOrd StateRef :=
  inferInstanceAs (TransCmp (compareLex (compareOn txId) (compareOn index)))

instance : LawfulEqOrd StateRef :=
  lawfulEqCmp_compareLex fun txEqual indexEqual => by
    rename_i left right
    cases left
    cases right
    cases txEqual
    cases indexEqual
    rfl

def toText (reference : StateRef) : String :=
  reference.txId.toHex ++ "(" ++ toString reference.index.toNat ++ ")"

end StateRef

/-- A recorded state and where it was recorded. -/
structure StateAndRef where
  state : TransactionState
  reference : StateRef
deriving DecidableEq

namespace StateAndRef

def group? (recorded : StateAndRef) : Option GroupState := recorded.state.group?

def membership? (recorded : StateAndRef) : Option MembershipState := recorded.state.membership?

end StateAndRef

end Consortium
