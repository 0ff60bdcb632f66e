import Consortium.Contract.Registry
import Consortium.Network.Platform

/-!
Plans: what a coordinator is going to do about a request whose checks have passed. The checks only
query the platform; a plan then names the keys to claim, the transaction to propose and what to
answer once it is recorded.
-/

namespace Consortium

structure FreshIds where
  network : Uuid
  membership : Uuid
  group : Uuid
  /-- One for each lock, in the order in which locks are taken. -/
  lock : Nat → Uuid

inductive Outcome where
  | bootstrapped (txId : TxHash) (networkId : NetworkId) (membership group : StateAndRef)
  | recorded (state : StateAndRef)
  | consumed (txId : TxHash)
deriving DecidableEq

/-- The state that a request has put on the ledger; of a new network, its group. -/
def Outcome.state? : Outcome → Option StateAndRef
  | .bootstrapped _ _ _ group => some group
  | .recorded state => some state
  | .consumed _ => none

structure Plan where
  /-- The keys to lock, in this order. -/
  claims : List LockKey
  /-- The unsigned proposal at the time when all locks are taken. -/
  draft : Timestamp → Transaction
  outcome : FinalizedRecord → Except NetworkError Outcome

namespace Plan

def groupOf (record : FinalizedRecord) : Except NetworkError StateAndRef :=
  match record.group? with
  | some state => .ok state
  | none => .error (.submission (.missingOutput .group))

def membershipOf (record : FinalizedRecord) : Except NetworkError StateAndRef :=
  match record.membership? with
  | some state => .ok state
  | none => .error (.submission (.missingOutput .membership))

/-! The three answers that plans give for what was recorded. -/

def recordedGroup (record : FinalizedRecord) : Except NetworkError Outcome :=
  (groupOf record).map .recorded

def recordedMembership (record : FinalizedRecord) : Except NetworkError Outcome :=
  (membershipOf record).map .recorded

def consumption (record : FinalizedRecord) : Except NetworkError Outcome :=
  .ok (.consumed record.txId)

end Plan

structure Coordinator where
  identity : Party
  keys : KeyPair
  /-- What a proposal is verified with before it is finalized. -/
  contracts : Registry

namespace Coordinator

def create (name : String) (keys : KeyPair) (contracts : Registry) :
    Except NetworkError Coordinator :=
  match Party.create name keys.publicKey with
  | .ok identity => .ok ⟨identity, keys, contracts⟩
  | .error failure => .error (.identity failure)

end Coordinator

/-! ### Claims -/

namespace LockKey

def ofNetwork (networkId : NetworkId) : LockKey := ⟨.networkId, networkId.text⟩

/-- Groups are told apart by their uuids alone. -/
def ofGroup (id : LinearId) : LockKey := ⟨.groupId, id.uuid.toText⟩

def ofGroupName (networkId : NetworkId) (name : String) : LockKey :=
  ⟨.groupName, networkId.text ++ "/" ++ name⟩

def ofPendingMembership (networkId : NetworkId) (party : Party) : LockKey :=
  ⟨.pendingMembership, networkId.text ++ "/" ++ party.name⟩

end LockKey

/-! ### Checks -/

namespace Platform

variable {π : Type} [Platform π]

def ask {α : Type} (answer : Except StoreError α) : Except NetworkError α :=
  answer.mapError .store

def requireMembership (platform : π) (networkId : NetworkId) (party : Party) :
    Except NetworkError StateAndRef := do
  match ← ask (membership networkId party platform) with
  | some recorded => .ok recorded
  | none => .error (.notFound (.membership party networkId))

def requireGroup (platform : π) (id : LinearId) : Except NetworkError StateAndRef := do
  match ← ask (groupById id platform) with
  | some recorded => .ok recorded
  | none => .error (.notFound (.group id))

def requireFreeGroup (platform : π) : Option LinearId → Except NetworkError Unit
  | none => .ok ()
  | some id => do
      let found ← ask (groupById id platform)
      if found.isSome then .error (.alreadyExists (.group id)) else .ok ()

def requireFreeName (platform : π) (networkId : NetworkId) :
    Option String → Except NetworkError Unit
  | none => .ok ()
  | some name => do
      let found ← ask (groupsByName networkId name platform)
      if found.isEmpty then .ok () else .error (.alreadyExists (.groupNamed name networkId))

end Platform

end Consortium
