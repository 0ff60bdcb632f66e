import Consortium.Contract.Registry
import Consortium.Network.Platform

/-!
A ledger in memory. It records a transaction if every contract accepts it and every state that it
consumes or refers to is current, and it signs for the parties whose keys it was given.
-/

namespace Consortium

structure Ledger where
  unconsumed : SortedMap StateRef TransactionState
  /-- What has been recorded, oldest first. -/
  transactions : List Transaction
  /-- How many states were put on the ledger without a transaction. -/
  seeded : UInt32
  keyring : SortedMap PublicKey KeyPair
  /-- How many transactions have come in for signatures. -/
  proposals : Nat
  contracts : Registry

namespace Ledger

def empty (contracts : Registry) : Ledger := ⟨.empty, [], 0, .empty, 0, contracts⟩

def register (ledger : Ledger) (keys : KeyPair) : Ledger :=
  { ledger with keyring := ledger.keyring.insert keys.publicKey keys }

/-- Puts a state on the ledger as the next output of an earlier transaction with id zero. -/
def seed (ledger : Ledger) (state : TransactionState) : StateAndRef × Ledger :=
  let count := ledger.seeded + 1
  let reference : StateRef := ⟨.zero, count⟩
  (⟨state, reference⟩,
    { ledger with seeded := count, unconsumed := ledger.unconsumed.insert reference state })

def states (ledger : Ledger) : List StateAndRef :=
  ledger.unconsumed.entries.map fun (reference, state) => ⟨state, reference⟩

/-! ### Queries -/

def groupById (ledger : Ledger) (id : LinearId) : Option StateAndRef :=
  ledger.states.find? fun recorded =>
    recorded.group?.any fun group => decide (group.linearId.uuid = id.uuid)

def groupsByName (ledger : Ledger) (networkId : NetworkId) (name : String) : List StateAndRef :=
  ledger.states.filter fun recorded =>
    recorded.group?.any fun group =>
      decide (group.networkId = networkId ∧ group.name = some name)

def membership (ledger : Ledger) (networkId : NetworkId) (party : Party) : Option StateAndRef :=
  ledger.states.find? fun recorded =>
    recorded.membership?.any fun membership =>
      decide (membership.networkId = networkId ∧ membership.owner = party)

def memberships (ledger : Ledger) (networkId : NetworkId) : List StateAndRef :=
  ledger.states.filter fun recorded =>
    recorded.membership?.any fun membership => decide (membership.networkId = networkId)

/-- A network exists as long as it has a member. -/
def networkExists (ledger : Ledger) (networkId : NetworkId) : Bool :=
  !(ledger.memberships networkId).isEmpty

/-! ### Submission -/

def requiredSigners (tx : Transaction) : SortedSet PublicKey :=
  .ofList (tx.commands.flatMap fun command => command.signers.toList)

section Signing

variable [Suite]

def signAll (ledger : Ledger) (tx : Transaction) : List PublicKey → Except NetworkError Transaction
  | [] => .ok tx
  | key :: rest =>
      match ledger.keyring.find? key with
      | some keys => ledger.signAll (tx.sign keys) rest
      | none => .error (.submission (.noCounterparty key))

/-- Adds the signatures that are required and not yet there. -/
def collectSignatures (tx : Transaction) (ledger : Ledger) :
    Except NetworkError Transaction × Ledger :=
  (ledger.signAll tx ((requiredSigners tx).difference tx.signers).toList,
    { ledger with proposals := ledger.proposals + 1 })

def isCurrent (ledger : Ledger) (recorded : StateAndRef) : Bool :=
  decide (ledger.unconsumed.find? recorded.reference = some recorded.state)

def recordedOutputs (tx : Transaction) : List StateAndRef :=
  tx.outputs.zipIdx.map fun (state, index) => ⟨state, ⟨tx.id, UInt32.ofNat index⟩⟩

def record (ledger : Ledger) (tx : Transaction) : Ledger :=
  let consumed := tx.inputs.foldl (fun map input => map.erase input.reference) ledger.unconsumed
  let created := (recordedOutputs tx).foldl
    (fun map output => map.insert output.reference output.state) consumed
  { ledger with unconsumed := created, transactions := ledger.transactions ++ [tx] }

def finalize (tx : Transaction) (ledger : Ledger) :
    Except NetworkError FinalizedRecord × Ledger :=
  match ledger.contracts.verify tx with
  | .error failure => (.error (.rejected failure), ledger)
  | .ok () =>
      match (tx.inputs ++ tx.references).find? fun recorded => !ledger.isCurrent recorded with
      | some stale => (.error (.submission (.notCurrent stale.reference)), ledger)
      | none => (.ok ⟨tx.id, recordedOutputs tx⟩, ledger.record tx)

/-- Sorts states by the transactions that made them, the oldest first, and by their index there.
States that were put on the ledger without a transaction come before all others. -/
def oldestFirst (ledger : Ledger) (states : List StateAndRef) : List StateAndRef :=
  let ids := TxHash.zero :: ledger.transactions.map Transaction.id
  let age (recorded : StateAndRef) : Nat := ids.idxOf recorded.reference.txId
  states.mergeSort fun a b =>
    decide (age a < age b ∨ age a = age b ∧ a.reference.index ≤ b.reference.index)

instance : Platform Ledger where
  groupById id ledger := .ok (ledger.groupById id)
  groupsByName networkId name ledger := .ok (ledger.groupsByName networkId name)
  membership networkId party ledger := .ok (ledger.membership networkId party)
  memberships networkId ledger := .ok (ledger.memberships networkId)
  networkExists networkId ledger := .ok (ledger.networkExists networkId)
  collectSignatures := collectSignatures
  finalize := finalize

end Signing

end Ledger

end Consortium
