import Consortium.Json.Identity
import Consortium.Ledger.Transaction
import Consortium.Lock.Key

/-!
The JSON form of ledger states, commands, transactions and locks.
-/

namespace Consortium.Json

instance : Codec TxHash := .via TxHash.bytes TxHash.mk

instance : Codec ContractId := .via ContractId.name ContractId.mk

def statusName : MembershipStatus → String
  | .pending => "Pending"
  | .active => "Active"
  | .suspended => "Suspended"

instance : Codec MembershipStatus := .ofNames MembershipStatus.all statusName

instance : Codec GroupState where
  write state :=
    record
      [("network_id", Codec.write state.networkId),
        ("name", Codec.write state.name),
        ("linear_id", Codec.write state.linearId),
        ("issuer", Codec.write state.issuer),
        ("issued", Codec.write state.issued),
        ("modified", Codec.write state.modified),
        ("participants", Codec.write state.participants)]
  read value := do
    let rules : List FieldRule :=
      [.required "network_id", .defaulted "name", .required "linear_id", .required "issuer",
        .required "issued", .required "modified", .required "participants"]
    match ← readRecord rules value with
    | [networkId, name, linearId, issuer, issued, modified, participants] =>
        some {
          networkId := ← readField networkId
          name := ← readFieldOr none name
          linearId := ← readField linearId
          issuer := ← readField issuer
          issued := ← readField issued
          modified := ← readField modified
          participants := ← readField participants }
    | _ => none

instance : Codec MembershipState where
  write state :=
    record
      [("identity", Codec.write state.identity),
        ("network_id", Codec.write state.networkId),
        ("status", Codec.write state.status),
        ("roles", Codec.write state.roles),
        ("linear_id", Codec.write state.linearId),
        ("issuer", Codec.write state.issuer),
        ("issued", Codec.write state.issued),
        ("modified", Codec.write state.modified),
        ("participants", Codec.write state.participants)]
  read value := do
    let rules : List FieldRule :=
      [.required "identity", .required "network_id", .required "status", .required "roles",
        .required "linear_id", .required "issuer", .required "issued", .required "modified",
        .required "participants"]
    match ← readRecord rules value with
    | [identity, networkId, status, roles, linearId, issuer, issued, modified, participants] =>
        some {
          identity := ← readField identity
          networkId := ← readField networkId
          status := ← readField status
          roles := ← readField roles
          linearId := ← readField linearId
          issuer := ← readField issuer
          issued := ← readField issued
          modified := ← readField modified
          participants := ← readField participants }
    | _ => none

instance : Codec ContractState :=
  @Codec.via _ _ (.ofCases "Group" "Membership")
    (fun
      | .group state => Sum.inl state
      | .membership state => Sum.inr state)
    fun
      | .inl state => .group state
      | .inr state => .membership state

instance : Codec TransactionState where
  write state :=
    record [("data", Codec.write state.data), ("contract", Codec.write state.contract)]
  read value := do
    match ← readRecord [.required "data", .required "contract"] value with
    | [data, contract] => some ⟨← readField data, ← readField contract⟩
    | _ => none

instance : Codec StateRef where
  write reference :=
    record [("tx_id", Codec.write reference.txId), ("index", Codec.write reference.index)]
  read value := do
    match ← readRecord [.required "tx_id", .required "index"] value with
    | [txId, index] => some ⟨← readField txId, ← readField index⟩
    | _ => none

instance : Codec StateAndRef where
  write recorded :=
    record
      [("state", Codec.write recorded.state), ("reference", Codec.write recorded.reference)]
  read value := do
    match ← readRecord [.required "state", .required "reference"] value with
    | [state, reference] => some ⟨← readField state, ← readField reference⟩
    | _ => none

instance : Codec GroupCommand := .ofNames GroupCommand.all GroupCommand.name

instance : Codec MembershipCommand := .ofNames MembershipCommand.all MembershipCommand.name

instance : Codec CommandValue :=
  @Codec.via _ _ (.ofCases "Group" "Membership")
    (fun
      | .group command => Sum.inl command
      | .membership command => Sum.inr command)
    fun
      | .inl command => .group command
      | .inr command => .membership command

instance : Codec Command where
  write command :=
    record [("value", Codec.write command.value), ("signers", Codec.write command.signers)]
  read value := do
    match ← readRecord [.required "value", .required "signers"] value with
    | [command, signers] => some ⟨← readField command, ← readField signers⟩
    | _ => none

instance : Codec TransactionSignature where
  write signature :=
    record
      [("by", Codec.write signature.signer), ("signature", Codec.write signature.signature)]
  read value := do
    match ← readRecord [.required "by", .required "signature"] value with
    | [signer, signature] => some ⟨← readField signer, ← readField signature⟩
    | _ => none

instance : Codec Transaction where
  write tx :=
    record
      [("inputs", Codec.write tx.inputs),
        ("outputs", Codec.write tx.outputs),
        ("references", Codec.write tx.references),
        ("commands", Codec.write tx.commands),
        ("signatures", Codec.write tx.signatures)]
  read value := do
    let rules : List FieldRule :=
      [.required "inputs", .required "outputs", .required "references", .required "commands",
        .defaulted "signatures"]
    match ← readRecord rules value with
    | [inputs, outputs, references, commands, signatures] =>
        some {
          inputs := ← readField inputs
          outputs := ← readField outputs
          references := ← readField references
          commands := ← readField commands
          signatures := ← readFieldOr [] signatures }
    | _ => none

def lockKindName : LockKind → String
  | .networkId => "NetworkId"
  | .groupId => "GroupId"
  | .groupName => "GroupName"
  | .pendingMembership => "PendingMembership"

instance : Codec LockKind := .ofNames LockKind.all lockKindName

instance : Codec RequestLock where
  write lock :=
    record
      [("id", Codec.write lock.id),
        ("kind", Codec.write lock.key.kind),
        ("payload", Codec.write lock.key.payload),
        ("created_at", Codec.write lock.createdAt)]
  read value := do
    let rules : List FieldRule :=
      [.required "id", .required "kind", .required "payload", .required "created_at"]
    match ← readRecord rules value with
    | [id, kind, payload, createdAt] =>
        some ⟨← readField id, ⟨← readField kind, ← readField payload⟩, ← readField createdAt⟩
    | _ => none

end Consortium.Json
