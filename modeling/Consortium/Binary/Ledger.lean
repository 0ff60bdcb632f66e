import Consortium.Binary.Identity
import Consortium.Ledger.Command
import Consortium.Ledger.State

/-!
The binary form of ledger states and commands: fields in the order given here.
-/

namespace Consortium.Binary

instance : Codec TxHash := .via TxHash.bytes TxHash.mk

instance : Codec ContractId := .via ContractId.name ContractId.mk

instance : Codec MembershipStatus := .ofAlternatives MembershipStatus.all

instance : Codec GroupState :=
  .via
    (fun state => (state.networkId, state.name, state.linearId, state.issuer, state.issued,
      state.modified, state.participants))
    fun (networkId, name, linearId, issuer, issued, modified, participants) =>
      { networkId, name, linearId, issuer, issued, modified, participants }

instance : Codec MembershipState :=
  .via
    (fun state => (state.identity, state.networkId, state.status, state.roles, state.linearId,
      state.issuer, state.issued, state.modified, state.participants))
    fun (identity, networkId, status, roles, linearId, issuer, issued, modified, participants) =>
      { identity, networkId, status, roles, linearId, issuer, issued, modified, participants }

instance : Codec ContractState :=
  .via
    (fun
      | .group state => Sum.inl state
      | .membership state => Sum.inr state)
    fun
      | .inl state => .group state
      | .inr state => .membership state

instance : Codec TransactionState :=
  .via (fun state => (state.data, state.contract)) fun (data, contract) => ⟨data, contract⟩

instance : Codec StateRef :=
  .via (fun reference => (reference.txId, reference.index)) fun (txId, index) => ⟨txId, index⟩

instance : Codec StateAndRef :=
  .via (fun recorded => (recorded.state, recorded.reference))
    fun (state, reference) => ⟨state, reference⟩

instance : Codec GroupCommand := .ofAlternatives GroupCommand.all

instance : Codec MembershipCommand := .ofAlternatives MembershipCommand.all

instance : Codec CommandValue :=
  .via
    (fun
      | .group command => Sum.inl command
      | .membership command => Sum.inr command)
    fun
      | .inl command => .group command
      | .inr command => .membership command

instance : Codec Command :=
  .via (fun command => (command.value, command.signers)) fun (value, signers) => ⟨value, signers⟩

end Consortium.Binary
