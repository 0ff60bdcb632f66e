import Consortium.Proofs.Contract.Authority
import Consortium.Proofs.Network.History

/-!
Authority is current when it is used. A change that has to be authorized is recorded only while the
membership that authorizes it is on the ledger, whatever happened since the change was drafted.
-/

namespace Consortium

section Signing

variable [Suite] {tx : Transaction} {command : Command}

namespace Ledger

/-- A membership on the ledger authorizes the change, and its owner has signed the transaction. -/
def HasAuthority (ledger : Ledger) (tx : Transaction) (evolved : EntityHeader)
    (permission : Option Permission) : Prop :=
  ∃ recorded ∈ ledger.states, ∃ initiator, recorded.membership? = some initiator ∧
    initiator.Authorizes evolved permission ∧
    ∃ signature ∈ tx.signatures, signature.signer = initiator.owner.owningKey ∧
      tx.verifies signature

theorem Accepts.hasAuthority {ledger : Ledger} (accepts : ledger.Accepts tx)
    {evolved : EntityHeader} {permission : Option Permission}
    (authorized : tx.Authorized command evolved permission)
    (signed : tx.signers = command.signers) : ledger.HasAuthority tx evolved permission := by
  obtain ⟨recorded, initiator, source, isMembership, authorizes, signs⟩ := authorized
  rw [← signed] at signs
  exact ⟨recorded, accepts.current recorded source.mem, initiator, isMembership, authorizes,
    Transaction.mem_signers.1 signs⟩

/-- When a change to a group or a membership is recorded, the membership that authorizes it is on
the ledger. -/
theorem authority_is_current (history : List Transaction) {record : FinalizedRecord}
    {after : Ledger}
    (finalized : finalize tx ((empty .standard).finalizeAll history) = (.ok record, after)) :
    (∀ command ∈ tx.commands, ∀ value, command.value = .group value → value ≠ .bootstrap →
      (∃ group, .ofGroup group ∈ tx.touched) →
      ∃ group : GroupState, tx.evolved .group value.removes = [.ofGroup group] ∧
        ((empty .standard).finalizeAll history).HasAuthority tx group.toEntityHeader
          (some .modifyGroups)) ∧
    ∀ command ∈ tx.commands, ∀ value, command.value = .membership value →
      value ≠ .bootstrap → value ≠ .request →
      (∃ membership, .ofMembership membership ∈ tx.touched) →
      ∃ membership : MembershipState,
        tx.evolved .membership value.removes = [.ofMembership membership] ∧
          ((empty .standard).finalizeAll history).HasAuthority tx membership.toEntityHeader
            value.permission := by
  obtain ⟨accepts, _, _⟩ := accepts_of_finalize finalized
  have approved := accepts.approved
  rw [(founded_empty.finalizeAll history).contracts] at approved
  constructor
  · intro command isCommand value named later ⟨group, touched⟩
    obtain ⟨selected, selectedValue, accepted⟩ :=
      Registry.groupAccepted_of_touched approved touched
    have selects := CommandValue.group?_eq_some_iff.2 named
    obtain ⟨rfl, rfl⟩ := Transaction.eq_of_select accepted.single isCommand selects
    obtain ⟨evolved, single, authorized⟩ := accepted.authorized later
    exact ⟨evolved, single, accepts.hasAuthority authorized accepted.sound.signed⟩
  · intro command isCommand value named later reviewed ⟨membership, touched⟩
    obtain ⟨selected, selectedValue, accepted⟩ :=
      Registry.membershipAccepted_of_touched approved touched
    have selects := CommandValue.membership?_eq_some_iff.2 named
    obtain ⟨rfl, rfl⟩ := Transaction.eq_of_select accepted.single isCommand selects
    obtain ⟨evolved, single, authorized⟩ := accepted.authorized later reviewed
    exact ⟨evolved, single, accepts.hasAuthority authorized accepted.sound.signed⟩

end Ledger

end Signing

section Specimen

open Transparent

def expansion : Transaction :=
  @Transaction.sign suite
    { Transaction.empty with
      outputs := [.ofGroup (groupOf founder)]
      references := [foundersRecord]
      commands := [⟨.group .create, .singleton founder.owningKey⟩] } (keys 1)

namespace Ledger

set_option maxRecDepth 10000 in
theorem founded_accepts_expansion : founded.Accepts expansion :=
  ⟨by decide +kernel, by decide +kernel⟩

theorem founder_had_authority :
    (∃ record after, @finalize suite expansion founded = (.ok record, after)) ∧
      @HasAuthority suite founded expansion (groupOf founder).toEntityHeader
        (some .modifyGroups) ∧
      (∃ record after, @finalize suite rebranding founded = (.ok record, after)) ∧
      @HasAuthority suite founded rebranding rebranded.toEntityHeader
        (some .modifyBusinessIdentity) := by
  have reached : founded = @finalizeAll suite [founding] (empty (@Registry.standard suite)) :=
    (finalizeAll_founding []).symm
  have expanded := @finalize_of_accepts suite _ _ founded_accepts_expansion
  have renamed := @finalize_of_accepts suite _ _ founded_accepts_rebranding
  rw [reached] at expanded renamed ⊢
  obtain ⟨_, single, onExpansion⟩ :=
    (@authority_is_current suite _ [founding] _ _ expanded).1 _ (List.mem_singleton_self _)
      .create rfl (by decide) ⟨groupOf founder, List.mem_singleton_self _⟩
  cases single
  obtain ⟨_, single, onRebranding⟩ :=
    (@authority_is_current suite _ [founding] _ _ renamed).2 _ (List.mem_singleton_self _)
      .modifyBusinessIdentity rfl (by decide) (by decide)
      ⟨foundersMembership, List.mem_cons_self⟩
  cases single
  exact ⟨⟨_, _, expanded⟩, onExpansion, ⟨_, _, renamed⟩, onRebranding⟩

end Ledger

end Specimen

end Consortium
