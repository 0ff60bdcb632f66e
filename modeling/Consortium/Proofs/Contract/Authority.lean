import Consortium.Proofs.Contract.Acceptance
import Consortium.Proofs.Contract.FixedRules
import Consortium.Proofs.Contract.Perspective

/-!
The membership that authorizes a change: where an accepted transaction has it, and what the contract
that stands behind it matters. A membership that is consumed stands under the contract of
memberships. Of a membership that is referred to only the contents are looked at.
-/

namespace Consortium

def GroupCommand.removes : GroupCommand → Bool
  | .exit => true
  | .bootstrap | .create | .modify => false

def MembershipCommand.removes : MembershipCommand → Bool
  | .revoke => true
  | .bootstrap | .request | .activate | .suspend | .modifyRoles | .modifyBusinessIdentity
  | .modifyParticipants => false

namespace CommandValue

def needsInitiator : CommandValue → Bool
  | .group .bootstrap | .membership .bootstrap | .membership .request => false
  | .group _ | .membership _ => true

theorem needsInitiator_group_iff {value : GroupCommand} :
    (group value).needsInitiator ↔ value ≠ .bootstrap := by
  cases value <;> decide

theorem needsInitiator_membership_iff {value : MembershipCommand} :
    (membership value).needsInitiator ↔ value ≠ .bootstrap ∧ value ≠ .request := by
  cases value <;> decide

end CommandValue

/-- The states of a kind that a transaction is about: those it leaves, or those it removes. -/
def Transaction.evolved (tx : Transaction) (kind : EntityKind) (removes : Bool) :
    List TransactionState :=
  if removes then (tx.inputsOf kind).map StateAndRef.state else tx.outputsOf kind

section Signing

variable [Suite] {tx : Transaction} {command : Command}

namespace StructurallySound

variable {ε : Type} [LinearEntity ε] {contractId : ContractId} {stateOf : ε → TransactionState}
  (sound : StructurallySound ε tx command contractId false)
  (determined : ∀ {state : TransactionState} {entity : ε},
    LinearEntity.ofState? state.data = some entity → state.contract = contractId →
      state = stateOf entity)

include sound determined

theorem evolved_eq_of_output {entity : ε} (found : (tx.evolution ε).output = some entity) :
    tx.evolved (LinearEntity.kind ε) false = [stateOf entity] := by
  obtain ⟨state, member, ofState⟩ := Transaction.created_of_evolution found
  have few := sound.oneOutput.resolve_left Bool.false_ne_true
  have ⟨isOutput, ofKind⟩ := Transaction.mem_outputsOf.1 member
  have governed := sound.governed state (List.mem_append_right _ member)
  rw [← determined ofState governed]
  exact Transaction.outputsOf_eq_singleton few isOutput ofKind

theorem evolved_eq_of_input {entity : ε} (found : (tx.evolution ε).input = some entity) :
    tx.evolved (LinearEntity.kind ε) true = [stateOf entity] := by
  obtain ⟨recorded, member, ofState⟩ := Transaction.consumed_of_evolution found
  have few := sound.oneInput.resolve_left Bool.false_ne_true
  have governed : recorded.state.contract = contractId := by
    apply sound.governed
    exact List.mem_append_left _ (List.mem_map_of_mem member)
  rw [← determined ofState governed, Transaction.evolved, if_pos rfl,
    eq_singleton_of_mem few member, List.map_singleton]

end StructurallySound

namespace Transaction

theorem GroupAccepted.authorized {value : GroupCommand} (accepted : tx.GroupAccepted command value)
    (later : value ≠ .bootstrap) :
    ∃ group : GroupState, tx.evolved .group value.removes = [.ofGroup group] ∧
      tx.Authorized command group.toEntityHeader (some .modifyGroups) := by
  have sound := accepted.sound
  rw [decide_eq_false later] at sound
  cases value with
  | bootstrap => exact absurd rfl later
  | create =>
      obtain ⟨output, created, _, authorized⟩ := accepted.permitted
      exact ⟨output, sound.evolved_eq_of_output TransactionState.eq_ofGroup created, authorized⟩
  | modify =>
      obtain ⟨_, output, _, created, _, authorized⟩ := accepted.permitted
      exact ⟨output, sound.evolved_eq_of_output TransactionState.eq_ofGroup created, authorized⟩
  | exit =>
      obtain ⟨input, consumed, _, authorized⟩ := accepted.permitted
      exact ⟨input, sound.evolved_eq_of_input TransactionState.eq_ofGroup consumed, authorized⟩

theorem MembershipAccepted.authorized {value : MembershipCommand}
    (accepted : tx.MembershipAccepted command value) (later : value ≠ .bootstrap)
    (reviewed : value ≠ .request) :
    ∃ membership : MembershipState,
      tx.evolved .membership value.removes = [.ofMembership membership] ∧
        tx.Authorized command membership.toEntityHeader value.permission := by
  have sound := accepted.sound
  rw [decide_eq_false later] at sound
  have continued (permitted : tx.PermitsTransition command value) :
      ∃ membership : MembershipState,
        tx.evolved .membership false = [.ofMembership membership] ∧
          tx.Authorized command membership.toEntityHeader value.permission := by
    obtain ⟨_, output, _, created, _, authorized⟩ := permitted
    have single := sound.evolved_eq_of_output TransactionState.eq_ofMembership created
    exact ⟨output, single, authorized⟩
  cases value with
  | bootstrap => exact absurd rfl later
  | request => exact absurd rfl reviewed
  | activate => exact continued accepted.permitted
  | suspend => exact continued accepted.permitted
  | modifyRoles => exact continued accepted.permitted
  | modifyBusinessIdentity => exact continued accepted.permitted
  | modifyParticipants => exact continued accepted.permitted
  | revoke =>
      obtain ⟨input, consumed, _, authorized⟩ := accepted.permitted
      have single := sound.evolved_eq_of_input TransactionState.eq_ofMembership consumed
      exact ⟨input, single, authorized⟩

theorem GroupAccepted.authorizedByReference {value : GroupCommand}
    (accepted : tx.GroupAccepted command value) (later : value ≠ .bootstrap) :
    ∃ evolved, tx.AuthorizedByReference command evolved (some .modifyGroups) := by
  obtain ⟨_, lifecycle⟩ := sound_and_permitsGroup_iff.1 ⟨accepted.sound, accepted.permitted⟩
  cases value with
  | bootstrap => exact absurd rfl later
  | create =>
      obtain ⟨_, _, _, authorized⟩ := lifecycle
      exact ⟨_, authorized⟩
  | modify =>
      obtain ⟨_, _, _, _, _, _, authorized⟩ := lifecycle
      exact ⟨_, authorized⟩
  | exit =>
      obtain ⟨_, _, _, authorized⟩ := lifecycle
      exact ⟨_, authorized⟩

/-- In a change of a membership that one may also speak for the initiator: it is consumed, and the
contract has looked at it. -/
theorem MembershipAccepted.initiator {value : MembershipCommand}
    (accepted : tx.MembershipAccepted command value) (later : value ≠ .bootstrap)
    (reviewed : value ≠ .request) :
    ∃ recorded initiator, recorded.membership? = some initiator ∧
      (tx.references = [recorded] ∨
        tx.references = [] ∧ tx.inputs = [recorded] ∧ recorded.state.contract = .membership) := by
  obtain ⟨_, _, recorded, initiator, source, found, _⟩ := accepted.authorized later reviewed
  refine ⟨recorded, initiator, found, source.imp_right fun ⟨noReference, single⟩ => ?_⟩
  have consumed : recorded.state ∈ tx.touched := by
    rw [touched, single]
    exact List.mem_cons_self
  have ofKind : recorded.state.data.kind = .membership :=
    LawfulEntity.kind_of_some recorded.state.data initiator found
  exact ⟨noReference, single, accepted.sound.governed _ (mem_touchedOf.2 ⟨consumed, ofKind⟩)⟩

/-! ### The contract behind the initiator -/

/-- The same proposal, signed anew, with all references under one contract. -/
def refiled (tx : Transaction) (contract : ContractId) (signatures : List TransactionSignature) :
    Transaction :=
  { tx with
    references := tx.references.map fun recorded =>
      { recorded with state := { recorded.state with contract := contract } }
    signatures := signatures }

omit [Suite] in
theorem referredMemberships_refiled (contract : ContractId)
    (signatures : List TransactionSignature) :
    (tx.refiled contract signatures).referredMemberships = tx.referredMemberships := by
  rw [referredMemberships, refiled, List.map_map]
  rfl

theorem looksAlike_refiled {contract : ContractId} {signatures : List TransactionSignature}
    (signed : (tx.refiled contract signatures).signers = tx.signers) (kind : EntityKind) :
    tx.LooksAlike kind (tx.refiled contract signatures) where
  inputs := rfl
  outputs := rfl
  references := referredMemberships_refiled contract signatures
  commands := rfl
  signers := signed

end Transaction

namespace Registry

theorem verify_refiled (accepted : standard.verify tx = .ok ()) {contract : ContractId}
    {signatures : List TransactionSignature}
    (signed : (tx.refiled contract signatures).signers = tx.signers) :
    standard.verify (tx.refiled contract signatures) = .ok () := by
  rw [← accepted]
  exact standard_verify_eq rfl rfl fun kind _ => Transaction.looksAlike_refiled signed kind

/-- The initiator of an accepted change is the membership that the transaction refers to, or else
the membership that it consumes, which then stands under the contract of memberships. Under which
contract a membership stands that is referred to makes no difference. -/
theorem initiator_of_carried_command (accepted : standard.verify tx = .ok ())
    (carried : command ∈ tx.commands) (needs : command.value.needsInitiator)
    {state : TransactionState} (touched : state ∈ tx.touched)
    (named : state.contract = command.value.family.contractId) :
    ∃ recorded initiator, tx.resolveInitiator = .ok initiator ∧
      recorded.membership? = some initiator ∧
      (tx.references = [recorded] ∧
          (∀ contract signatures, (tx.refiled contract signatures).signers = tx.signers →
            standard.verify (tx.refiled contract signatures) = .ok ()) ∨
        command.value.family = .membership ∧ tx.references = [] ∧ tx.inputs = [recorded] ∧
          recorded.state.contract = .membership) := by
  have anyContract := fun contract signatures => @verify_refiled _ _ accepted contract signatures
  have approved := standardVerify_of_named accepted touched named
  cases isValue : command.value with
  | group value =>
      rw [isValue] at approved needs
      have ofGroup := GroupRules.accepted_of_carried carried isValue approved
      have later := CommandValue.needsInitiator_group_iff.1 needs
      obtain ⟨_, recorded, initiator, single, found, _⟩ := ofGroup.authorizedByReference later
      have resolved := Transaction.resolveInitiator_eq_ok_iff.2 ⟨recorded, .inl single, found⟩
      exact ⟨recorded, initiator, resolved, found, .inl ⟨single, anyContract⟩⟩
  | membership value =>
      rw [isValue] at approved needs
      have ofMembership := MembershipRules.accepted_of_carried carried isValue approved
      have ⟨later, reviewed⟩ := CommandValue.needsInitiator_membership_iff.1 needs
      obtain ⟨recorded, initiator, found, single | ⟨noReference, single, governed⟩⟩ :=
        ofMembership.initiator later reviewed
      · have resolved := Transaction.resolveInitiator_eq_ok_iff.2 ⟨recorded, .inl single, found⟩
        exact ⟨recorded, initiator, resolved, found, .inl ⟨single, anyContract⟩⟩
      · have resolved := Transaction.resolveInitiator_eq_ok_iff.2
          ⟨recorded, .inr ⟨noReference, single⟩, found⟩
        exact ⟨recorded, initiator, resolved, found, .inr ⟨rfl, noReference, single, governed⟩⟩

end Registry

end Signing

section Specimen

open Transparent

def clubRecord : StateAndRef := ⟨⟨.membership foundersMembership, club⟩, ⟨.zero, 0⟩⟩

def clubExpansion : Transaction :=
  @Transaction.sign suite
    { Transaction.empty with
      outputs := [.ofGroup (groupOf founder)]
      references := [clubRecord]
      commands := [⟨.group .create, .singleton founder.owningKey⟩] } (keys 1)

def clubAdmission : Transaction :=
  @Transaction.sign suite
    { Transaction.empty with
      inputs := [⟨.ofMembership joinersMembership, ⟨.zero, 1⟩⟩]
      outputs :=
        [.ofMembership
          { joinersMembership with
            status := .active
            participants := .ofList [founder, joiner] }]
      references := [clubRecord]
      commands := [⟨.membership .activate, .singleton founder.owningKey⟩] } (keys 1)

def selfSuspension : Transaction :=
  @Transaction.sign suite
    { Transaction.empty with
      inputs := [foundersRecord]
      outputs := [.ofMembership { foundersMembership with status := .suspended }]
      commands := [⟨.membership .suspend, .singleton founder.owningKey⟩] } (keys 1)

namespace Registry

set_option maxRecDepth 10000 in
/-- An admission may come with a reference under any contract. The founder who suspends himself
speaks for himself by a membership under the contract of memberships. -/
theorem initiators_of_admission_and_suspension :
    letI := suite
    (∀ contract signatures,
      (clubAdmission.refiled contract signatures).signers = clubAdmission.signers →
        standard.verify (clubAdmission.refiled contract signatures) = .ok ()) ∧
      ∃ recorded, selfSuspension.inputs = [recorded] ∧
        recorded.state.contract = .membership := by
  have admitted : (@standard suite).verify clubAdmission = .ok () := by decide +kernel
  have suspended : (@standard suite).verify selfSuspension = .ok () := by decide +kernel
  constructor
  · obtain ⟨_, _, _, _, ⟨_, anyContract⟩ | ⟨_, noReference, _⟩⟩ :=
      @initiator_of_carried_command suite _ _ admitted (List.mem_singleton_self _) rfl
        _ List.mem_cons_self rfl
    · exact anyContract
    · cases noReference
  · obtain ⟨recorded, _, _, _, ⟨reference, _⟩ | ⟨_, _, single, governed⟩⟩ :=
      @initiator_of_carried_command suite _ _ suspended (List.mem_singleton_self _) rfl
        _ List.mem_cons_self rfl
    · cases reference
    · exact ⟨recorded, single, governed⟩

set_option maxRecDepth 10000 in
/-- A membership of the club has authority over groups and over memberships of the network. -/
theorem initiator_under_other_contract :
    clubRecord.state.contract ≠ .membership ∧
      ∀ tx ∈ [clubExpansion, clubAdmission],
        (@standard suite).verify tx = .ok () ∧
          (∃ command ∈ tx.commands, command.value.needsInitiator) ∧
          tx.references = [clubRecord] ∧ tx.resolveInitiator = .ok foundersMembership := by
  refine ⟨by decide, List.forall_mem_cons.2 ⟨?_, List.forall_mem_singleton.2 ?_⟩⟩
  · refine ⟨?_, ?_, ?_, ?_⟩ <;> decide +kernel
  · refine ⟨?_, ?_, ?_, ?_⟩ <;> decide +kernel

end Registry

end Specimen

end Consortium
