import Consortium.Proofs.Contract.Refusal
import Consortium.Proofs.Contract.Acceptance

/-!
What a well-formed proposal is approved for. Those who have signed it have to be those who are
required, and the rules of its command have to permit what it does. For each change of a membership
or a group that needs an initiator the rules are spelled out on the states that the proposal names.
-/

namespace Consortium

namespace Transaction

/-- The rules of the command permit what the transaction does, whoever has signed it. -/
def Permitted (tx : Transaction) (command : Command) : Prop :=
  match command.value with
  | .group value => tx.PermitsGroup command value
  | .membership value =>
      (∀ output, (tx.evolution MembershipState).output = some output →
        output.owner ∈ output.participants) ∧ tx.PermitsMembership command value

namespace WellFormed

variable [Suite] {tx : Transaction} {kind : EntityKind} {command : Command}
  (wellFormed : tx.WellFormed kind command)

include wellFormed

theorem structurallySound_iff {ε : Type} [LinearEntity ε] [LawfulEntity ε]
    (isKind : LinearEntity.kind ε = kind) (multipleAllowed : Bool) :
    StructurallySound ε tx command kind.contractId multipleAllowed ↔
      tx.signers = command.signers := by
  have checks := wellFormed.verifyStructure_bind isKind multipleAllowed fun _ => .ok ()
  constructor
  · exact StructurallySound.signed
  · intro signed
    rw [verifySigners_eq_ok_iff.2 signed] at checks
    obtain ⟨_, structural, _⟩ := bind_eq_ok_iff.1 checks
    exact (verifyStructure_eq_ok_iff.1 structural).1

theorem groupAccepted_iff {value : GroupCommand} (isValue : command.value = .group value)
    (isGroup : kind = .group) :
    (∃ required asked, tx.GroupAccepted required asked) ↔
      tx.signers = command.signers ∧ tx.PermitsGroup command value := by
  subst isGroup
  have single : tx.selectCommands CommandValue.group? = [(command, value)] :=
    (selectCommands_eq_iff_commandsOf fun _ => CommandValue.group?_isSome_iff).2
      ⟨wellFormed.commandsOf_eq, CommandValue.group?_eq_some_iff.2 isValue⟩
  constructor
  · intro ⟨required, asked, accepted⟩
    cases accepted.single.symm.trans single
    exact ⟨accepted.sound.signed, accepted.permitted⟩
  · intro ⟨signed, permits⟩
    exact ⟨command, value, single, (wellFormed.structurallySound_iff rfl _).2 signed, permits⟩

theorem membershipAccepted_iff {value : MembershipCommand}
    (isValue : command.value = .membership value) (isMembership : kind = .membership) :
    (∃ required asked, tx.MembershipAccepted required asked) ↔
      tx.signers = command.signers ∧
        (∀ output, (tx.evolution MembershipState).output = some output →
          output.owner ∈ output.participants) ∧ tx.PermitsMembership command value := by
  subst isMembership
  have single : tx.selectCommands CommandValue.membership? = [(command, value)] :=
    (selectCommands_eq_iff_commandsOf fun _ => CommandValue.membership?_isSome_iff).2
      ⟨wellFormed.commandsOf_eq, CommandValue.membership?_eq_some_iff.2 isValue⟩
  constructor
  · intro ⟨required, asked, accepted⟩
    cases accepted.single.symm.trans single
    exact ⟨accepted.sound.signed, accepted.ownerParticipates, accepted.permitted⟩
  · intro ⟨signed, participates, permits⟩
    have sound : StructurallySound MembershipState tx command .membership
        (decide (value = .bootstrap)) := (wellFormed.structurallySound_iff rfl _).2 signed
    refine ⟨command, value, single, sound, participates, ?_, permits⟩
    intro input output consumed created
    obtain ⟨recorded, isInput, ofInput⟩ := consumed_of_evolution consumed
    obtain ⟨state, isOutput, ofOutput⟩ := created_of_evolution created
    exact wellFormed.ownerKept recorded (mem_inputsOf.1 isInput).1 state
      (mem_outputsOf.1 isOutput).1 input output (ContractState.membership?_eq_some_iff.1 ofInput)
      (ContractState.membership?_eq_some_iff.1 ofOutput)

/-- Of what is put together as it should be, nothing else decides. -/
theorem approved_iff :
    Registry.standard.verify tx = .ok () ↔
      tx.signers = command.signers ∧ tx.Permitted command := by
  rw [wellFormed.standard_verify_eq]
  have family := wellFormed.family
  obtain ⟨value, signers⟩ := command
  cases value with
  | group value =>
      cases family
      exact GroupRules.standard_verify_eq_ok_iff.trans (wellFormed.groupAccepted_iff rfl rfl)
  | membership value =>
      cases family
      exact MembershipRules.standard_verify_eq_ok_iff.trans
        (wellFormed.membershipAccepted_iff rfl rfl)

end WellFormed

/-! ### What the rules permit -/

variable {tx : Transaction} {command : Command}

theorem authorized_iff_of_resolved {initiator : MembershipState}
    (resolved : tx.resolveInitiator = .ok initiator) {evolved : EntityHeader}
    {permission : Option Permission} :
    tx.Authorized command evolved permission ↔
      initiator.Authorizes evolved permission ∧
        initiator.owner.owningKey ∈ command.signers := by
  constructor
  · intro ⟨recorded, other, source, found, authorizes, signs⟩
    have isOther := resolveInitiator_eq_ok_iff.2 ⟨recorded, source, found⟩
    cases resolved.symm.trans isOther
    exact ⟨authorizes, signs⟩
  · intro ⟨authorizes, signs⟩
    obtain ⟨recorded, source, found⟩ := resolveInitiator_eq_ok_iff.1 resolved
    exact ⟨recorded, initiator, source, found, authorizes, signs⟩

section Evolutions

variable {ε : Type} [LinearEntity ε] [LawfulEntity ε] {input : StateAndRef}
  {output : TransactionState} {entity : ε}

theorem evolution_input_of_only (consumes : tx.inputs = [input])
    (contents : LinearEntity.ofState? input.state.data = some entity) :
    (tx.evolution ε).input = some entity := by
  refine evolution_input_of_mem ?_ (by rw [consumes]; exact List.mem_singleton_self _) contents
  rw [inputsOf, consumes]
  exact List.length_filter_le _ [input]

theorem evolution_output_of_only (creates : tx.outputs = [output])
    (contents : LinearEntity.ofState? output.data = some entity) :
    (tx.evolution ε).output = some entity := by
  refine evolution_output_of_mem ?_ (by rw [creates]; exact List.mem_singleton_self _) contents
  rw [outputsOf, creates]
  exact List.length_filter_le _ [output]

end Evolutions

section Memberships

variable {input : StateAndRef} {before after : MembershipState}
  (consumes : tx.inputs = [input]) (contents : input.membership? = some before)

include consumes contents

theorem permitsTransition_iff (creates : tx.outputs = [.ofMembership after])
    {value : MembershipCommand} :
    tx.PermitsTransition command value ↔
      value.Changes before after ∧
        tx.Authorized command after.toEntityHeader value.permission := by
  have consumed := evolution_input_of_only (ε := MembershipState) consumes contents
  have created := evolution_output_of_only (ε := MembershipState) creates rfl
  rw [PermitsTransition, consumed, created]
  simp only [Option.some.injEq, exists_and_left, exists_eq_left']

theorem permitsRevocation_iff (noOutput : tx.outputs = []) :
    tx.PermitsMembership command .revoke ↔
      tx.Authorized command before.toEntityHeader (some .revokeMembership) := by
  have consumed := evolution_input_of_only (ε := MembershipState) consumes contents
  simp only [PermitsMembership, consumed, noOutput, Option.some.injEq, exists_eq_left',
    true_and]

end Memberships

section Groups

variable {input : StateAndRef} {before after : GroupState}
  (creates : tx.outputs = [.ofGroup after])

include creates

theorem permitsCreation_iff (noInput : tx.inputs = []) :
    tx.PermitsGroup command .create ↔
      tx.Authorized command after.toEntityHeader (some .modifyGroups) := by
  have created := evolution_output_of_only (ε := GroupState) creates rfl
  simp only [PermitsGroup, created, noInput, Option.some.injEq, exists_eq_left', true_and]

end Groups

end Transaction

end Consortium
