import Consortium.Proofs.Contract.Group
import Consortium.Proofs.Contract.Membership

/-!
Where the entities that a transaction creates come from. An approved transaction issues an entity,
under one of the two commands of its kind that consume none, or continues one that it consumes.
-/

namespace Consortium

namespace Timestamp

theorem le_refl (time : Timestamp) : time ≤ time := UInt64.le_refl time.seconds

theorem le_trans {first second third : Timestamp} (earlier : first ≤ second)
    (later : second ≤ third) : first ≤ third :=
  UInt64.le_trans earlier later

end Timestamp

namespace EntityHeader

theorem Succeeds.refl (header : EntityHeader) : header.Succeeds header :=
  ⟨rfl, rfl, rfl, Timestamp.le_refl _, rfl⟩

theorem Succeeds.trans {first second third : EntityHeader} (later : third.Succeeds second)
    (earlier : second.Succeeds first) : third.Succeeds first where
  networkId := earlier.networkId.trans later.networkId
  issued := earlier.issued.trans later.issued
  issuer := earlier.issuer.trans later.issuer
  modified := Timestamp.le_trans earlier.modified later.modified
  linearId := earlier.linearId.trans later.linearId

end EntityHeader

namespace TransactionState

theorem eq_ofGroup {state : TransactionState} {group : GroupState}
    (data : state.data.group? = some group) (contract : state.contract = .group) :
    state = .ofGroup group := by
  obtain ⟨_, _⟩ := state
  cases ContractState.group?_eq_some_iff.1 data
  cases contract
  rfl

theorem eq_ofMembership {state : TransactionState} {membership : MembershipState}
    (data : state.data.membership? = some membership) (contract : state.contract = .membership) :
    state = .ofMembership membership := by
  obtain ⟨_, _⟩ := state
  cases ContractState.membership?_eq_some_iff.1 data
  cases contract
  rfl

end TransactionState

namespace CommandValue

theorem group?_eq_some_iff {command : CommandValue} {value : GroupCommand} :
    command.group? = some value ↔ command = .group value := by
  cases command <;> simp [group?]

theorem membership?_eq_some_iff {command : CommandValue} {value : MembershipCommand} :
    command.membership? = some value ↔ command = .membership value := by
  cases command <;> simp [membership?]

end CommandValue

section Signing

variable [Suite] {tx : Transaction} {command : Command}

namespace StructurallySound

variable {ε : Type} [LinearEntity ε] {contractId : ContractId}
  {multipleAllowed : Bool}

/-- The only state of the kind that is created is the second version. -/
theorem created [LawfulEntity ε]
    (sound : StructurallySound ε tx command contractId multipleAllowed)
    (few : (tx.outputsOf (LinearEntity.kind ε)).length ≤ 1) {state : TransactionState}
    (isOutput : state ∈ tx.outputs) {entity : ε}
    (ofState : LinearEntity.ofState? state.data = some entity) :
    tx.outputsOf (LinearEntity.kind ε) = [state] ∧ (tx.evolution ε).output = some entity ∧
      state.contract = contractId := by
  have ofKind := LawfulEntity.kind_of_some state.data entity ofState
  have single := Transaction.outputsOf_eq_singleton few isOutput ofKind
  refine ⟨single, Transaction.evolution_output_of_singleton single ofState, ?_⟩
  apply sound.governed
  exact List.mem_append_right _ (Transaction.mem_outputsOf.2 ⟨isOutput, ofKind⟩)

/-- The first version was on the ledger, under the contract that checks it. -/
theorem consumed (sound : StructurallySound ε tx command contractId multipleAllowed) {entity : ε}
    (found : (tx.evolution ε).input = some entity) :
    ∃ recorded ∈ tx.inputs, LinearEntity.ofState? recorded.state.data = some entity ∧
      recorded.state.contract = contractId := by
  obtain ⟨recorded, member, ofState⟩ := Transaction.consumed_of_evolution found
  refine ⟨recorded, (Transaction.mem_inputsOf.1 member).1, ofState, ?_⟩
  apply sound.governed
  exact List.mem_append_left _ (List.mem_map_of_mem member)

end StructurallySound

namespace Transaction

/-- The transaction brings a group into being. -/
def IssuesGroup (tx : Transaction) (group : GroupState) : Prop :=
  (∃ command ∈ tx.commands,
    command.value = .group .bootstrap ∨ command.value = .group .create) ∧
    tx.outputsOf .group = [.ofGroup group]

/-- The transaction brings a membership into being, and its owner has signed. -/
def IssuesMembership (tx : Transaction) (membership : MembershipState) : Prop :=
  (∃ command ∈ tx.commands,
    command.value = .membership .bootstrap ∨ command.value = .membership .request) ∧
    tx.outputsOf .membership = [.ofMembership membership] ∧
    membership.owner.owningKey ∈ tx.signers

namespace GroupAccepted

variable {value : GroupCommand} (accepted : tx.GroupAccepted command value)

include accepted

theorem few_outputs : (tx.outputsOf .group).length ≤ 1 := by
  cases value with
  | bootstrap => exact Nat.le_of_eq accepted.permitted.2.2.1
  | create => exact accepted.sound.oneOutput.resolve_left (by simp)
  | modify => exact accepted.sound.oneOutput.resolve_left (by simp)
  | exit => exact accepted.sound.oneOutput.resolve_left (by simp)

/-- An approved group is issued, or continues one that is consumed. -/
theorem issues_or_continues {group : GroupState} {contract : ContractId}
    (isOutput : ⟨.group group, contract⟩ ∈ tx.outputs) :
    tx.IssuesGroup group ∨ ∃ recorded ∈ tx.inputs, ∃ previous,
      recorded.state = .ofGroup previous ∧ group.Succeeds previous.toEntityHeader := by
  have ofState : (ContractState.group group).group? = some group := rfl
  obtain ⟨single, created, rfl⟩ :=
    accepted.sound.created accepted.few_outputs isOutput ofState
  obtain ⟨isCommand, selected⟩ := mem_commands_of_select accepted.single
  have named := CommandValue.group?_eq_some_iff.1 selected
  have issued (isFirst : value = .bootstrap ∨ value = .create) : tx.IssuesGroup group := by
    refine ⟨⟨command, isCommand, ?_⟩, single⟩
    rw [named]
    rcases isFirst with rfl | rfl
    · exact .inl rfl
    · exact .inr rfl
  cases value with
  | bootstrap => exact .inl (issued (.inl rfl))
  | create => exact .inl (issued (.inr rfl))
  | modify =>
      right
      obtain ⟨input, output, consumed, isSecond, _⟩ := accepted.permitted
      obtain ⟨recorded, isInput, ofState, governed⟩ := accepted.sound.consumed consumed
      refine ⟨recorded, isInput, input, TransactionState.eq_ofGroup ofState governed, ?_⟩
      exact accepted.sound.succeeds input group consumed created
  | exit =>
      obtain ⟨_, _, noOutput, _⟩ := accepted.permitted
      rw [noOutput] at isOutput
      cases isOutput

end GroupAccepted

namespace MembershipAccepted

variable {value : MembershipCommand} (accepted : tx.MembershipAccepted command value)

include accepted

theorem few_outputs : (tx.outputsOf .membership).length ≤ 1 := by
  by_cases bootstrap : value = .bootstrap
  · subst bootstrap
    obtain ⟨_, _, _, one, _⟩ := accepted.permitted
    exact Nat.le_of_eq one
  · exact accepted.sound.oneOutput.resolve_left (by simp [bootstrap])

/-- An approved membership is issued, or continues one of the same owner that is consumed. -/
theorem issues_or_continues {membership : MembershipState} {contract : ContractId}
    (isOutput : ⟨.membership membership, contract⟩ ∈ tx.outputs) :
    tx.IssuesMembership membership ∨ ∃ recorded ∈ tx.inputs, ∃ previous,
      recorded.state = .ofMembership previous ∧
        membership.Succeeds previous.toEntityHeader ∧ previous.owner = membership.owner := by
  have ofState : (ContractState.membership membership).membership? = some membership := rfl
  obtain ⟨single, created, rfl⟩ :=
    accepted.sound.created accepted.few_outputs isOutput ofState
  obtain ⟨isCommand, selected⟩ := mem_commands_of_select accepted.single
  have named := CommandValue.membership?_eq_some_iff.1 selected
  have issued (isFirst : value = .bootstrap ∨ value = .request)
      (signs : membership.owner.owningKey ∈ command.signers) : tx.IssuesMembership membership := by
    refine ⟨⟨command, isCommand, ?_⟩, single, ?_⟩
    · rw [named]
      rcases isFirst with rfl | rfl
      · exact .inl rfl
      · exact .inr rfl
    · rw [accepted.sound.signed]
      exact signs
  have continued (permitted : tx.PermitsTransition command value) :
      ∃ recorded ∈ tx.inputs, ∃ previous, recorded.state = .ofMembership previous ∧
        membership.Succeeds previous.toEntityHeader ∧ previous.owner = membership.owner := by
    obtain ⟨input, output, consumed, _⟩ := permitted
    obtain ⟨recorded, isInput, ofState, governed⟩ := accepted.sound.consumed consumed
    refine ⟨recorded, isInput, input, TransactionState.eq_ofMembership ofState governed, ?_, ?_⟩
    · exact accepted.sound.succeeds input membership consumed created
    · exact accepted.ownerKept input membership consumed created
  cases value with
  | bootstrap =>
      obtain ⟨output, isSecond, _, _, _, _, signs⟩ := accepted.permitted
      cases created.symm.trans isSecond
      exact .inl (issued (.inl rfl) signs)
  | request =>
      obtain ⟨output, isSecond, _, _, _, signs⟩ := accepted.permitted
      cases created.symm.trans isSecond
      exact .inl (issued (.inr rfl) signs)
  | activate => exact .inr (continued accepted.permitted)
  | suspend => exact .inr (continued accepted.permitted)
  | modifyRoles => exact .inr (continued accepted.permitted)
  | modifyBusinessIdentity => exact .inr (continued accepted.permitted)
  | modifyParticipants => exact .inr (continued accepted.permitted)
  | revoke =>
      obtain ⟨_, _, noOutput, _⟩ := accepted.permitted
      rw [noOutput] at isOutput
      cases isOutput

end MembershipAccepted

end Transaction

end Signing

end Consortium
