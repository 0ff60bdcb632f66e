import Consortium.Proofs.Network.Drafts

/-!
Issuance without an authority to ask. A founding and an application are signed for by their
coordinator alone, and if it has signed and nobody else has, every contract accepts them.
-/

namespace Consortium

section Signing

variable [Suite] {tx : Transaction} {kind : EntityKind} {command : Command}

theorem Transaction.inOrder_of_inShape (inShape : ∀ state ∈ tx.touched, state.InShape)
    (references : tx.RefersSoundly) (signed : tx.signers = command.signers) :
    tx.InOrder kind kind.contractId command where
  governed state touched ofKind := by rw [(inShape state touched).governed, ofKind]
  dated state touched _ := (inShape state touched).dated
  references := references
  signed key := by rw [← signed, mem_signers]

namespace Coordinator

variable {coordinator : Coordinator} {ids : FreshIds} {now : Timestamp}

theorem standard_verify_founding {founding : NetworkFounding} {networkId : NetworkId}
    (proposes : tx.unsigned =
      ((coordinator.foundingPlan founding networkId ids).draft now).unsigned)
    (signed : tx.signers = .singleton coordinator.identity.owningKey) :
    Registry.standard.verify tx = .ok () := by
  let group := coordinator.foundingGroup founding networkId ids now
  let membership := coordinator.foundingMembership founding networkId ids now
  let signers := SortedSet.singleton coordinator.identity.owningKey
  have commands : tx.commands = [⟨.membership .bootstrap, signers⟩, ⟨.group .bootstrap, signers⟩] :=
    congrArg Transaction.commands proposes
  have references : tx.RefersSoundly := .inl (congrArg Transaction.references proposes)
  have issues : tx.CoIssues group membership .membership := by
    refine ⟨congrArg Transaction.inputs proposes, ?_⟩
    have outputs : tx.outputs = [.ofMembership membership, .ofGroup group] :=
      congrArg Transaction.outputs proposes
    rw [outputs]
    exact .swap _ _ _
  have inShape (state : TransactionState) (touched : state ∈ tx.touched) : state.InShape := by
    rcases issues.mem_touched.1 touched with rfl | rfl
    · exact ⟨rfl, UInt64.le_refl _⟩
    · exact ⟨rfl, UInt64.le_refl _⟩
  have ofGroups : tx.commandsOf .group = [⟨.group .bootstrap, signers⟩] := by
    rw [Transaction.commandsOf, commands]
    rfl
  have ofMemberships : tx.commandsOf .membership = [⟨.membership .bootstrap, signers⟩] := by
    rw [Transaction.commandsOf, commands]
    rfl
  have operates : ∃ role ∈ membership.roles, role.name = Role.operatorName :=
    ⟨.operator, SortedSet.mem_singleton.2 rfl, rfl⟩
  rw [Registry.standard_verify_eq_ok_iff]
  intro state touched
  rcases issues.mem_touched.1 touched with rfl | rfl
  · refine ⟨.group, rfl, ?_⟩
    have carried : (⟨.group .bootstrap, signers⟩ : Command) ∈ tx.commands := by
      rw [commands]
      exact List.mem_cons_of_mem _ (List.mem_singleton_self _)
    have inOrder : tx.InOrder .group .group ⟨.group .bootstrap, signers⟩ :=
      Transaction.inOrder_of_inShape inShape references signed
    exact (GroupRules.verify_bootstrap_iff carried rfl).2
      ⟨ofGroups, inOrder, issues.groupLifecycle _⟩
  · refine ⟨.membership, rfl, (MembershipRules.verify_coIssues_iff issues).2 ?_⟩
    have inOrder : tx.InOrder .membership .membership ⟨.membership .bootstrap, signers⟩ :=
      Transaction.inOrder_of_inShape inShape references signed
    exact ⟨_, .bootstrap, ofMemberships, rfl, inOrder, SortedSet.mem_singleton.2 rfl, rfl,
      operates, SortedSet.mem_singleton.2 rfl⟩

theorem standard_verify_application {application : MembershipApplication}
    (proposes : tx.unsigned = ((coordinator.applicationPlan application ids).draft now).unsigned)
    (signed : tx.signers = .singleton coordinator.identity.owningKey) :
    Registry.standard.verify tx = .ok () := by
  let membership := coordinator.pendingMembership application ids now
  let command : Command :=
    ⟨.membership .request, .singleton coordinator.identity.owningKey⟩
  have commands : tx.commands = [command] := congrArg Transaction.commands proposes
  have inputs : tx.inputs = [] := congrArg Transaction.inputs proposes
  have outputs : tx.outputs = [.ofMembership membership] := congrArg Transaction.outputs proposes
  have references : tx.RefersSoundly := .inl (congrArg Transaction.references proposes)
  have touches : tx.touched = [.ofMembership membership] := by
    rw [Transaction.touched, inputs, outputs]
    rfl
  have inShape : ∀ state ∈ tx.touched, state.InShape := by
    rw [touches]
    exact List.forall_mem_singleton.2 ⟨rfl, UInt64.le_refl _⟩
  have single : tx.selectCommands CommandValue.membership? = [(command, .request)] := by
    rw [Transaction.selectCommands, commands]
    rfl
  have inOrder : tx.InOrder .membership .membership command :=
    Transaction.inOrder_of_inShape inShape references signed
  have creates : tx.CreatesOnly membership := by
    refine ⟨.ofMembership membership, ?_, rfl⟩
    change tx.outputsOf .membership = _
    rw [Transaction.outputsOf, outputs]
    rfl
  have participates : membership.owner ∈ membership.participants :=
    SortedSet.mem_ofList.2 List.mem_cons_self
  have lifecycle : tx.MembershipLifecycle command .request :=
    ⟨inputs, membership, creates, participates, rfl, rfl, SortedSet.mem_singleton.2 rfl⟩
  rw [Registry.standard_verify_eq_ok_iff, touches]
  refine List.forall_mem_singleton.2 ⟨.membership, rfl, ?_⟩
  obtain ⟨sound, owners, permitted⟩ :=
    Transaction.sound_and_permitsMembership_iff.2 ⟨inOrder, lifecycle⟩
  refine MembershipRules.standard_verify_eq_ok_iff.2 ⟨command, .request, ?_⟩
  exact (Transaction.membershipAccepted_iff ..).2 ⟨single, sound, owners.1, owners.2, permitted⟩

end Coordinator

end Signing

end Consortium
