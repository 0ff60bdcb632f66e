import Consortium.Proofs.Contract.Acceptance
import Consortium.Proofs.Contract.Perspective

/-!
The group and the membership that a network starts with. Each of the two contracts looks at its own
command and its own state, so that only the shape of the transaction ties the two together.
-/

namespace Consortium

namespace Transaction

/-- The transaction consumes nothing, and creates a group under the contract of groups and a
membership under this contract. -/
structure CoIssues (tx : Transaction) (group : GroupState) (membership : MembershipState)
    (contract : ContractId) : Prop where
  inputs : tx.inputs = []
  outputs : tx.outputs.Perm [.ofGroup group, ⟨.membership membership, contract⟩]

/-- The command issues the membership: it founds a network or asks to join one. -/
def Issues (command : Command) (membership : MembershipState) : MembershipCommand → Prop
  | .bootstrap =>
      membership.owner ∈ membership.participants ∧ membership.status = .active ∧
        (∃ role ∈ membership.roles, role.name = Role.operatorName) ∧
        membership.owner.owningKey ∈ command.signers
  | .request =>
      membership.owner ∈ membership.participants ∧ membership.status = .pending ∧
        membership.roles = .empty ∧ membership.owner.owningKey ∈ command.signers
  | .activate | .suspend | .modifyRoles | .modifyBusinessIdentity | .modifyParticipants
  | .revoke => False

section Contents

variable {tx : Transaction} {group : GroupState} {membership : MembershipState}
  {contract : ContractId}

namespace CoIssues

theorem mem_touched (issues : tx.CoIssues group membership contract) {state : TransactionState} :
    state ∈ tx.touched ↔ state = .ofGroup group ∨ state = ⟨.membership membership, contract⟩ := by
  rw [touched, issues.inputs, List.map_nil, List.nil_append, issues.outputs.mem_iff,
    List.mem_pair]

theorem outputsOf_membership (issues : tx.CoIssues group membership contract) :
    tx.outputsOf .membership = [⟨.membership membership, contract⟩] :=
  List.perm_singleton.1 (issues.outputs.filter _)

theorem createsOnly_iff (issues : tx.CoIssues group membership contract)
    {output : MembershipState} : tx.CreatesOnly output ↔ output = membership := by
  have single := issues.outputsOf_membership
  constructor
  · intro ⟨state, isOnly, ofState⟩
    cases isOnly.symm.trans single
    exact (Option.some.inj ofState).symm
  · rintro rfl
    exact ⟨_, single, rfl⟩

theorem not_consumesOnly (issues : tx.CoIssues group membership contract)
    {input : MembershipState} : ¬ tx.ConsumesOnly input := by
  intro ⟨recorded, isOnly, _⟩
  rw [inputsOf_eq_nil issues.inputs] at isOnly
  cases isOnly

theorem membershipLifecycle_iff (issues : tx.CoIssues group membership contract)
    {command : Command} {value : MembershipCommand} :
    tx.MembershipLifecycle command value ↔ Issues command membership value := by
  cases value with
  | bootstrap => simp [MembershipLifecycle, Issues, issues.inputs, issues.createsOnly_iff]
  | request => simp [MembershipLifecycle, Issues, issues.inputs, issues.createsOnly_iff]
  | revoke => simp [MembershipLifecycle, Issues, issues.not_consumesOnly]
  | activate => simp [MembershipLifecycle, Issues, issues.not_consumesOnly]
  | suspend => simp [MembershipLifecycle, Issues, issues.not_consumesOnly]
  | modifyRoles => simp [MembershipLifecycle, Issues, issues.not_consumesOnly]
  | modifyBusinessIdentity => simp [MembershipLifecycle, Issues, issues.not_consumesOnly]
  | modifyParticipants => simp [MembershipLifecycle, Issues, issues.not_consumesOnly]

theorem groupLifecycle (issues : tx.CoIssues group membership contract) (command : Command) :
    tx.GroupLifecycle command .bootstrap :=
  ⟨issues.inputs, group, membership, issues.outputs.map TransactionState.data⟩

end CoIssues

variable [Suite] {command : Command}

theorem exists_coIssues (inOrder : tx.InOrder .group .group command)
    (lifecycle : tx.GroupLifecycle command .bootstrap) :
    ∃ group membership contract, tx.CoIssues group membership contract := by
  obtain ⟨noInput, group, membership, permuted⟩ := lifecycle
  have isGroup {state : TransactionState} (created : state ∈ tx.outputs)
      (ofData : state.data = .group group) : state = .ofGroup group := by
    have touched : state ∈ tx.touched := List.mem_append_right _ created
    refine TransactionState.eq_ofGroup ?_ (inOrder.governed state touched ?_)
    · exact ContractState.group?_eq_some_iff.2 ofData
    · rw [ofData]
      rfl
  obtain ⟨first, second, created⟩ := List.length_eq_two.1
    ((List.length_map _).symm.trans permuted.length_eq)
  rw [created] at isGroup permuted
  -- Either of the two outputs may be the group.
  rcases List.mem_pair.1 (permuted.mem_iff.2 List.mem_cons_self) with isFirst | isSecond
  · rw [List.map_cons, ← isFirst] at permuted
    have others := List.perm_singleton.1 permuted.cons_inv
    obtain ⟨data, contract⟩ := second
    cases others
    refine ⟨group, membership, contract, noInput, ?_⟩
    rw [created, isGroup List.mem_cons_self isFirst.symm]
  · rw [List.map_cons, List.map_singleton, ← isSecond] at permuted
    have others := List.perm_singleton.1 (permuted.symm.trans (.swap _ _ _)).cons_inv.symm
    obtain ⟨data, contract⟩ := first
    cases others
    refine ⟨group, membership, contract, noInput, ?_⟩
    rw [created, isGroup (List.mem_cons_of_mem _ List.mem_cons_self) isSecond.symm]
    exact .swap _ _ _

end Contents

end Transaction

section Contracts

variable [Suite] {tx : Transaction} {command : Command}

theorem GroupRules.verify_bootstrap_iff (carried : command ∈ tx.commands)
    (isBootstrap : command.value = .group .bootstrap) :
    GroupRules.standard.verify tx = .ok () ↔
      tx.commandsOf .group = [command] ∧ tx.InOrder .group .group command ∧
        tx.GroupLifecycle command .bootstrap := by
  have selects := CommandValue.group?_eq_some_iff.2 isBootstrap
  have single : tx.selectCommands CommandValue.group? = [(command, .bootstrap)] ↔
      tx.commandsOf .group = [command] ∧ command.value.group? = some .bootstrap :=
    Transaction.selectCommands_eq_iff_commandsOf fun _ => CommandValue.group?_isSome_iff
  constructor
  · intro approved
    have accepted := GroupRules.accepted_of_carried carried isBootstrap approved
    exact ⟨(single.1 accepted.single).1,
      Transaction.sound_and_permitsGroup_iff.1 ⟨accepted.sound, accepted.permitted⟩⟩
  · intro ⟨isOnly, checked⟩
    have ⟨sound, permitted⟩ := Transaction.sound_and_permitsGroup_iff.2 checked
    rw [GroupRules.standard_verify_eq_ok_iff]
    exact ⟨command, .bootstrap, single.2 ⟨isOnly, selects⟩, sound, permitted⟩

theorem MembershipRules.verify_coIssues_iff {group : GroupState} {membership : MembershipState}
    {contract : ContractId} (issues : tx.CoIssues group membership contract) :
    MembershipRules.standard.verify tx = .ok () ↔
      ∃ issuing value, tx.commandsOf .membership = [issuing] ∧
        issuing.value = .membership value ∧ tx.InOrder .membership .membership issuing ∧
        Transaction.Issues issuing membership value := by
  rw [MembershipRules.standard_verify_eq_ok_iff]
  refine exists_congr fun issuing => exists_congr fun value => ?_
  rw [Transaction.membershipAccepted_iff,
    Transaction.selectCommands_eq_iff_commandsOf fun _ => CommandValue.membership?_isSome_iff,
    CommandValue.membership?_eq_some_iff, and_assoc, ← issues.membershipLifecycle_iff,
    ← Transaction.sound_and_permitsMembership_iff, Transaction.OwnersStand, and_assoc]

/-- An accepted transaction that carries the command of a founding for the contract of groups creates
a group and a membership. The contract of memberships looks at the membership if that one stands
under it, and then asks for what its own command asks for. Nothing else is asked for: neither that
this command is the one of a founding, nor that the two states belong to one network. -/
theorem Registry.accepts_bootstrap_iff (carried : command ∈ tx.commands)
    (isBootstrap : command.value = .group .bootstrap)
    (named : ∃ state ∈ tx.touched, state.contract = .group) :
    standard.verify tx = .ok () ↔
      tx.commandsOf .group = [command] ∧ tx.InOrder .group .group command ∧
        ∃ group membership contract, tx.CoIssues group membership contract ∧
          (contract = .group ∨
            contract = .membership ∧ ∃ issuing value, tx.commandsOf .membership = [issuing] ∧
              issuing.value = .membership value ∧
              tx.InOrder .membership .membership issuing ∧
              Transaction.Issues issuing membership value) := by
  constructor
  · intro accepted
    obtain ⟨state, touched, isNamed⟩ := named
    have ofGroup : state.contract = EntityKind.group.contractId := isNamed
    obtain ⟨single, inOrder, lifecycle⟩ :=
      (GroupRules.verify_bootstrap_iff carried isBootstrap).1
        (standardVerify_of_named accepted touched ofGroup)
    obtain ⟨group, membership, contract, issues⟩ := Transaction.exists_coIssues inOrder lifecycle
    refine ⟨single, inOrder, group, membership, contract, issues, ?_⟩
    obtain ⟨behind, standsUnder, issued⟩ :=
      standard_verify_eq_ok_iff.1 accepted _ (issues.mem_touched.2 (.inr rfl))
    cases behind with
    | group => exact .inl standsUnder
    | membership => exact .inr ⟨standsUnder, (MembershipRules.verify_coIssues_iff issues).1 issued⟩
  · intro ⟨single, inOrder, group, membership, contract, issues, behind⟩
    have approved := (GroupRules.verify_bootstrap_iff carried isBootstrap).2
      ⟨single, inOrder, issues.groupLifecycle command⟩
    rw [standard_verify_eq_ok_iff]
    intro state touched
    rcases issues.mem_touched.1 touched with rfl | rfl
    · exact ⟨.group, rfl, approved⟩
    · rcases behind with standsUnder | ⟨standsUnder, issued⟩
      · exact ⟨.group, standsUnder, approved⟩
      · exact ⟨.membership, standsUnder, (MembershipRules.verify_coIssues_iff issues).2 issued⟩

end Contracts

section Specimens

open Transparent

/-- A group and a membership, which its owner signs for under this command. -/
def coIssued (membership : MembershipState) (group : GroupState) (value : MembershipCommand)
    (seed : UInt8) : Transaction :=
  @Transaction.sign suite
    { Transaction.empty with
      outputs := [.ofMembership membership, .ofGroup group]
      commands :=
        [⟨.membership value, .singleton membership.owner.owningKey⟩,
          ⟨.group .bootstrap, .singleton membership.owner.owningKey⟩] } (keys seed)

/-- An operator by name, whose role grants nothing. -/
def figurehead : MembershipState :=
  { foundersMembership with roles := .singleton ⟨Role.operatorName, .empty⟩ }

def groupElsewhere : GroupState := { groupOf founder with networkId := ⟨"elsewhere"⟩ }

namespace Registry

set_option maxRecDepth 10000 in
theorem founding_issues_operator :
    letI := suite
    standard.verify founding = .ok () ∧
      ∃ group membership contract, founding.CoIssues group membership contract ∧
        (contract = .group ∨
          contract = .membership ∧ ∃ issuing value, founding.commandsOf .membership = [issuing] ∧
            issuing.value = .membership value ∧ Transaction.Issues issuing membership value) := by
  have accepted : (@standard suite).verify founding = .ok () := by decide +kernel
  have carried : (⟨.group .bootstrap, .singleton founder.owningKey⟩ : Command) ∈
      founding.commands := by decide +kernel
  have named : ∃ state ∈ founding.touched, state.contract = .group := by decide +kernel
  obtain ⟨_, _, group, membership, contract, issues, behind⟩ :=
    (@accepts_bootstrap_iff suite _ _ carried rfl named).1 accepted
  refine ⟨accepted, group, membership, contract, issues, behind.imp_right ?_⟩
  intro ⟨standsUnder, issuing, value, single, isValue, _, issued⟩
  exact ⟨standsUnder, issuing, value, single, isValue, issued⟩

set_option maxRecDepth 10000 in
/-- A network may start with the membership of someone who only asks to join, with a group that
belongs to another network, or with an operator who has no permissions. -/
theorem bootstrap_of_incoherent_network :
    letI := suite
    (standard.verify (coIssued joinersMembership (groupOf joiner) .request 2) = .ok () ∧
      joinersMembership.status = .pending ∧
      ∀ command ∈ (coIssued joinersMembership (groupOf joiner) .request 2).commands,
        command.value ≠ .membership .bootstrap) ∧
    (standard.verify (coIssued foundersMembership groupElsewhere .bootstrap 1) = .ok () ∧
      groupElsewhere.networkId ≠ foundersMembership.networkId) ∧
    standard.verify (coIssued figurehead (groupOf founder) .bootstrap 1) = .ok () ∧
      ∀ permission, figurehead.holds permission = false := by
  refine ⟨⟨?_, ?_, ?_⟩, ⟨?_, ?_⟩, ?_, fun permission => ?_⟩
  case refine_7 => cases permission <;> decide +kernel
  all_goals decide +kernel

end Registry

end Specimens

end Consortium
