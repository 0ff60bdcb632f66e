import Consortium.Proofs.Contract.Contents
import Mathlib.Data.List.Basic

/-!
What the standard contracts accept, read off the contents of a transaction: one command of the
family, states and signatures in order, and the states that the command asks for.
-/

namespace Consortium

namespace Transaction

variable (tx : Transaction) (command : Command)

/-! ### Groups -/

/-- The only reference is a membership that may make the change, and has to sign for it. -/
def AuthorizedByReference (evolved : EntityHeader) (permission : Option Permission) : Prop :=
  ∃ reference initiator, tx.references = [reference] ∧ reference.membership? = some initiator ∧
    initiator.Authorizes evolved permission ∧ initiator.owner.owningKey ∈ command.signers

/-- The states that a command of the group family consumes, creates and refers to. -/
def GroupLifecycle : GroupCommand → Prop
  | .bootstrap =>
      tx.inputs = [] ∧ ∃ group membership,
        (tx.outputs.map TransactionState.data).Perm [.group group, .membership membership]
  | .create =>
      tx.inputs = [] ∧ ∃ output : GroupState, tx.CreatesOnly output ∧
        tx.AuthorizedByReference command output.toEntityHeader (some .modifyGroups)
  | .modify =>
      ∃ input output : GroupState, tx.ConsumesOnly input ∧ tx.CreatesOnly output ∧
        output.Succeeds input.toEntityHeader ∧
        (input.name ≠ output.name ∨ input.participants ≠ output.participants) ∧
        tx.AuthorizedByReference command output.toEntityHeader (some .modifyGroups)
  | .exit =>
      tx.outputs = [] ∧ ∃ input : GroupState, tx.ConsumesOnly input ∧
        tx.AuthorizedByReference command input.toEntityHeader (some .modifyGroups)

variable {tx command}

theorem ConsumesOnly.not_membership {group : GroupState} (only : tx.ConsumesOnly group)
    {recorded : StateAndRef} (single : tx.inputs = [recorded]) : recorded.membership? = none := by
  obtain ⟨consumed, isOnly, ofState⟩ := only
  have member : consumed ∈ tx.inputsOf .group := by
    rw [show tx.inputsOf .group = [consumed] from isOnly]
    exact List.mem_singleton_self _
  have isInput := (mem_inputsOf.1 member).1
  rw [single, List.mem_singleton] at isInput
  rw [← isInput, StateAndRef.membership?, TransactionState.membership?,
    ContractState.group?_eq_some_iff.1 ofState, ContractState.membership?]

theorem authorized_iff_byReference
    (unspoken : ∀ recorded, tx.inputs = [recorded] → recorded.membership? = none)
    {evolved : EntityHeader} {permission : Option Permission} :
    tx.Authorized command evolved permission ↔
      tx.AuthorizedByReference command evolved permission := by
  -- Where the only input cannot speak for the initiator, the reference has to.
  constructor
  · intro ⟨recorded, initiator, source, found, authorizes, signs⟩
    rcases source with reference | ⟨_, input⟩
    · exact ⟨recorded, initiator, reference, found, authorizes, signs⟩
    · rw [unspoken recorded input] at found
      cases found
  · intro ⟨reference, initiator, isReference, found, authorizes, signs⟩
    exact ⟨reference, initiator, .inl isReference, found, authorizes, signs⟩

theorem authorized_iff_of_consumesOnly {group : GroupState} (only : tx.ConsumesOnly group)
    {evolved : EntityHeader} {permission : Option Permission} :
    tx.Authorized command evolved permission ↔
      tx.AuthorizedByReference command evolved permission :=
  authorized_iff_byReference fun _ single => only.not_membership single

theorem length_outputsOf (kind : EntityKind) :
    (tx.outputsOf kind).length =
      (tx.outputs.map TransactionState.data).countP fun data => decide (data.kind = kind) := by
  rw [outputsOf, ← List.countP_eq_length_filter, List.countP_map]
  rfl

theorem permitsGroup_bootstrap_iff :
    tx.PermitsGroup command .bootstrap ↔ tx.GroupLifecycle command .bootstrap := by
  refine and_congr_right fun _ => ?_
  rw [length_outputsOf, length_outputsOf, ← List.length_map TransactionState.data]
  generalize tx.outputs.map TransactionState.data = created
  constructor
  · intro ⟨two, oneGroup, oneMembership⟩
    obtain ⟨first, second, rfl⟩ := List.length_eq_two.1 two
    cases first with
    | group group =>
        cases second with
        | group _ => simp [ContractState.kind] at oneGroup
        | membership membership => exact ⟨group, membership, .refl _⟩
    | membership membership =>
        cases second with
        | group group => exact ⟨group, membership, .swap _ _ _⟩
        | membership _ => simp [ContractState.kind] at oneMembership
  · intro ⟨group, membership, permuted⟩
    rw [permuted.length_eq, permuted.countP_eq, permuted.countP_eq]
    exact ⟨rfl, rfl, rfl⟩

theorem sound_and_permitsGroup_iff [Suite] {value : GroupCommand} :
    StructurallySound GroupState tx command .group (decide (value = .bootstrap)) ∧
        tx.PermitsGroup command value ↔
      tx.InOrder .group .group command ∧ tx.GroupLifecycle command value := by
  cases value with
  | bootstrap =>
      rw [permitsGroup_bootstrap_iff]
      refine and_congr_left fun lifecycle => ⟨StructurallySound.inOrder, fun inOrder => ?_⟩
      have noInput : tx.inputs = [] := lifecycle.1
      refine InOrder.sound (ε := GroupState) inOrder (.inl rfl) (.inl rfl) ?_
      intro input second consumed
      rw [evolution_input_eq_none noInput] at consumed
      cases consumed
  | create =>
      have issued := @issuance_iff _ GroupState _ tx command .group false
        fun output => tx.Authorized command output.toEntityHeader (some .modifyGroups)
      simp only [Bool.false_eq_true, false_implies, true_and] at issued
      refine issued.trans (and_congr_right fun _ => and_congr_right fun noInput => ?_)
      refine exists_congr fun output => and_congr_right fun _ => ?_
      refine authorized_iff_byReference fun recorded single => ?_
      rw [noInput] at single
      cases single
  | modify =>
      refine transition_iff.trans (and_congr_right fun _ => ?_)
      refine exists_congr fun input => exists_congr fun output => and_congr_right fun only => ?_
      refine and_congr_right fun _ => and_congr_right fun _ => and_congr_right fun _ => ?_
      exact authorized_iff_of_consumesOnly only
  | exit =>
      refine removal_iff.trans (and_congr_right fun _ => and_congr_right fun _ => ?_)
      refine exists_congr fun input => and_congr_right fun only => ?_
      exact authorized_iff_of_consumesOnly only

end Transaction

/-- The contract of groups accepts a transaction exactly if it carries one group command, its groups
and signatures are in order, and its states are those of the command. -/
theorem GroupRules.group_contract_accepts_iff [Suite] (tx : Transaction) :
    GroupRules.standard.verify tx = .ok () ↔
      ∃ command value,
        tx.commands.filter (fun candidate => candidate.value.group?.isSome) = [command] ∧
          command.value = .group value ∧ tx.InOrder .group .group command ∧
          tx.GroupLifecycle command value := by
  rw [GroupRules.standard_verify_eq_ok_iff]
  refine exists_congr fun command => exists_congr fun value => ?_
  rw [Transaction.groupAccepted_iff, Transaction.selectCommands_eq_singleton_iff,
    CommandValue.group?_eq_some_iff, and_assoc, Transaction.sound_and_permitsGroup_iff]

theorem MembershipState.isOperator_iff {membership : MembershipState} :
    membership.isOperator ↔ ∃ role ∈ membership.roles, role.name = Role.operatorName := by
  simp only [isOperator, List.any_eq_true, SortedSet.mem_toList, decide_eq_true_eq]

namespace Transaction

/-! ### Memberships -/

def MembershipLifecycle (tx : Transaction) (command : Command) : MembershipCommand → Prop
  | .bootstrap =>
      tx.inputs = [] ∧ ∃ output : MembershipState, tx.CreatesOnly output ∧
        output.owner ∈ output.participants ∧ output.status = .active ∧
        (∃ role ∈ output.roles, role.name = Role.operatorName) ∧
        output.owner.owningKey ∈ command.signers
  | .request =>
      tx.inputs = [] ∧ ∃ output : MembershipState, tx.CreatesOnly output ∧
        output.owner ∈ output.participants ∧ output.status = .pending ∧
        output.roles = .empty ∧ output.owner.owningKey ∈ command.signers
  | .revoke =>
      tx.outputs = [] ∧ ∃ input : MembershipState, tx.ConsumesOnly input ∧
        tx.Authorized command input.toEntityHeader (some .revokeMembership)
  | value =>
      ∃ input output : MembershipState, tx.ConsumesOnly input ∧ tx.CreatesOnly output ∧
        output.Succeeds input.toEntityHeader ∧ input.owner = output.owner ∧
        output.owner ∈ output.participants ∧ value.Changes input output ∧
        tx.Authorized command output.toEntityHeader value.permission

variable {tx : Transaction} {command : Command}

/-! The rules on owners, for each way in which a membership changes. -/

section Owners

variable {evolution : Evolution MembershipState}

/-- A membership that is created has its owner among its participants, and keeps its owner. -/
def OwnersStand (evolution : Evolution MembershipState) : Prop :=
  (∀ output, evolution.output = some output → output.owner ∈ output.participants) ∧
    ∀ input output, evolution.input = some input → evolution.output = some output →
      input.owner = output.owner

variable {condition : MembershipState → Prop} {change : (input output : MembershipState) → Prop}

theorem ownersStand_and_issues_iff :
    (OwnersStand (tx.evolution MembershipState) ∧
      ∃ output, (tx.evolution MembershipState).output = some output ∧ tx.inputs = [] ∧
        condition output) ↔
    ∃ output, (tx.evolution MembershipState).output = some output ∧ tx.inputs = [] ∧
      output.owner ∈ output.participants ∧ condition output := by
  constructor
  · intro ⟨⟨participates, _⟩, output, created, noInput, holds⟩
    exact ⟨output, created, noInput, participates output created, holds⟩
  · intro ⟨output, created, noInput, participates, holds⟩
    refine ⟨⟨fun second isSecond => ?_, fun first second isFirst _ => ?_⟩,
      output, created, noInput, holds⟩
    · cases created.symm.trans isSecond
      exact participates
    · rw [evolution_input_eq_none noInput] at isFirst
      cases isFirst

theorem ownersStand_and_continues_iff :
    (OwnersStand (tx.evolution MembershipState) ∧
      ∃ input output, (tx.evolution MembershipState).input = some input ∧
        (tx.evolution MembershipState).output = some output ∧ change input output) ↔
    ∃ input output, (tx.evolution MembershipState).input = some input ∧
      (tx.evolution MembershipState).output = some output ∧ input.owner = output.owner ∧
      output.owner ∈ output.participants ∧ change input output := by
  constructor
  · intro ⟨⟨participates, kept⟩, input, output, consumed, created, changes⟩
    exact ⟨input, output, consumed, created, kept input output consumed created,
      participates output created, changes⟩
  · intro ⟨input, output, consumed, created, sameOwner, participates, changes⟩
    refine ⟨⟨fun second isSecond => ?_, fun first second isFirst isSecond => ?_⟩,
      input, output, consumed, created, changes⟩
    · cases created.symm.trans isSecond
      exact participates
    · cases consumed.symm.trans isFirst
      cases created.symm.trans isSecond
      exact sameOwner

theorem ownersStand_and_removes_iff :
    (OwnersStand (tx.evolution MembershipState) ∧
      ∃ input, (tx.evolution MembershipState).input = some input ∧ tx.outputs = [] ∧
        condition input) ↔
    ∃ input, (tx.evolution MembershipState).input = some input ∧ tx.outputs = [] ∧
      condition input := by
  refine and_iff_right_of_imp fun ⟨input, _, noOutput, _⟩ => ?_
  constructor
  · intro output created
    rw [evolution_output_eq_none noOutput] at created
    cases created
  · intro first output _ created
    rw [evolution_output_eq_none noOutput] at created
    cases created

end Owners

theorem sound_and_permitsTransition_iff [Suite] {value : MembershipCommand} :
    (StructurallySound MembershipState tx command .membership false ∧
      OwnersStand (tx.evolution MembershipState) ∧ tx.PermitsTransition command value) ↔
    tx.InOrder .membership .membership command ∧
      ∃ input output : MembershipState, tx.ConsumesOnly input ∧ tx.CreatesOnly output ∧
        output.Succeeds input.toEntityHeader ∧ input.owner = output.owner ∧
        output.owner ∈ output.participants ∧ value.Changes input output ∧
        tx.Authorized command output.toEntityHeader value.permission := by
  rw [PermitsTransition, ownersStand_and_continues_iff]
  exact transition_iff

theorem sound_and_permitsMembership_iff [Suite] {value : MembershipCommand} :
    (StructurallySound MembershipState tx command .membership (decide (value = .bootstrap)) ∧
      OwnersStand (tx.evolution MembershipState) ∧ tx.PermitsMembership command value) ↔
    tx.InOrder .membership .membership command ∧ tx.MembershipLifecycle command value := by
  cases value with
  | bootstrap =>
      have issued := @issuance_iff _ MembershipState _ tx command .membership true
        fun output => output.owner ∈ output.participants ∧ output.status = .active ∧
          (∃ role ∈ output.roles, role.name = Role.operatorName) ∧
          output.owner.owningKey ∈ command.signers
      refine .trans (and_congr_right fun _ => ?_) issued
      refine ownersStand_and_issues_iff.trans (exists_congr fun output => ?_)
      refine and_congr_right fun _ => and_congr_right fun _ => ?_
      rw [MembershipState.isOperator_iff, and_left_comm]
      exact and_congr_left fun _ => ⟨fun one _ => one, fun one => one rfl⟩
  | request =>
      have issued := @issuance_iff _ MembershipState _ tx command .membership false
        fun output => output.owner ∈ output.participants ∧ output.status = .pending ∧
          output.roles = .empty ∧ output.owner.owningKey ∈ command.signers
      refine .trans (and_congr_right fun _ => ?_) issued
      refine ownersStand_and_issues_iff.trans (exists_congr fun output => ?_)
      simp only [Bool.false_eq_true, false_implies, true_and, SortedSet.isEmpty_iff]
  | activate => exact sound_and_permitsTransition_iff
  | suspend => exact sound_and_permitsTransition_iff
  | modifyRoles => exact sound_and_permitsTransition_iff
  | modifyBusinessIdentity => exact sound_and_permitsTransition_iff
  | modifyParticipants => exact sound_and_permitsTransition_iff
  | revoke => exact (and_congr_right fun _ => ownersStand_and_removes_iff).trans removal_iff

end Transaction

/-- The contract of memberships accepts a transaction exactly if it carries one membership command,
its memberships and signatures are in order, and its states are those of the command. -/
theorem MembershipRules.membership_contract_accepts_iff [Suite] (tx : Transaction) :
    MembershipRules.standard.verify tx = .ok () ↔
      ∃ command value,
        tx.commands.filter (fun candidate => candidate.value.membership?.isSome) = [command] ∧
          command.value = .membership value ∧ tx.InOrder .membership .membership command ∧
          tx.MembershipLifecycle command value := by
  rw [MembershipRules.standard_verify_eq_ok_iff]
  refine exists_congr fun command => exists_congr fun value => ?_
  rw [Transaction.membershipAccepted_iff, Transaction.selectCommands_eq_singleton_iff,
    CommandValue.membership?_eq_some_iff, and_assoc,
    ← Transaction.sound_and_permitsMembership_iff, Transaction.OwnersStand, and_assoc]

/-! What a contract approves is accepted for each command of its family that it carries. -/

section Carried

variable [Suite] {tx : Transaction} {command : Command} (carried : command ∈ tx.commands)

include carried

theorem GroupRules.accepted_of_carried {value : GroupCommand} (isValue : command.value = .group value)
    (approved : GroupRules.standard.verify tx = .ok ()) : tx.GroupAccepted command value := by
  obtain ⟨_, _, accepted⟩ := standard_verify_eq_ok_iff.1 approved
  have selects := CommandValue.group?_eq_some_iff.2 isValue
  obtain ⟨rfl, rfl⟩ := Transaction.eq_of_select accepted.single carried selects
  exact accepted

theorem MembershipRules.accepted_of_carried {value : MembershipCommand}
    (isValue : command.value = .membership value)
    (approved : MembershipRules.standard.verify tx = .ok ()) :
    tx.MembershipAccepted command value := by
  obtain ⟨_, _, accepted⟩ := standard_verify_eq_ok_iff.1 approved
  have selects := CommandValue.membership?_eq_some_iff.2 isValue
  obtain ⟨rfl, rfl⟩ := Transaction.eq_of_select accepted.single carried selects
  exact accepted

end Carried

end Consortium
