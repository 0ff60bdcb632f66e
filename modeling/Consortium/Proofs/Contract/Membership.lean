import Consortium.Contract.Membership
import Consortium.Proofs.Contract.Initiator

/-!
What the standard contract of memberships accepts: exactly one membership command, the structural
rules, the rules on owners, and the condition of the command.
-/

namespace Consortium

namespace MembershipCommand

/-- What the initiator of a command has to hold. -/
def permission : MembershipCommand → Option Permission
  | .activate => some .activateMembership
  | .suspend => some .suspendMembership
  | .modifyRoles => some .modifyRoles
  | .modifyBusinessIdentity => some .modifyBusinessIdentity
  | .revoke => some .revokeMembership
  | .bootstrap | .request | .modifyParticipants => none

/-- The change that a transition makes, and nothing else. -/
def Changes (input output : MembershipState) : MembershipCommand → Prop
  | .activate =>
      input.status ≠ .active ∧ output.status = .active ∧ input.roles = output.roles ∧
        input.business = output.business
  | .suspend =>
      input.status ≠ .suspended ∧ output.status = .suspended ∧ input.roles = output.roles ∧
        input.business = output.business
  | .modifyRoles =>
      input.status = output.status ∧ input.business = output.business ∧
        input.roles ≠ output.roles
  | .modifyBusinessIdentity =>
      input.status = output.status ∧ input.roles = output.roles ∧
        input.business ≠ output.business
  | .modifyParticipants =>
      input.status = output.status ∧ input.roles = output.roles ∧
        input.business = output.business ∧ input.participants ≠ output.participants
  | .bootstrap | .request | .revoke => False

end MembershipCommand

namespace Transaction

variable (tx : Transaction) (command : Command)

/-- The condition of a command that turns one membership into its next version. -/
def PermitsTransition (value : MembershipCommand) : Prop :=
  ∃ input output, (tx.evolution MembershipState).input = some input ∧
    (tx.evolution MembershipState).output = some output ∧ value.Changes input output ∧
    tx.Authorized command output.toEntityHeader value.permission

def PermitsMembership : MembershipCommand → Prop
  | .bootstrap =>
      ∃ output, (tx.evolution MembershipState).output = some output ∧ tx.inputs = [] ∧
        (tx.outputsOf .membership).length = 1 ∧ output.status = .active ∧ output.isOperator ∧
        output.owner.owningKey ∈ command.signers
  | .request =>
      ∃ output, (tx.evolution MembershipState).output = some output ∧ tx.inputs = [] ∧
        output.status = .pending ∧ output.roles.isEmpty ∧
        output.owner.owningKey ∈ command.signers
  | .revoke =>
      ∃ input, (tx.evolution MembershipState).input = some input ∧ tx.outputs = [] ∧
        tx.Authorized command input.toEntityHeader (some .revokeMembership)
  | value => tx.PermitsTransition command value

/-- What acceptance by the contract of memberships says about the only membership command. -/
@[mk_iff]
structure MembershipAccepted [Suite] (value : MembershipCommand) : Prop where
  single : tx.selectCommands CommandValue.membership? = [(command, value)]
  sound : StructurallySound MembershipState tx command .membership (decide (value = .bootstrap))
  ownerParticipates : ∀ output, (tx.evolution MembershipState).output = some output →
    output.owner ∈ output.participants
  ownerKept : ∀ input output, (tx.evolution MembershipState).input = some input →
    (tx.evolution MembershipState).output = some output → input.owner = output.owner
  permitted : tx.PermitsMembership command value

end Transaction

namespace MembershipRules

theorem verifyAuthority_eq_ok_iff {tx : Transaction} {command : Command}
    {evolved : MembershipState} {permission : Option Permission}
    {isAuthorized : MembershipState → Bool}
    (asks : ∀ initiator, isAuthorized initiator ↔
      ∀ asked, permission = some asked → initiator.holds asked) :
    MembershipRules.verifyAuthority tx command evolved isAuthorized = .ok () ↔
      tx.Authorized command evolved.toEntityHeader permission :=
  verifyInitiator_isOk_iff asks

theorem verifyOwners_eq_ok_iff {evolution : Evolution MembershipState} :
    verifyOwners evolution = .ok () ↔
      (∀ output, evolution.output = some output → output.owner ∈ output.participants) ∧
      ∀ input output, evolution.input = some input → evolution.output = some output →
        input.owner = output.owner := by
  obtain ⟨input, output⟩ := evolution
  cases output with
  | none => cases input <;> simp [verifyOwners, bind, Except.bind]
  | some output =>
      cases input <;>
        simp [verifyOwners, check_bind_eq_ok_iff, verifyOwnerParticipates, verifyOwnerKept]

section Rules

variable {tx : Transaction} {command : Command}

theorem verifyIssuance_eq_ok_iff {value : MembershipCommand} {rule : MembershipState → Verdict} :
    verifyIssuance (tx.evolution MembershipState) value rule = .ok () ↔
      ∃ output, (tx.evolution MembershipState).output = some output ∧ rule output = .ok () := by
  unfold verifyIssuance
  split
  · rename_i output created
    simp [created]
  · rename_i absent
    simp [absent]

theorem verifyTransition_eq_ok_iff {value : MembershipCommand}
    {rule : (input output : MembershipState) → Verdict} :
    verifyTransition (tx.evolution MembershipState) value rule = .ok () ↔
      ∃ input output, (tx.evolution MembershipState).input = some input ∧
        (tx.evolution MembershipState).output = some output ∧ rule input output = .ok () := by
  unfold verifyTransition
  split
  · rename_i input output consumed created
    simp [consumed, created]
  · rename_i absent
    simp [absent]
  · rename_i absent
    simp [absent]

theorem transition_eq_ok_iff {value : MembershipCommand}
    {rule : (input output : MembershipState) → Verdict} (isAuthorized : MembershipState → Bool)
    (asks : ∀ initiator, isAuthorized initiator ↔
      ∀ asked, value.permission = some asked → initiator.holds asked)
    (checks : ∀ input output, rule input output = .ok () ↔
      value.Changes input output ∧ verifyAuthority tx command output isAuthorized = .ok ()) :
    verifyTransition (tx.evolution MembershipState) value rule = .ok () ↔
      tx.PermitsTransition command value := by
  simp only [verifyTransition_eq_ok_iff, checks, verifyAuthority_eq_ok_iff asks,
    Transaction.PermitsTransition]

end Rules

theorem standard_verify_eq_ok_iff [Suite] {tx : Transaction} :
    MembershipRules.standard.verify tx = .ok () ↔
      ∃ command value, tx.MembershipAccepted command value := by
  simp only [MembershipRules.verify, bind_eq_ok_iff (α := Command × MembershipCommand),
    bind_eq_ok_iff (α := Evolution MembershipState), check_bind_eq_ok_iff,
    Transaction.singleCommand_eq_ok_iff, verifyStructure_eq_ok_iff, verifyOwners_eq_ok_iff,
    Transaction.membershipAccepted_iff, and_assoc, exists_and_left, exists_eq_left, Prod.exists]
  refine exists_congr fun command => exists_congr fun value => and_congr_right fun _ =>
    and_congr_right fun _ => and_congr_right fun _ => and_congr_right fun _ => ?_
  cases value with
  | bootstrap =>
      refine verifyIssuance_eq_ok_iff.trans ?_
      simp [Transaction.PermitsMembership, standard, check_bind_eq_ok_iff, ownerSigns,
        MembershipState.isActive]
  | request =>
      refine verifyIssuance_eq_ok_iff.trans ?_
      simp [Transaction.PermitsMembership, standard, check_bind_eq_ok_iff, ownerSigns,
        MembershipState.isPending]
  | activate =>
      refine transition_eq_ok_iff (fun initiator => initiator.holds .activateMembership)
        (by simp [MembershipCommand.permission]) fun input output => ?_
      simp [standard, check_bind_eq_ok_iff, keepsRoles, keepsBusiness,
        MembershipState.isActive, and_assoc, MembershipCommand.Changes]
  | suspend =>
      refine transition_eq_ok_iff (fun initiator => initiator.holds .suspendMembership)
        (by simp [MembershipCommand.permission]) fun input output => ?_
      simp [standard, check_bind_eq_ok_iff, keepsRoles, keepsBusiness,
        MembershipState.isSuspended, and_assoc, MembershipCommand.Changes]
  | modifyRoles =>
      refine transition_eq_ok_iff (fun initiator => initiator.holds .modifyRoles)
        (by simp [MembershipCommand.permission]) fun input output => ?_
      simp [standard, check_bind_eq_ok_iff, keepsStatus, keepsBusiness, and_assoc,
        MembershipCommand.Changes]
  | modifyBusinessIdentity =>
      refine transition_eq_ok_iff (fun initiator => initiator.holds .modifyBusinessIdentity)
        (by simp [MembershipCommand.permission]) fun input output => ?_
      simp [standard, check_bind_eq_ok_iff, keepsStatus, keepsRoles, and_assoc,
        MembershipCommand.Changes]
  | modifyParticipants =>
      refine transition_eq_ok_iff (fun _ => true)
        (by simp [MembershipCommand.permission]) fun input output => ?_
      simp [standard, check_bind_eq_ok_iff, keepsStatus, keepsRoles, keepsBusiness, and_assoc,
        MembershipCommand.Changes]
  | revoke =>
      cases consumed : (tx.evolution MembershipState).input with
      | none => simp [Transaction.PermitsMembership, consumed]
      | some input =>
          simp only [Transaction.PermitsMembership, consumed, standard, check_bind_eq_ok_iff,
            require_eq_ok_iff, List.isEmpty_iff, Option.some.injEq, exists_eq_left']
          exact and_congr_right fun _ => verifyAuthority_eq_ok_iff fun _ => by simp

end MembershipRules

end Consortium
