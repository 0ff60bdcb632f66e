import Consortium.Contract.Group
import Consortium.Proofs.Contract.Initiator

/-!
What the standard contract of groups accepts: exactly one group command, the structural rules, and
the condition of the command.
-/

namespace Consortium

theorem GroupRules.verifyAuthority_eq_ok_iff {tx : Transaction} {command : Command}
    {evolved : GroupState} :
    GroupRules.verifyAuthority tx command evolved = .ok () ↔
      tx.Authorized command evolved.toEntityHeader (some .modifyGroups) :=
  verifyInitiator_isOk_iff fun _ => by simp

namespace Transaction

variable (tx : Transaction) (command : Command)

/-- The condition of a command of the group family. -/
def PermitsGroup : GroupCommand → Prop
  | .bootstrap =>
      tx.inputs = [] ∧ tx.outputs.length = 2 ∧ (tx.outputsOf .group).length = 1 ∧
        (tx.outputsOf .membership).length = 1
  | .create =>
      ∃ output, (tx.evolution GroupState).output = some output ∧ tx.inputs = [] ∧
        tx.Authorized command output.toEntityHeader (some .modifyGroups)
  | .modify =>
      ∃ input output, (tx.evolution GroupState).input = some input ∧
        (tx.evolution GroupState).output = some output ∧
        (input.name ≠ output.name ∨ input.participants ≠ output.participants) ∧
        tx.Authorized command output.toEntityHeader (some .modifyGroups)
  | .exit =>
      ∃ input, (tx.evolution GroupState).input = some input ∧ tx.outputs = [] ∧
        tx.Authorized command input.toEntityHeader (some .modifyGroups)

/-- What acceptance by the contract of groups says about the only group command. -/
@[mk_iff]
structure GroupAccepted [Suite] (value : GroupCommand) : Prop where
  single : tx.selectCommands CommandValue.group? = [(command, value)]
  sound : StructurallySound GroupState tx command .group (decide (value = .bootstrap))
  permitted : tx.PermitsGroup command value

end Transaction

theorem GroupRules.verifyBootstrapShape_eq_ok_iff {tx : Transaction} {command : Command} :
    GroupRules.verifyBootstrapShape tx = .ok () ↔ tx.PermitsGroup command .bootstrap := by
  simp only [GroupRules.verifyBootstrapShape, check_bind_eq_ok_iff, require_eq_ok_iff,
    List.isEmpty_iff, Transaction.PermitsGroup]

theorem GroupRules.standard_verify_eq_ok_iff [Suite] {tx : Transaction} :
    GroupRules.standard.verify tx = .ok () ↔ ∃ command value, tx.GroupAccepted command value := by
  simp only [GroupRules.verify, bind_eq_ok_iff, Transaction.singleCommand_eq_ok_iff,
    verifyStructure_eq_ok_iff, Transaction.groupAccepted_iff, and_assoc, exists_and_left,
    exists_eq_left, Prod.exists]
  refine exists_congr fun command => exists_congr fun value => and_congr_right fun _ =>
    and_congr_right fun _ => ?_
  cases value with
  | bootstrap =>
      cases created : (tx.evolution GroupState).output with
      | none =>
          refine iff_of_false (fun impossible => ?_) fun permitted => ?_
          · cases impossible
          · obtain ⟨output, found⟩ :=
              Transaction.exists_evolution_output (ε := GroupState) permitted.2.2.1
            rw [created] at found
            cases found
      | some output => exact verifyBootstrapShape_eq_ok_iff
  | create =>
      cases created : (tx.evolution GroupState).output with
      | none => simp [Transaction.PermitsGroup, created]
      | some output =>
          simp [Transaction.PermitsGroup, created, standard, check_bind_eq_ok_iff,
            verifyAuthority_eq_ok_iff]
  | modify =>
      cases consumed : (tx.evolution GroupState).input with
      | none => simp [Transaction.PermitsGroup, consumed]
      | some input =>
          cases created : (tx.evolution GroupState).output with
          | none => simp [Transaction.PermitsGroup, created]
          | some output =>
              simp [Transaction.PermitsGroup, consumed, created, standard,
                check_bind_eq_ok_iff, verifyAuthority_eq_ok_iff]
  | exit =>
      cases consumed : (tx.evolution GroupState).input with
      | none => simp [Transaction.PermitsGroup, consumed]
      | some input =>
          simp [Transaction.PermitsGroup, consumed, standard, check_bind_eq_ok_iff,
            verifyAuthority_eq_ok_iff]

end Consortium
