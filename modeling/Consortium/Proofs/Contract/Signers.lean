import Consortium.Proofs.Contract.Perspective

/-!
Who has signed an accepted transaction. A contract compares the keys that have signed with those
that the command of its family requires. A command whose contract no state names is not examined,
and whom it requires does not matter.
-/

namespace Consortium

namespace EntityKind

theorem signed_of_standardVerify [Suite] {kind : EntityKind} {tx : Transaction}
    (approved : kind.standardVerify tx = .ok ()) :
    ∃ command, tx.commandsOf kind = [command] ∧ tx.signers = command.signers := by
  cases kind with
  | group =>
      obtain ⟨command, _, accepted⟩ := GroupRules.standard_verify_eq_ok_iff.1 approved
      have ofFamily (value : CommandValue) := @CommandValue.group?_isSome_iff value
      have single := (Transaction.selectCommands_eq_iff_commandsOf ofFamily).1 accepted.single
      exact ⟨command, single.1, accepted.sound.signed⟩
  | membership =>
      obtain ⟨command, _, accepted⟩ := MembershipRules.standard_verify_eq_ok_iff.1 approved
      have ofFamily (value : CommandValue) := @CommandValue.membership?_isSome_iff value
      have single := (Transaction.selectCommands_eq_iff_commandsOf ofFamily).1 accepted.single
      exact ⟨command, single.1, accepted.sound.signed⟩

end EntityKind

namespace Registry

/-- Exactly the required keys have signed for a command of an accepted transaction, which is the only
one of its family, if a state names the contract of that family. If none does, the transaction would
be accepted with any other commands of that family. -/
theorem signers_of_carried_command [Suite] {tx : Transaction}
    (accepted : standard.verify tx = .ok ()) {command : Command} (carried : command ∈ tx.commands) :
    ((∃ state ∈ tx.touched, state.contract = command.value.family.contractId) →
      tx.commandsOf command.value.family = [command] ∧
        ∀ key, key ∈ command.signers ↔
          ∃ signature ∈ tx.signatures, signature.signer = key ∧ tx.verifies signature) ∧
    ((∀ state ∈ tx.touched, state.contract ≠ command.value.family.contractId) →
      ∀ kind other, kind ≠ command.value.family → tx.LooksAlike kind other →
        standard.verify other = .ok ()) := by
  constructor
  · intro ⟨state, touched, named⟩
    obtain ⟨only, single, signed⟩ :=
      EntityKind.signed_of_standardVerify (standardVerify_of_named accepted touched named)
    have isOnly : command ∈ tx.commandsOf command.value.family :=
      List.mem_filter.2 ⟨carried, decide_eq_true rfl⟩
    rw [single, List.mem_singleton] at isOnly
    subst isOnly
    refine ⟨single, fun key => ?_⟩
    rw [← signed, Transaction.mem_signers]
  · intro unnamed kind other otherFamily alike
    rw [standard_verify_eq alike.inputs alike.outputs fun named ⟨state, touched, isNamed⟩ => ?_]
    · exact accepted
    · -- The contract that is named is the one of the other family.
      have sameKind : named = kind := by
        have notCarried : named ≠ command.value.family := fun same =>
          unnamed state touched (same ▸ isNamed)
        revert otherFamily notCarried
        cases named <;> cases kind <;> cases command.value.family <;> decide
      exact sameKind ▸ alike

section Specimens

open Transparent

/-- It asks for a membership, and brings along a command on groups for which the founder would have
to sign. -/
def ladenApplication : Transaction :=
  @Transaction.sign suite
    { Transaction.empty with
      outputs := [.ofMembership joinersMembership]
      commands :=
        [⟨.membership .request, .singleton joiner.owningKey⟩,
          ⟨.group .exit, .singleton founder.owningKey⟩] } (keys 2)

def mereCommand : Transaction :=
  { Transaction.empty with commands := [⟨.group .create, .singleton founder.owningKey⟩] }

set_option maxRecDepth 10000 in
/-- The commands of a founding are signed for as they require. Of an application the command on
memberships is, and the application would pass with any commands on groups. -/
theorem signers_of_founding :
    letI := suite
    (∀ command ∈ founding.commands, ∀ key, key ∈ command.signers ↔
      ∃ signature ∈ founding.signatures, signature.signer = key ∧ founding.verifies signature) ∧
      ∀ other, ladenApplication.LooksAlike .membership other →
        standard.verify other = .ok () := by
  have founded : (@standard suite).verify founding = .ok () := by decide +kernel
  have applied : (@standard suite).verify ladenApplication = .ok () := by decide +kernel
  constructor
  · intro command carried
    have named : ∃ state ∈ founding.touched,
        state.contract = command.value.family.contractId := by
      revert command
      decide +kernel
    exact ((@signers_of_carried_command suite _ founded _ carried).1 named).2
  · intro other alike
    have carried : (⟨.group .exit, .singleton founder.owningKey⟩ : Command) ∈
        ladenApplication.commands := by decide +kernel
    have unnamed : ∀ state ∈ ladenApplication.touched,
        state.contract ≠ EntityKind.group.contractId := by decide +kernel
    exact (@signers_of_carried_command suite _ applied _ carried).2 unnamed .membership other
      (by decide) alike

set_option maxRecDepth 10000 in
/-- Accepted transactions carry commands for which the founder is to sign, and the founder has not
signed them: one of these transactions has only a command on memberships to show to a contract, the
other one has no states at all. -/
theorem carried_command_without_signers :
    letI := suite
    (standard.verify ladenApplication = .ok () ∧
      ∃ command ∈ ladenApplication.commands, founder.owningKey ∈ command.signers ∧
        ¬∃ signature ∈ ladenApplication.signatures,
          signature.signer = founder.owningKey ∧ ladenApplication.verifies signature) ∧
    standard.verify mereCommand = .ok () ∧
      ∃ command ∈ mereCommand.commands, founder.owningKey ∈ command.signers ∧
        mereCommand.signatures = [] := by
  refine ⟨⟨?_, ?_⟩, ?_, ?_⟩ <;> decide +kernel

end Specimens

end Registry

end Consortium
