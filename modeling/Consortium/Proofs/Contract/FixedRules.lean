import Consortium.Crypto.Standard
import Consortium.Proofs.Contract.Contents
import Consortium.Proofs.Crypto.Transparent
import Mathlib.Control.Monad.Basic

/-!
What no deployment can replace. The rules of the commands come in only after a fixed inspection, which
depends on nothing of a deployment but the contract id: what passes it keeps the structural rules,
and what breaks one of them is refused there, with the same error under all rules.
-/

namespace Consortium

section Signing

variable [Suite] {tx : Transaction} {contractId : ContractId}

namespace Transaction

/-- The structural rules for the states of one kind. A bootstrap may touch any number of them. -/
structure KeepsStructure (tx : Transaction) (kind : EntityKind) (contractId : ContractId)
    (command : Command) (isBootstrap : Prop) : Prop extends InOrder tx kind contractId command where
  few : ¬ isBootstrap → (tx.inputsOf kind).length ≤ 1 ∧ (tx.outputsOf kind).length ≤ 1
  succeeds : ¬ isBootstrap → ∀ consumed ∈ tx.inputsOf kind, ∀ created ∈ tx.outputsOf kind,
    created.data.header.Succeeds consumed.state.data.header

def KeepsGroupRules (tx : Transaction) (contractId : ContractId) : Prop :=
  ∃ command value,
    tx.commands.filter (fun candidate => candidate.value.group?.isSome) = [command] ∧
      command.value = .group value ∧
      tx.KeepsStructure .group contractId command (value = .bootstrap)

/-- Every membership that is created has its owner among its participants, and the owner of one that
is consumed. -/
def KeepsOwners (tx : Transaction) : Prop :=
  ∀ created ∈ tx.outputs, ∀ output, created.membership? = some output →
    output.owner ∈ output.participants ∧
      ∀ consumed ∈ tx.inputs, ∀ input, consumed.membership? = some input →
        input.owner = output.owner

def KeepsMembershipRules (tx : Transaction) (contractId : ContractId) : Prop :=
  ∃ command value,
    tx.commands.filter (fun candidate => candidate.value.membership?.isSome) = [command] ∧
      command.value = .membership value ∧
      tx.KeepsStructure .membership contractId command (value = .bootstrap) ∧
      (value ≠ .bootstrap → tx.KeepsOwners)

end Transaction

theorem StructurallySound.keepsStructure {ε : Type} [LinearEntity ε] [LawfulEntity ε]
    {command : Command} {isBootstrap : Prop} [Decidable isBootstrap]
    (sound : StructurallySound ε tx command contractId (decide isBootstrap)) :
    tx.KeepsStructure (LinearEntity.kind ε) contractId command isBootstrap := by
  have few (later : ¬ isBootstrap) : (tx.inputsOf (LinearEntity.kind ε)).length ≤ 1 ∧
      (tx.outputsOf (LinearEntity.kind ε)).length ≤ 1 := by
    have single : ¬ decide isBootstrap = true := by simp [later]
    exact ⟨sound.oneInput.resolve_left single, sound.oneOutput.resolve_left single⟩
  refine ⟨sound.inOrder, few, ?_⟩
  intro later consumed isConsumed created isCreated
  obtain ⟨isInput, inputKind⟩ := Transaction.mem_inputsOf.1 isConsumed
  obtain ⟨isOutput, outputKind⟩ := Transaction.mem_outputsOf.1 isCreated
  obtain ⟨input, ofInput⟩ :=
    LawfulEntity.exists_of_kind (ε := ε) consumed.state.data inputKind
  obtain ⟨output, ofOutput⟩ := LawfulEntity.exists_of_kind (ε := ε) created.data outputKind
  rw [LawfulEntity.header_of_some _ _ ofInput, LawfulEntity.header_of_some _ _ ofOutput]
  apply sound.succeeds
  · exact Transaction.evolution_input_of_mem (few later).1 isInput ofInput
  · exact Transaction.evolution_output_of_mem (few later).2 isOutput ofOutput

namespace GroupRules

/-- The part of the verdict on a transaction in which no rule of a command has a say. -/
def inspect (contractId : ContractId) (tx : Transaction) :
    Except ValidationError (Evolution GroupState) := do
  let picked ← tx.singleCommand .group CommandValue.group?
  verifyStructure GroupState tx picked.1 contractId (decide (picked.2 = .bootstrap))

theorem verify_of_inspect_error {rules : GroupRules} {failure : ValidationError}
    (refused : inspect rules.contractId tx = .error failure) :
    rules.verify tx = .error failure := by
  refine bind_eq_error_iff.2 ((bind_eq_error_iff.1 refused).imp_right ?_)
  intro ⟨picked, isPicked, examined⟩
  exact ⟨picked, isPicked, bind_eq_error_iff.2 (.inl examined)⟩

theorem keepsRules_of_inspect {evolution : Evolution GroupState}
    (passed : inspect contractId tx = .ok evolution) : tx.KeepsGroupRules contractId := by
  obtain ⟨⟨command, value⟩, picked, examined⟩ := bind_eq_ok_iff.1 passed
  have single := Transaction.singleCommand_eq_ok_iff.1 picked
  obtain ⟨isOnly, selected⟩ := Transaction.selectCommands_eq_singleton_iff.1 single
  have sound := (verifyStructure_eq_ok_iff.1 examined).1
  exact ⟨command, value, isOnly, CommandValue.group?_eq_some_iff.1 selected, sound.keepsStructure⟩

end GroupRules

namespace MembershipRules

def inspect (contractId : ContractId) (tx : Transaction) : Verdict := do
  let picked ← tx.singleCommand .membership CommandValue.membership?
  let evolution ← verifyStructure MembershipState tx picked.1 contractId
    (decide (picked.2 = .bootstrap))
  verifyOwners evolution

theorem verify_of_inspect_error {rules : MembershipRules} {failure : ValidationError}
    (refused : inspect rules.contractId tx = .error failure) :
    rules.verify tx = .error failure := by
  refine bind_eq_error_iff.2 ((bind_eq_error_iff.1 refused).imp_right ?_)
  intro ⟨picked, isPicked, examined⟩
  refine ⟨picked, isPicked, bind_eq_error_iff.2 ((bind_eq_error_iff.1 examined).imp_right ?_)⟩
  intro ⟨evolution, isEvolution, strayed⟩
  exact ⟨evolution, isEvolution, bind_eq_error_iff.2 (.inl strayed)⟩

theorem keepsRules_of_inspect (passed : inspect contractId tx = .ok ()) :
    tx.KeepsMembershipRules contractId := by
  obtain ⟨⟨command, value⟩, picked, passed⟩ := bind_eq_ok_iff.1 passed
  obtain ⟨evolution, examined, passed⟩ := bind_eq_ok_iff.1 passed
  have single := Transaction.singleCommand_eq_ok_iff.1 picked
  obtain ⟨isOnly, selected⟩ := Transaction.selectCommands_eq_singleton_iff.1 single
  obtain ⟨sound, rfl⟩ := verifyStructure_eq_ok_iff.1 examined
  have keeps := sound.keepsStructure
  refine ⟨command, value, isOnly, CommandValue.membership?_eq_some_iff.1 selected, keeps, ?_⟩
  intro later created isOutput output ofOutput
  obtain ⟨participates, kept⟩ := verifyOwners_eq_ok_iff.1 passed
  obtain ⟨fewInputs, fewOutputs⟩ := keeps.few later
  have isSecond := Transaction.evolution_output_of_mem fewOutputs isOutput ofOutput
  refine ⟨participates output isSecond, fun consumed isInput input ofInput => ?_⟩
  have isFirst := Transaction.evolution_input_of_mem fewInputs isInput ofInput
  exact kept input output isFirst isSecond

end MembershipRules

theorem GroupRules.keeps_or_refused (contractId : ContractId) :
    tx.KeepsGroupRules contractId ∨ ∃ failure, ∀ rules : GroupRules,
      rules.contractId = contractId → rules.verify tx = .error failure := by
  cases inspected : inspect contractId tx with
  | error failure =>
      refine .inr ⟨failure, fun rules same => verify_of_inspect_error ?_⟩
      rw [same, inspected]
  | ok evolution => exact .inl (keepsRules_of_inspect inspected)

theorem MembershipRules.keeps_or_refused (contractId : ContractId) :
    tx.KeepsMembershipRules contractId ∨ ∃ failure, ∀ rules : MembershipRules,
      rules.contractId = contractId → rules.verify tx = .error failure := by
  cases inspected : inspect contractId tx with
  | error failure =>
      refine .inr ⟨failure, fun rules same => verify_of_inspect_error ?_⟩
      rw [same, inspected]
  | ok => exact .inl (keepsRules_of_inspect inspected)

omit [Suite] in
/-- What is refused with one error under all rules that share an id, unless it keeps some rules,
keeps them wherever it is accepted. -/
theorem stand_of_keeps_or_refused {ρ : Type} {idOf : ρ → ContractId} {verdict : ρ → Verdict}
    {keeps : ContractId → Prop}
    (decided : ∀ id, keeps id ∨ ∃ failure, ∀ rules, idOf rules = id →
      verdict rules = .error failure) :
    (∀ rules, verdict rules = .ok () → keeps (idOf rules)) ∧
      ∀ rules other, idOf rules = idOf other → ¬ keeps (idOf rules) →
        ∃ failure, verdict rules = .error failure ∧ verdict other = .error failure := by
  constructor
  · intro rules accepted
    rcases decided (idOf rules) with kept | ⟨failure, refused⟩
    · exact kept
    · rw [refused rules rfl] at accepted
      cases accepted
  · intro rules other same breaks
    obtain ⟨failure, refused⟩ := (decided (idOf rules)).resolve_left breaks
    exact ⟨failure, refused rules rfl, refused other same.symm⟩

/-- Whatever the rules of the commands are, what a contract accepts keeps the structural rules, and
what breaks one of them is refused with an error that only depends on the contract id. -/
theorem structural_rules_stand (tx : Transaction) :
    ((∀ rules : GroupRules, rules.verify tx = .ok () → tx.KeepsGroupRules rules.contractId) ∧
      ∀ rules other : GroupRules, rules.contractId = other.contractId →
        ¬ tx.KeepsGroupRules rules.contractId →
        ∃ failure, rules.verify tx = .error failure ∧ other.verify tx = .error failure) ∧
    (∀ rules : MembershipRules, rules.verify tx = .ok () →
      tx.KeepsMembershipRules rules.contractId) ∧
    ∀ rules other : MembershipRules, rules.contractId = other.contractId →
      ¬ tx.KeepsMembershipRules rules.contractId →
      ∃ failure, rules.verify tx = .error failure ∧ other.verify tx = .error failure :=
  ⟨stand_of_keeps_or_refused GroupRules.keeps_or_refused,
    stand_of_keeps_or_refused MembershipRules.keeps_or_refused⟩

end Signing

/-! ### A club with its own rules -/

section Specimen

open Transparent

def club : ContractId := ⟨"Club"⟩

def GroupRules.uniform (verdict : Verdict) : GroupRules where
  contractId := club
  verifyBootstrap _ _ _ := verdict
  verifyCreate _ _ _ := verdict
  verifyModify _ _ _ _ := verdict
  verifyExit _ _ _ := verdict

def MembershipRules.uniform (verdict : Verdict) : MembershipRules where
  contractId := club
  verifyBootstrap _ _ _ := verdict
  verifyRequest _ _ _ := verdict
  verifyActivate _ _ _ _ := verdict
  verifySuspend _ _ _ _ := verdict
  verifyModifyRoles _ _ _ _ := verdict
  verifyModifyBusinessIdentity _ _ _ _ := verdict
  verifyModifyParticipants _ _ _ _ := verdict
  verifyRevoke _ _ _ := verdict

def offSeason : Verdict := .error (.rejected "Club" "closed for the season")

/-- Nobody signs it and nobody is asked, which is all the same to rules that let everything pass. -/
def clubNight : Transaction :=
  { Transaction.empty with
    inputs :=
      [⟨⟨.group (groupOf founder), club⟩, ⟨.zero, 0⟩⟩,
        ⟨⟨.membership joinersMembership, club⟩, ⟨.zero, 1⟩⟩]
    outputs :=
      [⟨.group { groupOf founder with name := some "Night" }, club⟩,
        ⟨.membership { joinersMembership with status := .active }, club⟩]
    commands := [⟨.group .modify, .empty⟩, ⟨.membership .activate, .empty⟩] }

/-- It creates everything twice. -/
def clubFlood : Transaction := { clubNight with outputs := clubNight.outputs ++ clubNight.outputs }

theorem clubFlood_breaks_group_rules : ¬ clubFlood.KeepsGroupRules club := by
  intro ⟨command, value, isOnly, named, keeps⟩
  have same : [⟨.group .modify, .empty⟩] = [command] := isOnly
  cases same
  cases named
  exact absurd (keeps.few (by decide)).2 (by decide)

theorem clubFlood_breaks_membership_rules : ¬ clubFlood.KeepsMembershipRules club := by
  intro ⟨command, value, isOnly, named, keeps, _⟩
  have same : [⟨.membership .activate, .empty⟩] = [command] := isOnly
  cases same
  cases named
  exact absurd (keeps.few (by decide)).2 (by decide)

theorem club_rules_stand :
    ((GroupRules.uniform (.ok ())).verify clubNight = .ok () ∧ clubNight.KeepsGroupRules club) ∧
    ((MembershipRules.uniform (.ok ())).verify clubNight = .ok () ∧
      clubNight.KeepsMembershipRules club) ∧
    (¬ clubFlood.KeepsGroupRules club ∧ ∃ failure,
      (GroupRules.uniform (.ok ())).verify clubFlood = .error failure ∧
        (GroupRules.uniform offSeason).verify clubFlood = .error failure) ∧
    ¬ clubFlood.KeepsMembershipRules club ∧ ∃ failure,
      (MembershipRules.uniform (.ok ())).verify clubFlood = .error failure ∧
        (MembershipRules.uniform offSeason).verify clubFlood = .error failure := by
  have groupsPass : (GroupRules.uniform (.ok ())).verify clubNight = .ok () := by decide +kernel
  have membershipsPass : (MembershipRules.uniform (.ok ())).verify clubNight = .ok () := by
    decide +kernel
  have ⟨⟨keptGroups, _⟩, keptMemberships, _⟩ := structural_rules_stand clubNight
  have ⟨⟨_, sameGroups⟩, _, sameMemberships⟩ := structural_rules_stand clubFlood
  exact ⟨⟨groupsPass, keptGroups _ groupsPass⟩, ⟨membershipsPass, keptMemberships _ membershipsPass⟩,
    ⟨clubFlood_breaks_group_rules, sameGroups _ _ rfl clubFlood_breaks_group_rules⟩,
    clubFlood_breaks_membership_rules,
    sameMemberships _ _ rfl clubFlood_breaks_membership_rules⟩

end Specimen

end Consortium
