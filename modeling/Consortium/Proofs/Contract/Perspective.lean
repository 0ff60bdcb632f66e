import Consortium.Proofs.Contract.Contents
import Consortium.Proofs.Contract.Registry
import Mathlib.Data.List.Basic

/-!
What a verdict depends on. A contract looks at the states that a transaction consumes and creates,
at the memberships it refers to, at the commands of its own family and at the keys that have signed.
To everything else it is blind: to the contracts that stand behind the references, and to the
commands of the other family.
-/

namespace Consortium

namespace CommandValue

def family : CommandValue → EntityKind
  | .group _ => .group
  | .membership _ => .membership

theorem group?_isSome_iff {value : CommandValue} : value.group?.isSome ↔ value.family = .group := by
  cases value <;> simp [group?, family]

theorem membership?_isSome_iff {value : CommandValue} :
    value.membership?.isSome ↔ value.family = .membership := by
  cases value <;> simp [membership?, family]

end CommandValue

namespace Transaction

def commandsOf (tx : Transaction) (kind : EntityKind) : List Command :=
  tx.commands.filter fun command => decide (command.value.family = kind)

/-- The references as a contract sees them, which is without the contracts that they stand under. -/
def referredMemberships (tx : Transaction) : List (Option MembershipState) :=
  tx.references.map StateAndRef.membership?

/-- The contract of this kind cannot tell the two transactions apart. -/
structure LooksAlike [Suite] (tx : Transaction) (kind : EntityKind) (other : Transaction) :
    Prop where
  inputs : other.inputs = tx.inputs
  outputs : other.outputs = tx.outputs
  references : other.referredMemberships = tx.referredMemberships
  commands : other.commandsOf kind = tx.commandsOf kind
  signers : other.signers = tx.signers

/-! ### References and commands -/

theorem verifyReferences_eq (tx : Transaction) :
    verifyReferences tx =
      match tx.referredMemberships with
      | [] => .ok ()
      | [found] => require found.isSome .referenceNotMembership
      | many => .error (.tooManyReferences many.length) := by
  unfold verifyReferences referredMemberships
  match tx.references with
  | [] => rfl
  | [_] => rfl
  | _ :: _ :: _ => simp

/-- The choice among what is found where the initiator is looked for. -/
def chooseInitiator (source : String) :
    List (Option MembershipState) → Except ValidationError MembershipState
  | [some initiator] => .ok initiator
  | [none] => .error (.initiatorUnresolved (source ++ " state is not a membership"))
  | others =>
      .error (.initiatorUnresolved
        ("expected exactly one " ++ source ++ " state, found " ++ toString others.length))

theorem resolveInitiator_eq (tx : Transaction) :
    tx.resolveInitiator = chooseInitiator tx.initiatorSource.1
      (tx.initiatorSource.2.map StateAndRef.membership?) := by
  unfold resolveInitiator
  generalize tx.initiatorSource = origin
  obtain ⟨source, candidates⟩ := origin
  match candidates with
  | [] => rfl
  | [single] => cases found : single.membership? <;> simp [chooseInitiator, found]
  | _ :: _ :: _ => simp [chooseInitiator]

theorem selectCommands_eq {τ : Type} {kind : EntityKind} {select : CommandValue → Option τ}
    (ofFamily : ∀ value, (select value).isSome → value.family = kind) (tx : Transaction) :
    tx.selectCommands select = (tx.commandsOf kind).filterMap fun command =>
      (select command.value).map fun value => (command, value) := by
  rw [selectCommands, commandsOf, List.filterMap_filter]
  refine List.filterMap_congr fun command _ => ?_
  split
  · rfl
  · rename_i stray
    cases selected : select command.value with
    | none => rfl
    | some value =>
        have family := ofFamily command.value (by rw [selected]; rfl)
        exact absurd (decide_eq_true family) stray

theorem selectCommands_eq_iff_commandsOf {τ : Type} {kind : EntityKind}
    {select : CommandValue → Option τ}
    (ofFamily : ∀ value, (select value).isSome ↔ value.family = kind) {tx : Transaction}
    {command : Command} {value : τ} :
    tx.selectCommands select = [(command, value)] ↔
      tx.commandsOf kind = [command] ∧ select command.value = some value := by
  have sameFilter : tx.commandsOf kind =
      tx.commands.filter fun candidate => (select candidate.value).isSome := by
    refine List.filter_congr fun candidate _ => ?_
    rw [Bool.eq_iff_iff, decide_eq_true_iff]
    exact (ofFamily candidate.value).symm
  rw [selectCommands_eq_singleton_iff, sameFilter]

/-! ### Contracts -/

namespace LooksAlike

variable [Suite] {tx other : Transaction} {kind : EntityKind} (alike : tx.LooksAlike kind other)

include alike

theorem inputsOf (ofKind : EntityKind) : other.inputsOf ofKind = tx.inputsOf ofKind := by
  rw [Transaction.inputsOf, alike.inputs, Transaction.inputsOf]

theorem outputsOf (ofKind : EntityKind) : other.outputsOf ofKind = tx.outputsOf ofKind := by
  rw [Transaction.outputsOf, alike.outputs, Transaction.outputsOf]

theorem verifyReferences : verifyReferences other = verifyReferences tx := by
  rw [verifyReferences_eq, verifyReferences_eq, alike.references]

theorem verifySigners : verifySigners other = verifySigners tx := by
  funext command
  rw [Consortium.verifySigners, Consortium.verifySigners, alike.signers]

theorem verifyStructure (ε : Type) [LinearEntity ε] :
    verifyStructure ε other = verifyStructure ε tx := by
  funext command contractId multipleAllowed
  simp only [Consortium.verifyStructure, alike.inputsOf, alike.outputsOf, alike.verifyReferences,
    alike.verifySigners]

theorem initiatorSource :
    other.initiatorSource.1 = tx.initiatorSource.1 ∧
      other.initiatorSource.2.map StateAndRef.membership? =
        tx.initiatorSource.2.map StateAndRef.membership? := by
  have bothEmpty : other.references.isEmpty = tx.references.isEmpty := by
    have same := congrArg List.isEmpty alike.references
    simpa only [referredMemberships, List.isEmpty_map] using same
  unfold Transaction.initiatorSource
  rw [bothEmpty, alike.inputs]
  split
  · exact ⟨rfl, rfl⟩
  · exact ⟨rfl, alike.references⟩

theorem resolveInitiator : other.resolveInitiator = tx.resolveInitiator := by
  obtain ⟨sameSource, sameCandidates⟩ := alike.initiatorSource
  rw [resolveInitiator_eq, sameSource, sameCandidates, resolveInitiator_eq]

theorem verifyInitiator : verifyInitiator other = verifyInitiator tx := by
  funext networkId participants requiredSigners isAuthorized
  rw [Consortium.verifyInitiator, alike.resolveInitiator, Consortium.verifyInitiator]

theorem singleCommand {τ : Type} {select : CommandValue → Option τ}
    (ofFamily : ∀ value, (select value).isSome → value.family = kind) :
    other.singleCommand kind select = tx.singleCommand kind select := by
  simp only [Transaction.singleCommand, selectCommands_eq ofFamily, alike.commands]

end LooksAlike

end Transaction

section Signing

variable [Suite] {tx other : Transaction}

theorem GroupRules.standard_verify_eq (alike : tx.LooksAlike .group other) :
    GroupRules.standard.verify other = GroupRules.standard.verify tx := by
  have ofFamily (value : CommandValue) := (@CommandValue.group?_isSome_iff value).1
  simp only [verify, standard, verifyBootstrapShape, verifyAuthority, alike.singleCommand ofFamily,
    alike.verifyStructure, alike.verifyInitiator, alike.inputs, alike.outputs, alike.outputsOf]

theorem MembershipRules.standard_verify_eq (alike : tx.LooksAlike .membership other) :
    MembershipRules.standard.verify other = MembershipRules.standard.verify tx := by
  have ofFamily (value : CommandValue) := (@CommandValue.membership?_isSome_iff value).1
  simp only [verify, standard, verifyAuthority, alike.singleCommand ofFamily,
    alike.verifyStructure, alike.verifyInitiator, alike.inputs, alike.outputs, alike.outputsOf]

theorem EntityKind.standardVerify_eq {kind : EntityKind} (alike : tx.LooksAlike kind other) :
    kind.standardVerify other = kind.standardVerify tx := by
  cases kind with
  | group => exact GroupRules.standard_verify_eq alike
  | membership => exact MembershipRules.standard_verify_eq alike

/-- Two transactions with the same states get the same verdict if every contract that these states
name sees no difference between them. -/
theorem Registry.standard_verify_eq (inputs : other.inputs = tx.inputs)
    (outputs : other.outputs = tx.outputs)
    (alike : ∀ kind : EntityKind, (∃ state ∈ tx.touched, state.contract = kind.contractId) →
      tx.LooksAlike kind other) :
    standard.verify other = standard.verify tx := by
  have named : namedContracts other = namedContracts tx := by
    rw [namedContracts, inputs, outputs, namedContracts]
  rw [Registry.verify, Registry.verify, named]
  refine forM_congr fun id isNamed => ?_
  cases found : standard.get? id with
  | none => rfl
  | some contract =>
      obtain ⟨kind, rfl, rfl⟩ := standard_get?_eq_some_iff.1 found
      exact EntityKind.standardVerify_eq (alike kind (mem_namedContracts.1 isNamed))

end Signing

end Consortium
