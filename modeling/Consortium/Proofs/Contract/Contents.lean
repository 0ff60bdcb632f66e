import Consortium.Proofs.Contract.Lineage

/-!
The structural rules on the contents of a transaction. A contract goes on with the first version
that is consumed and the first that is created; where there is at most one of each, these are the
entities that the transaction consumes and creates.
-/

namespace Consortium

namespace Transaction

section Commands

variable {τ : Type} {tx : Transaction} {select : CommandValue → Option τ}

theorem map_fst_selectCommands :
    (tx.selectCommands select).map Prod.fst =
      tx.commands.filter fun command => (select command.value).isSome := by
  unfold selectCommands
  induction tx.commands with
  | nil => rfl
  | cons first rest ih =>
      cases selected : select first.value with
      | none => simpa [selected] using ih
      | some value => simpa [selected] using ih

theorem selectCommands_eq_singleton_iff {command : Command} {value : τ} :
    tx.selectCommands select = [(command, value)] ↔
      tx.commands.filter (fun candidate => (select candidate.value).isSome) = [command] ∧
        select command.value = some value := by
  rw [← map_fst_selectCommands]
  constructor
  · intro single
    refine ⟨?_, (mem_commands_of_select single).2⟩
    rw [single, List.map_singleton]
  · intro ⟨single, selected⟩
    obtain ⟨⟨_, found⟩, isPair, rfl⟩ := List.map_eq_singleton_iff.1 single
    have same := (mem_commands_of_select isPair).2.symm.trans selected
    rw [isPair, Option.some.inj same]

end Commands

section Entities

variable {ε : Type} [LinearEntity ε]

/-- The transaction consumes this entity, and no other one of its kind. -/
def ConsumesOnly (tx : Transaction) (entity : ε) : Prop :=
  ∃ recorded, tx.inputsOf (LinearEntity.kind ε) = [recorded] ∧
    LinearEntity.ofState? recorded.state.data = some entity

def CreatesOnly (tx : Transaction) (entity : ε) : Prop :=
  ∃ state, tx.outputsOf (LinearEntity.kind ε) = [state] ∧
    LinearEntity.ofState? state.data = some entity

variable {tx : Transaction} {entity : ε}

theorem ConsumesOnly.length_eq (only : tx.ConsumesOnly entity) :
    (tx.inputsOf (LinearEntity.kind ε)).length = 1 := by
  obtain ⟨recorded, single, _⟩ := only
  rw [single, List.length_singleton]

theorem CreatesOnly.length_eq (only : tx.CreatesOnly entity) :
    (tx.outputsOf (LinearEntity.kind ε)).length = 1 := by
  obtain ⟨state, single, _⟩ := only
  rw [single, List.length_singleton]

theorem evolution_input_eq_some_iff
    (few : (tx.inputsOf (LinearEntity.kind ε)).length ≤ 1) :
    (tx.evolution ε).input = some entity ↔ tx.ConsumesOnly entity := by
  constructor
  · intro found
    obtain ⟨recorded, member, ofState⟩ := consumed_of_evolution found
    exact ⟨recorded, eq_singleton_of_mem few member, ofState⟩
  · intro ⟨recorded, single, ofState⟩
    simp only [evolution, single, List.map_singleton, List.head?_cons, Option.bind_some]
    exact ofState

theorem evolution_output_eq_some_iff
    (few : (tx.outputsOf (LinearEntity.kind ε)).length ≤ 1) :
    (tx.evolution ε).output = some entity ↔ tx.CreatesOnly entity := by
  constructor
  · intro found
    obtain ⟨state, member, ofState⟩ := created_of_evolution found
    exact ⟨state, eq_singleton_of_mem few member, ofState⟩
  · intro ⟨state, single, ofState⟩
    exact evolution_output_of_singleton single ofState

theorem evolution_input_of_mem [LawfulEntity ε]
    (few : (tx.inputsOf (LinearEntity.kind ε)).length ≤ 1) {recorded : StateAndRef}
    (isInput : recorded ∈ tx.inputs)
    (ofState : LinearEntity.ofState? recorded.state.data = some entity) :
    (tx.evolution ε).input = some entity := by
  have ofKind := LawfulEntity.kind_of_some recorded.state.data entity ofState
  have single := eq_singleton_of_mem few (mem_inputsOf.2 ⟨isInput, ofKind⟩)
  exact (evolution_input_eq_some_iff few).2 ⟨recorded, single, ofState⟩

theorem evolution_output_of_mem [LawfulEntity ε]
    (few : (tx.outputsOf (LinearEntity.kind ε)).length ≤ 1) {state : TransactionState}
    (isOutput : state ∈ tx.outputs) (ofState : LinearEntity.ofState? state.data = some entity) :
    (tx.evolution ε).output = some entity := by
  have ofKind := LawfulEntity.kind_of_some state.data entity ofState
  exact evolution_output_of_singleton (outputsOf_eq_singleton few isOutput ofKind) ofState

theorem inputsOf_eq_nil (none : tx.inputs = []) (kind : EntityKind) : tx.inputsOf kind = [] := by
  rw [inputsOf, none, List.filter_nil]

theorem outputsOf_eq_nil (none : tx.outputs = []) (kind : EntityKind) : tx.outputsOf kind = [] := by
  rw [outputsOf, none, List.filter_nil]

theorem evolution_input_eq_none (none : tx.inputs = []) : (tx.evolution ε).input = .none := by
  simp only [evolution, inputsOf_eq_nil none, List.map_nil, List.head?_nil, Option.bind_none]

theorem evolution_output_eq_none (none : tx.outputs = []) : (tx.evolution ε).output = .none := by
  simp only [evolution, outputsOf_eq_nil none, List.head?_nil, Option.bind_none]

end Entities

end Transaction

section Signing

variable [Suite]

/-- The rules that stand for every command: the states of the kind carry the id of the contract and
consistent dates, the transaction refers to one membership at most, and exactly the required keys
have signed it. -/
structure Transaction.InOrder (tx : Transaction) (kind : EntityKind) (contractId : ContractId)
    (command : Command) : Prop where
  governed : ∀ state ∈ tx.touched, state.data.kind = kind → state.contract = contractId
  dated : ∀ state ∈ tx.touched, state.data.kind = kind →
    state.data.header.issued ≤ state.data.header.modified
  references : tx.RefersSoundly
  signed : ∀ key, key ∈ command.signers ↔
    ∃ signature ∈ tx.signatures, signature.signer = key ∧ tx.verifies signature

variable {ε : Type} [LinearEntity ε] {tx : Transaction} {command : Command}
  {contractId : ContractId} {multipleAllowed : Bool}

theorem StructurallySound.inOrder
    (sound : StructurallySound ε tx command contractId multipleAllowed) :
    tx.InOrder (LinearEntity.kind ε) contractId command where
  governed state touched ofKind :=
    sound.governed state (Transaction.mem_touchedOf.2 ⟨touched, ofKind⟩)
  dated state touched ofKind := sound.dated state (Transaction.mem_touchedOf.2 ⟨touched, ofKind⟩)
  references := sound.references
  signed key := by rw [← sound.signed, Transaction.mem_signers]

namespace Transaction.InOrder

variable (inOrder : tx.InOrder (LinearEntity.kind ε) contractId command)

include inOrder

theorem sound
    (oneInput : multipleAllowed ∨ (tx.inputsOf (LinearEntity.kind ε)).length ≤ 1)
    (oneOutput : multipleAllowed ∨ (tx.outputsOf (LinearEntity.kind ε)).length ≤ 1)
    (succeeds : ∀ input output, (tx.evolution ε).input = some input →
      (tx.evolution ε).output = some output →
      (LinearEntity.header output).Succeeds (LinearEntity.header input)) :
    StructurallySound ε tx command contractId multipleAllowed where
  oneInput := oneInput
  oneOutput := oneOutput
  references := inOrder.references
  governed state member :=
    have ⟨touched, ofKind⟩ := mem_touchedOf.1 member
    inOrder.governed state touched ofKind
  dated state member :=
    have ⟨touched, ofKind⟩ := mem_touchedOf.1 member
    inOrder.dated state touched ofKind
  succeeds := succeeds
  signed := SortedSet.ext fun key => by rw [inOrder.signed, mem_signers]

end Transaction.InOrder

/-! ### Issuance, transition and removal -/

variable {condition : ε → Prop} {change : (input output : ε) → Prop}

theorem issuance_iff :
    (StructurallySound ε tx command contractId multipleAllowed ∧
      ∃ output, (tx.evolution ε).output = some output ∧ tx.inputs = [] ∧
        (multipleAllowed → (tx.outputsOf (LinearEntity.kind ε)).length = 1) ∧ condition output) ↔
    tx.InOrder (LinearEntity.kind ε) contractId command ∧ tx.inputs = [] ∧
      ∃ output, tx.CreatesOnly output ∧ condition output := by
  constructor
  · intro ⟨sound, output, created, noInput, one, holds⟩
    have few : (tx.outputsOf (LinearEntity.kind ε)).length ≤ 1 := by
      rcases sound.oneOutput with multiple | few
      · exact Nat.le_of_eq (one multiple)
      · exact few
    have only := (Transaction.evolution_output_eq_some_iff few).1 created
    exact ⟨sound.inOrder, noInput, output, only, holds⟩
  · intro ⟨inOrder, noInput, output, only, holds⟩
    have few := Nat.le_of_eq only.length_eq
    have created := (Transaction.evolution_output_eq_some_iff few).2 only
    refine ⟨inOrder.sound ?_ (.inr few) ?_,
      output, created, noInput, fun _ => only.length_eq, holds⟩
    · rw [Transaction.inputsOf_eq_nil noInput]
      exact .inr (Nat.zero_le 1)
    · intro input second consumed
      rw [Transaction.evolution_input_eq_none noInput] at consumed
      cases consumed

theorem transition_iff :
    (StructurallySound ε tx command contractId false ∧
      ∃ input output, (tx.evolution ε).input = some input ∧
        (tx.evolution ε).output = some output ∧ change input output) ↔
    tx.InOrder (LinearEntity.kind ε) contractId command ∧
      ∃ input output, tx.ConsumesOnly input ∧ tx.CreatesOnly output ∧
        (LinearEntity.header output).Succeeds (LinearEntity.header input) ∧
        change input output := by
  constructor
  · intro ⟨sound, input, output, consumed, created, changes⟩
    have fewInputs := sound.oneInput.resolve_left Bool.false_ne_true
    have fewOutputs := sound.oneOutput.resolve_left Bool.false_ne_true
    exact ⟨sound.inOrder, input, output,
      (Transaction.evolution_input_eq_some_iff fewInputs).1 consumed,
      (Transaction.evolution_output_eq_some_iff fewOutputs).1 created,
      sound.succeeds input output consumed created, changes⟩
  · intro ⟨inOrder, input, output, onlyInput, onlyOutput, succeeds, changes⟩
    have fewInputs := Nat.le_of_eq onlyInput.length_eq
    have fewOutputs := Nat.le_of_eq onlyOutput.length_eq
    have consumed := (Transaction.evolution_input_eq_some_iff fewInputs).2 onlyInput
    have created := (Transaction.evolution_output_eq_some_iff fewOutputs).2 onlyOutput
    refine ⟨inOrder.sound (.inr fewInputs) (.inr fewOutputs) ?_,
      input, output, consumed, created, changes⟩
    intro first second isFirst isSecond
    cases consumed.symm.trans isFirst
    cases created.symm.trans isSecond
    exact succeeds

theorem removal_iff :
    (StructurallySound ε tx command contractId false ∧
      ∃ input, (tx.evolution ε).input = some input ∧ tx.outputs = [] ∧ condition input) ↔
    tx.InOrder (LinearEntity.kind ε) contractId command ∧ tx.outputs = [] ∧
      ∃ input, tx.ConsumesOnly input ∧ condition input := by
  constructor
  · intro ⟨sound, input, consumed, noOutput, holds⟩
    have few := sound.oneInput.resolve_left Bool.false_ne_true
    have only := (Transaction.evolution_input_eq_some_iff few).1 consumed
    exact ⟨sound.inOrder, noOutput, input, only, holds⟩
  · intro ⟨inOrder, noOutput, input, only, holds⟩
    have few := Nat.le_of_eq only.length_eq
    have consumed := (Transaction.evolution_input_eq_some_iff few).2 only
    refine ⟨inOrder.sound (.inr few) ?_ ?_, input, consumed, noOutput, holds⟩
    · rw [Transaction.outputsOf_eq_nil noOutput]
      exact .inr (Nat.zero_le 1)
    · intro first second _ created
      rw [Transaction.evolution_output_eq_none noOutput] at created
      cases created

end Signing

end Consortium
