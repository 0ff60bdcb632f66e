import Consortium.Proofs.Contract.Verdict
import Mathlib.Tactic.MkIffOfInductiveProp

/-!
What the structural rules establish. `StructurallySound` lists the facts; `Transaction.evolution`
names the two versions that a contract goes on with.
-/

namespace Consortium

theorem eq_singleton_of_mem {α : Type} {list : List α} {element : α}
    (few : list.length ≤ 1) (member : element ∈ list) : list = [element] := by
  obtain ⟨only, rfl⟩ := List.length_eq_one_iff.1
    (Nat.le_antisymm few (List.length_pos_of_mem member))
  rw [List.mem_singleton.1 member]

namespace Transaction

def touched (tx : Transaction) : List TransactionState :=
  tx.inputs.map StateAndRef.state ++ tx.outputs

def touchedOf (tx : Transaction) (kind : EntityKind) : List TransactionState :=
  (tx.inputsOf kind).map StateAndRef.state ++ tx.outputsOf kind

/-- The first version consumed and the first version created. -/
def evolution (ε : Type) [LinearEntity ε] (tx : Transaction) : Evolution ε where
  input := ((tx.inputsOf (LinearEntity.kind ε)).map StateAndRef.state).head?.bind fun state =>
    LinearEntity.ofState? state.data
  output := (tx.outputsOf (LinearEntity.kind ε)).head?.bind fun state =>
    LinearEntity.ofState? state.data

theorem mem_touchedOf {tx : Transaction} {kind : EntityKind} {state : TransactionState} :
    state ∈ tx.touchedOf kind ↔ state ∈ tx.touched ∧ state.data.kind = kind := by
  simp only [touchedOf, touched, inputsOf, outputsOf, List.mem_append, List.mem_map,
    List.mem_filter, decide_eq_true_eq]
  constructor
  · rintro (⟨recorded, ⟨consumed, ofKind⟩, rfl⟩ | ⟨created, ofKind⟩)
    · exact ⟨.inl ⟨recorded, consumed, rfl⟩, ofKind⟩
    · exact ⟨.inr created, ofKind⟩
  · rintro ⟨⟨recorded, consumed, rfl⟩ | created, ofKind⟩
    · exact .inl ⟨recorded, ⟨consumed, ofKind⟩, rfl⟩
    · exact .inr ⟨created, ofKind⟩

theorem mem_inputsOf {tx : Transaction} {kind : EntityKind} {recorded : StateAndRef} :
    recorded ∈ tx.inputsOf kind ↔ recorded ∈ tx.inputs ∧ recorded.state.data.kind = kind := by
  simp [inputsOf]

theorem mem_outputsOf {tx : Transaction} {kind : EntityKind} {state : TransactionState} :
    state ∈ tx.outputsOf kind ↔ state ∈ tx.outputs ∧ state.data.kind = kind := by
  simp [outputsOf]

theorem outputsOf_eq_singleton {tx : Transaction} {kind : EntityKind} {state : TransactionState}
    (few : (tx.outputsOf kind).length ≤ 1) (created : state ∈ tx.outputs)
    (ofKind : state.data.kind = kind) : tx.outputsOf kind = [state] :=
  eq_singleton_of_mem few (mem_outputsOf.2 ⟨created, ofKind⟩)

end Transaction

theorem ContractState.group?_eq_some_iff {data : ContractState} {group : GroupState} :
    data.group? = some group ↔ data = .group group := by
  cases data <;> simp [ContractState.group?]

theorem ContractState.membership?_eq_some_iff {data : ContractState}
    {membership : MembershipState} :
    data.membership? = some membership ↔ data = .membership membership := by
  cases data <;> simp [ContractState.membership?]

/-- The states of a kind are those that hold an entity, and they show its header. -/
class LawfulEntity (ε : Type) [LinearEntity ε] : Prop where
  exists_of_kind : ∀ data : ContractState, data.kind = LinearEntity.kind ε →
    ∃ entity : ε, LinearEntity.ofState? data = some entity
  kind_of_some : ∀ (data : ContractState) (entity : ε),
    LinearEntity.ofState? data = some entity → data.kind = LinearEntity.kind ε
  header_of_some : ∀ (data : ContractState) (entity : ε),
    LinearEntity.ofState? data = some entity → data.header = LinearEntity.header entity

instance : LawfulEntity GroupState where
  exists_of_kind data ofKind := by
    cases data with
    | group state => exact ⟨state, rfl⟩
    | membership state => cases ofKind
  kind_of_some data entity found := by
    rw [ContractState.group?_eq_some_iff.1 found]
    rfl
  header_of_some data entity found := by
    rw [ContractState.group?_eq_some_iff.1 found]
    rfl

instance : LawfulEntity MembershipState where
  exists_of_kind data ofKind := by
    cases data with
    | group state => cases ofKind
    | membership state => exact ⟨state, rfl⟩
  kind_of_some data entity found := by
    rw [ContractState.membership?_eq_some_iff.1 found]
    rfl
  header_of_some data entity found := by
    rw [ContractState.membership?_eq_some_iff.1 found]
    rfl

namespace Transaction

variable {ε : Type} [LinearEntity ε] {tx : Transaction} {entity : ε}

theorem consumed_of_evolution (found : (tx.evolution ε).input = some entity) :
    ∃ recorded ∈ tx.inputsOf (LinearEntity.kind ε),
      LinearEntity.ofState? recorded.state.data = some entity := by
  obtain ⟨state, first, ofState⟩ := Option.bind_eq_some_iff.1 found
  obtain ⟨recorded, member, rfl⟩ := List.mem_map.1 (List.mem_of_head? first)
  exact ⟨recorded, member, ofState⟩

theorem created_of_evolution (found : (tx.evolution ε).output = some entity) :
    ∃ state ∈ tx.outputsOf (LinearEntity.kind ε),
      LinearEntity.ofState? state.data = some entity := by
  obtain ⟨state, first, ofState⟩ := Option.bind_eq_some_iff.1 found
  exact ⟨state, List.mem_of_head? first, ofState⟩

theorem evolution_output_of_singleton {state : TransactionState}
    (single : tx.outputsOf (LinearEntity.kind ε) = [state])
    (ofState : LinearEntity.ofState? state.data = some entity) :
    (tx.evolution ε).output = some entity := by
  simp only [evolution, single, List.head?_cons, Option.bind_some]
  exact ofState

theorem exists_evolution_output [LawfulEntity ε]
    (one : (tx.outputsOf (LinearEntity.kind ε)).length = 1) :
    ∃ entity : ε, (tx.evolution ε).output = some entity := by
  obtain ⟨state, single⟩ := List.length_eq_one_iff.1 one
  have member : state ∈ tx.outputsOf (LinearEntity.kind ε) := by
    rw [single]
    exact List.mem_singleton_self _
  obtain ⟨entity, ofState⟩ := LawfulEntity.exists_of_kind state.data (mem_outputsOf.1 member).2
  exact ⟨entity, evolution_output_of_singleton single ofState⟩

end Transaction

def Transaction.RefersSoundly (tx : Transaction) : Prop :=
  tx.references = [] ∨ ∃ reference, tx.references = [reference] ∧ reference.membership?.isSome

theorem verifyReferences_eq_ok_iff {tx : Transaction} :
    verifyReferences tx = .ok () ↔ tx.RefersSoundly := by
  unfold verifyReferences Transaction.RefersSoundly
  match tx.references with
  | [] => simp
  | [reference] => simp
  | first :: second :: rest => simp

@[mk_iff]
structure EntityHeader.Succeeds (output input : EntityHeader) : Prop where
  networkId : input.networkId = output.networkId
  issued : input.issued = output.issued
  issuer : input.issuer = output.issuer
  modified : input.modified ≤ output.modified
  linearId : input.linearId = output.linearId

theorem verifyEvolution_eq_ok_iff {kind : EntityKind} {input output : EntityHeader} :
    verifyEvolution kind input output = .ok () ↔ output.Succeeds input := by
  simp only [verifyEvolution, check_bind_eq_ok_iff, require_eq_ok_iff,
    EntityHeader.succeeds_iff]

section Signing

variable [Suite]

theorem Transaction.mem_signers {tx : Transaction} {key : PublicKey} :
    key ∈ tx.signers ↔
      ∃ signature ∈ tx.signatures, signature.signer = key ∧ tx.verifies signature := by
  rw [signers, SortedSet.mem_ofList, List.mem_map]
  constructor
  · intro ⟨signature, member, isSigner⟩
    have ⟨isSignature, verifies⟩ := List.mem_filter.1 member
    exact ⟨signature, isSignature, isSigner, verifies⟩
  · intro ⟨signature, isSignature, isSigner, verifies⟩
    exact ⟨signature, List.mem_filter.2 ⟨isSignature, verifies⟩, isSigner⟩

theorem verifySigners_eq_ok_iff {tx : Transaction} {command : Command} :
    verifySigners tx command = .ok () ↔ tx.signers = command.signers :=
  require_eq_ok_iff

@[mk_iff]
structure StructurallySound (ε : Type) [LinearEntity ε] (tx : Transaction) (command : Command)
    (contractId : ContractId) (multipleAllowed : Bool) : Prop where
  oneInput : multipleAllowed ∨ (tx.inputsOf (LinearEntity.kind ε)).length ≤ 1
  oneOutput : multipleAllowed ∨ (tx.outputsOf (LinearEntity.kind ε)).length ≤ 1
  references : tx.RefersSoundly
  governed : ∀ state ∈ tx.touchedOf (LinearEntity.kind ε), state.contract = contractId
  dated : ∀ state ∈ tx.touchedOf (LinearEntity.kind ε),
    state.data.header.issued ≤ state.data.header.modified
  succeeds : ∀ input output, (tx.evolution ε).input = some input →
    (tx.evolution ε).output = some output →
    (LinearEntity.header output).Succeeds (LinearEntity.header input)
  signed : tx.signers = command.signers

theorem verifyStructure_eq_ok_iff {ε : Type} [LinearEntity ε] {tx : Transaction}
    {command : Command} {contractId : ContractId} {multipleAllowed : Bool}
    {evolution : Evolution ε} :
    verifyStructure ε tx command contractId multipleAllowed = .ok evolution ↔
      StructurallySound ε tx command contractId multipleAllowed ∧
        evolution = tx.evolution ε := by
  rw [structurallySound_iff]
  simp only [verifyStructure, check_bind_eq_ok_iff, require_eq_ok_iff, verifyReferences_eq_ok_iff,
    forM_eq_ok_iff, List.length_map, and_assoc]
  refine and_congr_right fun _ => and_congr_right fun _ => and_congr_right fun _ =>
    and_congr_right fun _ => and_congr_right fun _ => ?_
  simp only [Transaction.evolution, @eq_comm _ evolution]
  split
  · rename_i before after consumed created
    simp only [check_bind_eq_ok_iff, verifyEvolution_eq_ok_iff, verifySigners_eq_ok_iff,
      consumed, created, pure, Except.pure, Except.ok.injEq, Option.some.injEq]
    refine and_congr_left fun _ => ⟨?_, fun holds => holds before after rfl rfl⟩
    rintro holds _ _ rfl rfl
    exact holds
  · rename_i incomplete
    simp only [check_bind_eq_ok_iff, verifySigners_eq_ok_iff, pure, Except.pure,
      Except.ok.injEq, true_and]
    refine (and_iff_right ?_).symm
    intro before after consumed created
    exact absurd created (incomplete before after consumed)

end Signing

end Consortium
