import Consortium.Proofs.Contract.Perspective

/-!
How a well-formed proposal can still be refused. If it is put together as the contract of its kind
asks for, then first of all exactly the required keys have to sign it; and where they have, what is
left to object to is the condition of its command and the authority of its initiator.
-/

namespace Consortium

theorem require_eq_error_iff {condition : Prop} [Decidable condition]
    {failure other : ValidationError} :
    require condition failure = .error other ↔ ¬ condition ∧ failure = other := by
  by_cases holds : condition <;> simp [require, holds]

/-! ### Checks that only refuse -/

/-- An objection to what a transaction does, and not to how it is put together. -/
inductive ValidationError.IsRefusal : ValidationError → Prop
  | authorization (failure : AuthorizationError) : IsRefusal (.authorization failure)
  | rejected (command reason : String) : IsRefusal (.rejected command reason)

def OnlyRefuses {α : Type} (check : Except ValidationError α) : Prop :=
  ∀ failure, check = .error failure → failure.IsRefusal

namespace OnlyRefuses

variable {α β : Type}

theorem ok (value : α) : OnlyRefuses (.ok value) := fun _ failed => nomatch failed

theorem rejected (command reason : String) :
    OnlyRefuses (.error (.rejected command reason) : Except ValidationError α) := by
  rintro _ ⟨⟩
  exact .rejected command reason

theorem require {condition : Prop} [Decidable condition] {refusal : ValidationError}
    (isRefusal : refusal.IsRefusal) : OnlyRefuses (require condition refusal) := by
  intro failure failed
  rw [← (require_eq_error_iff.1 failed).2]
  exact isRefusal

theorem bind {check : Except ValidationError α} {next : α → Except ValidationError β}
    (refuses : OnlyRefuses check) (goesOn : ∀ value, OnlyRefuses (next value)) :
    OnlyRefuses (check >>= next) := by
  intro failure failed
  rcases bind_eq_error_iff.1 failed with now | ⟨value, _, later⟩
  · exact refuses failure now
  · exact goesOn value failure later

/-- A check with a text of its own, and what comes after it. -/
theorem require_bind {condition : Prop} [Decidable condition] {command reason : String}
    {next : Unit → Except ValidationError β} (goesOn : OnlyRefuses (next ())) :
    OnlyRefuses (Consortium.require condition (.rejected command reason) >>= next) :=
  (require (.rejected command reason)).bind fun _ => goesOn

variable {tx : Transaction} {command : Command}

theorem verifyInitiator {initiator : MembershipState}
    (resolved : tx.resolveInitiator = .ok initiator) (networkId : NetworkId)
    (participants : SortedSet Party) (requiredSigners : SortedSet PublicKey)
    (isAuthorized : MembershipState → Bool) :
    OnlyRefuses (verifyInitiator tx networkId participants requiredSigners isAuthorized) := by
  unfold Consortium.verifyInitiator
  rw [resolved]
  refine bind (ok initiator) fun found => ?_
  refine bind (require (.authorization _)) fun _ => ?_
  refine bind (require (.authorization _)) fun _ => ?_
  refine bind (require (.authorization _)) fun _ => ?_
  refine bind (require (.authorization _)) fun _ => ?_
  exact bind (require (.authorization _)) fun _ => ok found

theorem groupAuthority {initiator : MembershipState}
    (resolved : tx.resolveInitiator = .ok initiator) (evolved : GroupState) :
    OnlyRefuses (GroupRules.verifyAuthority tx command evolved) :=
  bind (verifyInitiator resolved _ _ _ _) fun _ => ok ()

theorem membershipAuthority {initiator : MembershipState}
    (resolved : tx.resolveInitiator = .ok initiator) (evolved : MembershipState)
    (isAuthorized : MembershipState → Bool) :
    OnlyRefuses (MembershipRules.verifyAuthority tx command evolved isAuthorized) :=
  bind (verifyInitiator resolved _ _ _ _) fun _ => ok ()

theorem verifyIssuance {evolution : Evolution MembershipState} {value : MembershipCommand}
    {rule : MembershipState → Verdict} (refuses : ∀ output, OnlyRefuses (rule output)) :
    OnlyRefuses (MembershipRules.verifyIssuance evolution value rule) := by
  unfold MembershipRules.verifyIssuance
  split
  · exact refuses _
  · exact rejected _ _

theorem verifyTransition {evolution : Evolution MembershipState} {value : MembershipCommand}
    {rule : (input output : MembershipState) → Verdict}
    (refuses : ∀ input output, OnlyRefuses (rule input output)) :
    OnlyRefuses (MembershipRules.verifyTransition evolution value rule) := by
  unfold MembershipRules.verifyTransition
  split
  · exact refuses _ _
  · exact rejected _ _
  · exact rejected _ _

end OnlyRefuses

/-! ### Well-formed proposals -/

/-- The state stands under the contract of its kind, and was not modified before it was issued. -/
structure TransactionState.InShape (state : TransactionState) : Prop where
  governed : state.contract = state.data.kind.contractId
  dated : state.data.header.issued ≤ state.data.header.modified

/-- A proposal to change states of one kind on the authority of an initiator, put together as the
contract of this kind asks for. -/
structure Transaction.WellFormed (tx : Transaction) (kind : EntityKind) (command : Command) :
    Prop where
  commands : tx.commands = [command]
  family : command.value.family = kind
  touches : tx.touched ≠ []
  ofKind : ∀ state ∈ tx.touched, state.data.kind = kind
  inShape : ∀ state ∈ tx.touched, state.InShape
  oneInput : tx.inputs.length ≤ 1
  oneOutput : tx.outputs.length ≤ 1
  references : tx.RefersSoundly
  succeeds : ∀ input ∈ tx.inputs, ∀ output ∈ tx.outputs,
    output.data.header.Succeeds input.state.data.header
  ownerKept : ∀ input ∈ tx.inputs, ∀ output ∈ tx.outputs, ∀ before after,
    input.state.data = .membership before → output.data = .membership after →
      before.owner = after.owner
  initiator : ∃ initiator, tx.resolveInitiator = .ok initiator

namespace Transaction.WellFormed

section Signing

variable [Suite] {tx : Transaction} {kind : EntityKind} {command : Command}
  (wellFormed : tx.WellFormed kind command)

include wellFormed

omit [Suite] in
theorem commandsOf_eq : tx.commandsOf kind = [command] := by
  rw [Transaction.commandsOf, wellFormed.commands, List.filter_singleton, wellFormed.family,
    decide_eq_true rfl]
  rfl

omit [Suite] in
theorem header_succeeds {ε : Type} [LinearEntity ε] [LawfulEntity ε] {input output : ε}
    (consumed : (tx.evolution ε).input = some input)
    (created : (tx.evolution ε).output = some output) :
    (LinearEntity.header output).Succeeds (LinearEntity.header input) := by
  obtain ⟨recorded, isInput, ofInput⟩ := consumed_of_evolution consumed
  obtain ⟨state, isOutput, ofOutput⟩ := created_of_evolution created
  rw [← LawfulEntity.header_of_some _ _ ofInput, ← LawfulEntity.header_of_some _ _ ofOutput]
  exact wellFormed.succeeds recorded (mem_inputsOf.1 isInput).1 state (mem_outputsOf.1 isOutput).1

/-- Nothing but the signatures can be wrong with the structure of the proposal. -/
theorem verifyStructure_bind {ε : Type} [LinearEntity ε] [LawfulEntity ε]
    (isKind : LinearEntity.kind ε = kind) (multipleAllowed : Bool)
    (next : Evolution ε → Verdict) :
    (verifyStructure ε tx command kind.contractId multipleAllowed >>= next) =
      (verifySigners tx command >>= fun _ => next (tx.evolution ε)) := by
  subst isKind
  have oneInput : ((tx.inputsOf (LinearEntity.kind ε)).map StateAndRef.state).length ≤ 1 := by
    rw [List.length_map]
    exact Nat.le_trans (List.length_filter_le _ _) wellFormed.oneInput
  have oneOutput : (tx.outputsOf (LinearEntity.kind ε)).length ≤ 1 :=
    Nat.le_trans (List.length_filter_le _ _) wellFormed.oneOutput
  have inShape (state : TransactionState)
      (member : state ∈ (tx.inputsOf (LinearEntity.kind ε)).map StateAndRef.state ++
        tx.outputsOf (LinearEntity.kind ε)) :
      state.contract = (LinearEntity.kind ε).contractId ∧
        state.data.header.issued ≤ state.data.header.modified := by
    obtain ⟨touched, ofKind⟩ := mem_touchedOf.1 member
    obtain ⟨governed, dated⟩ := wellFormed.inShape state touched
    rw [ofKind] at governed
    exact ⟨governed, dated⟩
  have structural : verifyStructure ε tx command (LinearEntity.kind ε).contractId multipleAllowed =
      (verifySigners tx command >>= fun _ => .ok (tx.evolution ε)) := by
    unfold verifyStructure
    dsimp only
    rw [require_eq_ok_iff.2 (.inr oneInput), require_eq_ok_iff.2 (.inr oneOutput),
      verifyReferences_eq_ok_iff.2 wellFormed.references,
      forM_eq_ok_iff.2 fun state member => require_eq_ok_iff.2 (inShape state member).1,
      forM_eq_ok_iff.2 fun state member => require_eq_ok_iff.2 (inShape state member).2]
    split
    · rename_i before after consumed created
      rw [verifyEvolution_eq_ok_iff.2 (wellFormed.header_succeeds consumed created)]
      rfl
    · rfl
  rw [structural, bind_assoc]
  rfl

omit [Suite] in
theorem onlyRefuses_verifyOwners :
    OnlyRefuses (MembershipRules.verifyOwners (tx.evolution MembershipState)) := by
  have kept (before after : MembershipState)
      (consumed : (tx.evolution MembershipState).input = some before)
      (created : (tx.evolution MembershipState).output = some after) :
      OnlyRefuses (MembershipRules.verifyOwnerKept before after) := by
    obtain ⟨recorded, isInput, ofInput⟩ := consumed_of_evolution consumed
    obtain ⟨state, isOutput, ofOutput⟩ := created_of_evolution created
    have sameOwner := wellFormed.ownerKept recorded (mem_inputsOf.1 isInput).1 state
      (mem_outputsOf.1 isOutput).1 before after
      (ContractState.membership?_eq_some_iff.1 ofInput)
      (ContractState.membership?_eq_some_iff.1 ofOutput)
    rw [MembershipRules.verifyOwnerKept, require_eq_ok_iff.2 sameOwner]
    exact .ok ()
  unfold MembershipRules.verifyOwners
  cases created : (tx.evolution MembershipState).output with
  | none => cases (tx.evolution MembershipState).input <;> exact .ok ()
  | some after =>
      refine .bind (.require (.rejected _ _)) fun _ => ?_
      cases consumed : (tx.evolution MembershipState).input with
      | none => exact .ok ()
      | some before => exact kept before after consumed created

/-! ### The contract behind a proposal -/

omit [Suite] in
theorem namedContracts_toList : (Registry.namedContracts tx).toList = [kind.contractId] := by
  have only : Registry.namedContracts tx = .singleton kind.contractId := by
    refine SortedSet.ext fun id => ?_
    rw [Registry.mem_namedContracts, SortedSet.mem_singleton]
    constructor
    · intro ⟨state, touched, named⟩
      rw [← named, (wellFormed.inShape state touched).governed, wellFormed.ofKind state touched]
    · rintro rfl
      obtain ⟨state, touched⟩ := List.exists_mem_of_ne_nil _ wellFormed.touches
      refine ⟨state, touched, ?_⟩
      rw [(wellFormed.inShape state touched).governed, wellFormed.ofKind state touched]
  rw [only]
  rfl

/-- Only the contract of its kind looks at the proposal. -/
theorem standard_verify_eq : Registry.standard.verify tx = kind.standardVerify tx := by
  have found : Registry.standard.get? kind.contractId = some kind.standardVerify :=
    Registry.standard_get?_eq_some_iff.2 ⟨kind, rfl, rfl⟩
  unfold Registry.verify
  rw [wellFormed.namedContracts_toList]
  simp only [List.forM_eq_forM, List.forM_cons, List.forM_nil, found]
  exact bind_pure _

omit [Suite] in
theorem singleCommand_eq {τ : Type} {select : CommandValue → Option τ} {value : τ}
    (ofFamily : ∀ value, (select value).isSome ↔ value.family = kind)
    (selected : select command.value = some value) :
    tx.singleCommand kind select = .ok (command, value) :=
  Transaction.singleCommand_eq_ok_iff.2
    ((Transaction.selectCommands_eq_iff_commandsOf ofFamily).2 ⟨wellFormed.commandsOf_eq, selected⟩)

end Signing

section Contracts

variable [Suite] {tx : Transaction} {kind : EntityKind} {command : Command}

theorem exists_group_rules (wellFormed : tx.WellFormed .group command) :
    ∃ rules : Verdict, OnlyRefuses rules ∧
      GroupRules.standard.verify tx = (verifySigners tx command >>= fun _ => rules) := by
  obtain ⟨value, isValue⟩ := Option.isSome_iff_exists.1
    (CommandValue.group?_isSome_iff.2 wellFormed.family)
  obtain ⟨initiator, resolved⟩ := wellFormed.initiator
  unfold GroupRules.verify
  rw [wellFormed.singleCommand_eq (fun _ => CommandValue.group?_isSome_iff) isValue]
  refine ⟨_, ?_, wellFormed.verifyStructure_bind (ε := GroupState) rfl _ _⟩
  split
  · exact .require_bind (.require_bind (.require (.rejected _ _)))
  · exact .require_bind (.groupAuthority resolved _)
  · exact .require_bind (.groupAuthority resolved _)
  · exact .require_bind (.groupAuthority resolved _)
  all_goals exact .rejected _ _

theorem exists_membership_rules (wellFormed : tx.WellFormed .membership command) :
    ∃ rules : Verdict, OnlyRefuses rules ∧
      MembershipRules.standard.verify tx = (verifySigners tx command >>= fun _ => rules) := by
  obtain ⟨value, isValue⟩ := Option.isSome_iff_exists.1
    (CommandValue.membership?_isSome_iff.2 wellFormed.family)
  obtain ⟨initiator, resolved⟩ := wellFormed.initiator
  unfold MembershipRules.verify
  rw [wellFormed.singleCommand_eq (fun _ => CommandValue.membership?_isSome_iff) isValue]
  refine ⟨_, ?_, wellFormed.verifyStructure_bind (ε := MembershipState) rfl _ _⟩
  refine .bind wellFormed.onlyRefuses_verifyOwners fun _ => ?_
  cases value with
  | bootstrap =>
      exact .verifyIssuance fun _ => .require_bind (.require_bind (.require_bind (.require_bind
        (.require (.rejected _ _)))))
  | request =>
      exact .verifyIssuance fun _ => .require_bind (.require_bind (.require_bind
        (.require (.rejected _ _))))
  | activate | suspend =>
      exact .verifyTransition fun _ _ => .require_bind (.require_bind (.require_bind
        (.require_bind (.membershipAuthority resolved _ _))))
  | modifyRoles | modifyBusinessIdentity =>
      exact .verifyTransition fun _ _ => .require_bind (.require_bind (.require_bind
        (.membershipAuthority resolved _ _)))
  | modifyParticipants =>
      exact .verifyTransition fun _ _ => .require_bind (.require_bind (.require_bind
        (.require_bind (.membershipAuthority resolved _ _))))
  | revoke =>
      dsimp only
      split
      · exact .require_bind (.membershipAuthority resolved _ _)
      · exact .rejected _ _

theorem exists_rules (wellFormed : tx.WellFormed kind command) :
    ∃ rules : Verdict, OnlyRefuses rules ∧
      Registry.standard.verify tx = (verifySigners tx command >>= fun _ => rules) := by
  rw [wellFormed.standard_verify_eq]
  cases kind with
  | group => exact wellFormed.exists_group_rules
  | membership => exact wellFormed.exists_membership_rules

/-- A signature that is missing, or one too many, is found before anything else. -/
theorem verify_of_signers_ne (wellFormed : tx.WellFormed kind command)
    (differ : tx.signers ≠ command.signers) :
    Registry.standard.verify tx =
      .error (.signerMismatch (command.signers.difference tx.signers).toList
        (tx.signers.difference command.signers).toList) := by
  obtain ⟨rules, _, verdict⟩ := wellFormed.exists_rules
  rw [verdict, verifySigners, Consortium.require, if_neg differ]
  rfl

/-- What is signed as it should be can only be refused for what it does. -/
theorem isRefusal_of_verify (wellFormed : tx.WellFormed kind command)
    (signed : tx.signers = command.signers) {failure : ValidationError}
    (fails : Registry.standard.verify tx = .error failure) : failure.IsRefusal := by
  obtain ⟨rules, onlyRefuses, verdict⟩ := wellFormed.exists_rules
  rw [verdict, verifySigners_eq_ok_iff.2 signed] at fails
  exact onlyRefuses failure fails

theorem verify_modify (wellFormed : tx.WellFormed .group command)
    (isModify : command.value = .group .modify) {input output : GroupState}
    (consumed : (tx.evolution GroupState).input = some input)
    (created : (tx.evolution GroupState).output = some output) :
    Registry.standard.verify tx =
      (verifySigners tx command >>= fun _ =>
        GroupRules.standard.verifyModify tx command input output) := by
  rw [wellFormed.standard_verify_eq]
  change GroupRules.standard.verify tx = _
  unfold GroupRules.verify
  rw [wellFormed.singleCommand_eq (fun _ => CommandValue.group?_isSome_iff)
    (CommandValue.group?_eq_some_iff.2 isModify)]
  refine (wellFormed.verifyStructure_bind (ε := GroupState) rfl _ _).trans ?_
  rw [consumed, created]

theorem verify_exit (wellFormed : tx.WellFormed .group command)
    (isExit : command.value = .group .exit) {input : GroupState}
    (consumed : (tx.evolution GroupState).input = some input) :
    Registry.standard.verify tx =
      (verifySigners tx command >>= fun _ =>
        GroupRules.standard.verifyExit tx command input) := by
  rw [wellFormed.standard_verify_eq]
  change GroupRules.standard.verify tx = _
  unfold GroupRules.verify
  rw [wellFormed.singleCommand_eq (fun _ => CommandValue.group?_isSome_iff)
    (CommandValue.group?_eq_some_iff.2 isExit)]
  refine (wellFormed.verifyStructure_bind (ε := GroupState) rfl _ _).trans ?_
  rw [consumed]

end Contracts

end Transaction.WellFormed

end Consortium
