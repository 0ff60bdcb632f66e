import Consortium.Proofs.Contract.Approval
import Consortium.Proofs.Network.Completion
import Consortium.Proofs.Network.Failure
import Consortium.Proofs.Network.Faultless

/-!
How a proposal settles on a ledger in memory. It is signed for if every required key is the
coordinator's own or one that the ledger signs with; what is well formed, signed for and permitted
by the rules of its command is recorded; and what is recorded takes the place of what it consumes.
-/

namespace Consortium

/-! ### What takes the place of what -/

/-- The current states are those of before without the consumed ones, and the created ones. -/
def Ledger.Replaces (before after : Ledger) (consumed created : List StateAndRef) : Prop :=
  ∀ recorded, recorded ∈ after.states ↔
    recorded ∈ created ∨ recorded ∈ before.states ∧ recorded ∉ consumed

namespace Ledger

variable {ledger : Ledger}

theorem eq_of_reference {first second : StateAndRef} (isFirst : first ∈ ledger.states)
    (isSecond : second ∈ ledger.states) (same : first.reference = second.reference) :
    first = second := by
  obtain ⟨state, reference⟩ := first
  obtain ⟨otherState, otherReference⟩ := second
  have sameReference : reference = otherReference := same
  subst sameReference
  have sameState : some state = some otherState :=
    (mem_states.1 isFirst).symm.trans (mem_states.1 isSecond)
  rw [Option.some.inj sameState]

theorem find?_consumed {inputs : List StateAndRef}
    (current : ∀ input ∈ inputs, input ∈ ledger.states) {recorded : StateAndRef} :
    (inputs.foldl (fun map input => map.erase input.reference) ledger.unconsumed).find?
        recorded.reference = some recorded.state ↔
      recorded ∈ ledger.states ∧ recorded ∉ inputs := by
  rw [SortedMap.find?_foldl_erase StateAndRef.reference inputs, ← mem_states]
  refine and_congr_right fun isCurrent => ?_
  constructor
  · intro spared isInput
    exact spared recorded isInput rfl
  · intro notInput input isInput same
    rw [eq_of_reference (current input isInput) isCurrent same] at isInput
    exact notInput isInput

section Signing

variable [Suite] {tx : Transaction}

theorem recordedOutputs_of_only {state : TransactionState} (creates : tx.outputs = [state]) :
    recordedOutputs tx = [⟨state, ⟨tx.id, 0⟩⟩] := by
  rw [recordedOutputs, creates]
  rfl

/-- No two outputs of a transaction get the same reference, as long as it does not have more of them
than there are positions. -/
theorem nodup_references (few : tx.outputs.length ≤ UInt32.size) :
    ((recordedOutputs tx).map StateAndRef.reference).Nodup := by
  have positions : (recordedOutputs tx).map StateAndRef.reference =
      (List.range tx.outputs.length).map fun index => ⟨tx.id, UInt32.ofNat index⟩ := by
    rw [recordedOutputs, List.map_map, List.range_eq_range', ← List.zipIdx_map_snd, List.map_map]
    rfl
  rw [positions]
  refine List.nodup_range.map_on fun index inRange other otherInRange same => ?_
  have sameIndex : UInt32.ofNat index = UInt32.ofNat other := congrArg StateRef.index same
  have within := Nat.lt_of_lt_of_le (List.mem_range.1 inRange) few
  have otherWithin := Nat.lt_of_lt_of_le (List.mem_range.1 otherInRange) few
  rwa [← UInt32.toNat_inj, UInt32.toNat_ofNat_of_lt' within,
    UInt32.toNat_ofNat_of_lt' otherWithin] at sameIndex

/-- A reference of what is created must not be taken by another state. -/
theorem replaces_record (few : tx.outputs.length ≤ UInt32.size)
    (current : ∀ input ∈ tx.inputs, input ∈ ledger.states)
    (untaken : ∀ created ∈ recordedOutputs tx, ∀ recorded ∈ ledger.states,
      recorded.reference = created.reference → recorded = created) :
    ledger.Replaces (ledger.record tx) tx.inputs (recordedOutputs tx) := by
  intro recorded
  have isCreated : (∃ created ∈ recordedOutputs tx, created.reference = recorded.reference ∧
      created.state = recorded.state) ↔ recorded ∈ recordedOutputs tx := by
    constructor
    · rintro ⟨⟨state, reference⟩, created, rfl, rfl⟩
      exact created
    · intro created
      exact ⟨recorded, created, rfl, rfl⟩
  rw [mem_states, record, SortedMap.find?_foldl_insert_iff _ _ _ _ (nodup_references few),
    isCreated, find?_consumed current]
  by_cases isNew : recorded ∈ recordedOutputs tx
  · exact iff_of_true (.inl isNew) (.inl isNew)
  · refine or_congr_right (and_iff_left_of_imp fun kept created isOutput same => ?_)
    rw [untaken created isOutput recorded kept.1 same.symm] at isNew
    exact isNew isOutput

/-! ### Signatures -/

theorem signAll_isOk_iff {keys : List PublicKey} :
    (∃ signed, ledger.signAll tx keys = .ok signed) ↔
      ∀ key ∈ keys, ledger.keyring.contains key = true := by
  induction keys generalizing tx with
  | nil => exact iff_of_true ⟨tx, rfl⟩ (List.forall_mem_nil _)
  | cons key rest ih =>
      rw [List.forall_mem_cons, signAll, SortedMap.contains]
      cases ledger.keyring.find? key with
      | none =>
          refine iff_of_false (fun isSigned => ?_) fun held => ?_
          · obtain ⟨_, signed⟩ := isSigned
            cases signed
          · cases held.1
      | some keys => exact ih.trans (and_iff_right rfl).symm

end Signing

end Ledger

section Signing

variable [Suite] {coordinator : Coordinator} {ledger : Ledger} {plan : Plan} {now : Timestamp}
  {kind : EntityKind} {command : Command}

/-- The coordinator signs with the key itself, or the ledger signs with it for somebody else. -/
def Coordinator.Obtains (coordinator : Coordinator) (ledger : Ledger) (key : PublicKey) : Prop :=
  key = coordinator.identity.owningKey ∨ ledger.keyring.contains key = true

theorem Coordinator.Genuine.collects_iff (genuine : coordinator.Genuine)
    (unsigned : (plan.draft now).signatures = []) :
    (∃ signed, (Ledger.collectSignatures ((plan.draft now).sign coordinator.keys) ledger).1 =
        .ok signed) ↔
      ∀ command ∈ (plan.draft now).commands, ∀ key ∈ command.signers,
        coordinator.Obtains ledger key := by
  have own (key : PublicKey) :
      key ∈ ((plan.draft now).sign coordinator.keys).signers ↔
        key = coordinator.identity.owningKey := by
    rw [Transaction.mem_signers_sign genuine.signs, Transaction.signers_eq_empty unsigned,
      genuine.ownsKeys]
    exact or_iff_left (SortedSet.notMem_empty key)
  refine Ledger.signAll_isOk_iff.trans ?_
  simp only [SortedSet.mem_toList, SortedSet.mem_difference, Ledger.mem_requiredSigners, own]
  constructor
  · intro held command carried key required
    by_cases isOwn : key = coordinator.identity.owningKey
    · exact .inl isOwn
    · exact .inr (held key ⟨⟨command, carried, required⟩, isOwn⟩)
  · rintro obtained key ⟨⟨command, carried, required⟩, notOwn⟩
    exact (obtained command carried key required).resolve_left notOwn

/-! ### Submission -/

omit [Suite] in
theorem Transaction.permitted_of_unsigned {tx draft : Transaction}
    (same : tx.unsigned = draft.unsigned) : tx.Permitted command ↔ draft.Permitted command := by
  have ofUnsigned (other : Transaction) : other.unsigned.Permitted command ↔
      other.Permitted command := Iff.rfl
  rw [← ofUnsigned tx, same, ofUnsigned]

theorem Coordinator.submit_eq_ok_iff {outcome : Outcome} {after : Ledger} :
    coordinator.submit plan now ledger = (.ok outcome, after) ↔
      ∃ signed,
        (Ledger.collectSignatures ((plan.draft now).sign coordinator.keys) ledger).1 =
          .ok signed ∧
        coordinator.contracts.verify signed = .ok () ∧ ledger.Accepts signed ∧
        plan.outcome ⟨signed.id, Ledger.recordedOutputs signed⟩ = .ok outcome ∧
        ({ ledger with proposals := ledger.proposals + 1 } : Ledger).record signed = after := by
  let collecting : Ledger := { ledger with proposals := ledger.proposals + 1 }
  unfold submit
  dsimp only [Platform.collectSignatures, Platform.finalize, Ledger.collectSignatures]
  cases collected : ledger.signAll ((plan.draft now).sign coordinator.keys)
      ((Ledger.requiredSigners _).difference _).toList with
  | error failure => exact iff_of_false nofun fun ⟨_, isSigned, _⟩ => nomatch isSigned
  | ok signed =>
      simp only [Except.ok.injEq, exists_eq_left']
      cases verdict : coordinator.contracts.verify signed with
      | error failure => exact iff_of_false nofun fun ⟨approved, _⟩ => nomatch approved
      | ok =>
          rw [and_iff_right rfl]
          by_cases accepts : ledger.Accepts signed
          · have stillAccepts : collecting.Accepts signed := ⟨accepts.approved, accepts.current⟩
            rw [and_iff_right accepts, Ledger.finalize_of_accepts stillAccepts, Prod.mk.injEq]
            rfl
          · have stillRefuses (accepted : collecting.Accepts signed) : False :=
              accepts ⟨accepted.approved, accepted.current⟩
            obtain ⟨failure, refused⟩ := Ledger.finalize_of_not_accepts stillRefuses
            rw [refused]
            exact iff_of_false nofun fun ⟨accepted, _⟩ => accepts accepted

theorem Plan.proposes_of_collected {signed : Transaction}
    (collected : (Ledger.collectSignatures ((plan.draft now).sign coordinator.keys) ledger).1 =
      .ok signed) : signed.unsigned = (plan.draft now).unsigned := by
  have same := Ledger.unsigned_of_signAll collected
  exact same

/-- The draft of the plan can be sent out: nothing is wrong with how it is put together, and what
it consumes and refers to is current. -/
structure Plan.Sendable (plan : Plan) (now : Timestamp) (ledger : Ledger) (kind : EntityKind)
    (command : Command) : Prop where
  unsigned : (plan.draft now).signatures = []
  wellFormed : (plan.draft now).WellFormed kind command
  current : ∀ recorded ∈ (plan.draft now).inputs ++ (plan.draft now).references,
    recorded ∈ ledger.states
  answers : plan.Answers

namespace Plan.Sendable

variable (sendable : plan.Sendable now ledger kind command)

include sendable

theorem accepts_iff (genuine : coordinator.Genuine) (inShape : ledger.InShape)
    {signed : Transaction}
    (collected : (Ledger.collectSignatures ((plan.draft now).sign coordinator.keys) ledger).1 =
      .ok signed) :
    coordinator.contracts.verify signed = .ok () ∧ ledger.Accepts signed ↔
      coordinator.identity.owningKey ∈ command.signers ∧
        (plan.draft now).Permitted command := by
  have proposes := Plan.proposes_of_collected collected
  have cosigned := Plan.Cosigned.of_collectSignatures inShape.keysFit genuine.signs
    sendable.unsigned collected
  obtain ⟨inputs, _, references, commands⟩ := Transaction.contents_of_unsigned proposes
  have current : ∀ recorded ∈ signed.inputs ++ signed.references, recorded ∈ ledger.states := by
    rw [inputs, references]
    exact sendable.current
  have accepts : ledger.Accepts signed ↔ Registry.standard.verify signed = .ok () := by
    rw [← inShape.contracts]
    exact ⟨fun accepts => accepts.approved, fun approved => ⟨approved, current⟩⟩
  have required : signed.commands = [command] := commands.trans sendable.wellFormed.commands
  rw [genuine.contracts, accepts, and_self, ← cosigned.signers_eq_iff genuine required,
    (sendable.wellFormed.of_unsigned proposes).approved_iff,
    Transaction.permitted_of_unsigned proposes]

/-- A proposal goes through exactly if everybody signs whom it requires, its coordinator is one of
them, and the rules of its command permit what it does. -/
theorem submit_isOk_iff (genuine : coordinator.Genuine) (inShape : ledger.InShape) :
    (∃ outcome after, coordinator.submit plan now ledger = (.ok outcome, after)) ↔
      (∀ key ∈ command.signers, coordinator.Obtains ledger key) ∧
        coordinator.identity.owningKey ∈ command.signers ∧
        (plan.draft now).Permitted command := by
  have required : (∀ key ∈ command.signers, coordinator.Obtains ledger key) ↔
      ∀ carried ∈ (plan.draft now).commands, ∀ key ∈ carried.signers,
        coordinator.Obtains ledger key := by
    rw [sendable.wellFormed.commands, List.forall_mem_singleton]
  rw [required, ← genuine.collects_iff sendable.unsigned]
  simp only [Coordinator.submit_eq_ok_iff]
  constructor
  · intro ⟨_, _, signed, collected, approved, accepts, _⟩
    exact ⟨⟨signed, collected⟩,
      (sendable.accepts_iff genuine inShape collected).1 ⟨approved, accepts⟩⟩
  · intro ⟨⟨signed, collected⟩, permitted⟩
    obtain ⟨approved, accepts⟩ := (sendable.accepts_iff genuine inShape collected).2 permitted
    obtain ⟨outcome, answered⟩ :=
      sendable.answers signed now (Plan.proposes_of_collected collected)
    exact ⟨outcome, _, signed, collected, approved, accepts, answered, rfl⟩

end Plan.Sendable

/-- What a proposal that has gone through leaves behind. -/
theorem Coordinator.effect_of_submit {outcome : Outcome} {after : Ledger}
    (few : (plan.draft now).outputs.length ≤ UInt32.size)
    (submitted : coordinator.submit plan now ledger = (.ok outcome, after)) :
    ∃ tx, tx.outputs = (plan.draft now).outputs ∧
      plan.outcome ⟨tx.id, Ledger.recordedOutputs tx⟩ = .ok outcome ∧
      ((∀ created ∈ Ledger.recordedOutputs tx, ∀ recorded ∈ ledger.states,
          recorded.reference ≠ created.reference) →
        ledger.Replaces after (plan.draft now).inputs (Ledger.recordedOutputs tx)) := by
  obtain ⟨signed, collected, _, accepts, answered, rfl⟩ := submit_eq_ok_iff.1 submitted
  have proposes := Plan.proposes_of_collected collected
  obtain ⟨inputs, outputs, _, _⟩ := Transaction.contents_of_unsigned proposes
  refine ⟨signed, outputs, answered, fun fresh => ?_⟩
  rw [← outputs] at few
  have current (input : StateAndRef) (member : input ∈ signed.inputs) : input ∈ ledger.states :=
    accepts.current input (List.mem_append_left _ member)
  rw [← inputs]
  exact Ledger.replaces_record few current fun created isNew recorded isCurrent same =>
    absurd same (fresh created isNew recorded isCurrent)

/-! ### Requests -/

section Requests

variable {σ : Type} [LockStore σ] {services : Services Ledger σ} {request : Request}
  {ids : FreshIds}

section Planned

variable (planned : coordinator.plan request ids services.platform = .ok plan)

include planned

theorem Plan.Sendable.run_isOk_iff
    (sendable : plan.Sendable services.clock services.platform kind command)
    (genuine : coordinator.Genuine) (inShape : services.platform.InShape) :
    (∃ outcome, (coordinator.run request ids services).1 = .ok outcome) ↔
      LockStore.Grants ids.lock services.clock 0 plan.claims services.locks ∧
        (∀ key ∈ command.signers, coordinator.Obtains services.platform key) ∧
        coordinator.identity.owningKey ∈ command.signers ∧
        (plan.draft services.clock).Permitted command := by
  rw [Coordinator.run_isOk_iff]
  simp only [planned, Except.ok.injEq, exists_eq_left', sendable.submit_isOk_iff genuine inShape]

namespace Coordinator

variable {outcome : Outcome} {after : Services Ledger σ}
  (ran : coordinator.run request ids services = (.ok outcome, after))

include ran

theorem effect_of_run (few : (plan.draft services.clock).outputs.length ≤ UInt32.size) :
    ∃ tx, tx.outputs = (plan.draft services.clock).outputs ∧
      plan.outcome ⟨tx.id, Ledger.recordedOutputs tx⟩ = .ok outcome ∧
      ((∀ created ∈ Ledger.recordedOutputs tx, ∀ recorded ∈ services.platform.states,
          recorded.reference ≠ created.reference) →
        services.platform.Replaces after.platform (plan.draft services.clock).inputs
          (Ledger.recordedOutputs tx)) := by
  obtain ⟨other, isOther, _, submitted⟩ := run_eq_ok_iff.1
    ⟨congrArg Prod.fst ran, congrArg (fun answer => answer.2.platform) ran⟩
  cases planned.symm.trans isOther
  exact effect_of_submit few submitted

/-- The only state that is created is the first output of a transaction, which nothing on the ledger
must have been yet. -/
theorem effect_of_only {state : TransactionState}
    (creates : (plan.draft services.clock).outputs = [state]) :
    ∃ txId, plan.outcome ⟨txId, [⟨state, ⟨txId, 0⟩⟩]⟩ = .ok outcome ∧
      ((∀ recorded ∈ services.platform.states, recorded.reference ≠ ⟨txId, 0⟩) →
        services.platform.Replaces after.platform (plan.draft services.clock).inputs
          [⟨state, ⟨txId, 0⟩⟩]) := by
  have few : (plan.draft services.clock).outputs.length ≤ UInt32.size := by
    rw [creates, List.length_singleton]
    decide
  obtain ⟨tx, outputs, answered, replaces⟩ := effect_of_run planned ran few
  rw [Ledger.recordedOutputs_of_only (outputs.trans creates)] at answered replaces
  exact ⟨tx.id, answered, fun fresh => replaces (List.forall_mem_singleton.2 fresh)⟩

end Coordinator

end Planned

end Requests

/-- The state that a request answers with if it has recorded one. -/
def Outcome.recorded? : Except NetworkError Outcome → Option StateAndRef
  | .ok (.recorded state) => some state
  | .ok (.bootstrapped _ _ _ _) | .ok (.consumed _) | .error _ => none

omit [Suite] in
theorem Outcome.recorded?_eq_some_iff {answer : Except NetworkError Outcome}
    {state : StateAndRef} : recorded? answer = some state ↔ answer = .ok (.recorded state) := by
  rcases answer with _ | _ | _ | _ <;> simp [recorded?]

/-! ### Authority on a ledger -/

omit [Suite] in
theorem MembershipState.holds_iff {membership : MembershipState} {permission : Permission} :
    membership.holds permission ↔ ∃ role ∈ membership.roles, permission ∈ role.permissions := by
  simp only [holds, Role.grants, List.any_eq_true, SortedSet.mem_toList, decide_eq_true_eq]

/-- The party is an active member of the network, in a role with the permission if one is asked
for. -/
def Ledger.Empowers (ledger : Ledger) (networkId : NetworkId) (party : Party)
    (permission : Option Permission) : Prop :=
  ∃ recorded membership, ledger.membership networkId party = some recorded ∧
    recorded.membership? = some membership ∧ membership.status = .active ∧
    ∀ asked, permission = some asked → ∃ role ∈ membership.roles, asked ∈ role.permissions

section Authority

variable {networkId : NetworkId} {party : Party} {own : StateAndRef}

omit [Suite] in
/-- Where the membership of a party speaks for the initiator, and the party signs if it takes part,
its standing on the ledger decides. -/
theorem Transaction.authorized_iff_empowers {tx : Transaction}
    (found : ledger.membership networkId party = some own) (speaks : tx.IsInitiator own)
    {evolved : EntityHeader} (network : evolved.networkId = networkId)
    (signs : party ∈ evolved.participants → party.owningKey ∈ command.signers)
    {permission : Option Permission} :
    tx.Authorized command evolved permission ↔
      ledger.Empowers networkId party permission ∧ party ∈ evolved.participants := by
  obtain ⟨_, initiator, contents, sameNetwork, rfl⟩ := Ledger.of_membership found
  rw [authorized_iff_of_resolved (resolveInitiator_eq_ok_iff.2 ⟨own, speaks, contents⟩)]
  constructor
  · intro ⟨⟨_, active, permitted, participates⟩, _⟩
    refine ⟨⟨own, initiator, found, contents, active, fun asked asks => ?_⟩, participates⟩
    exact MembershipState.holds_iff.1 (permitted asked asks)
  · rintro ⟨⟨recorded, membership, isRecorded, isMembership, active, permitted⟩, participates⟩
    cases found.symm.trans isRecorded
    cases contents.symm.trans isMembership
    refine ⟨⟨sameNetwork.trans network.symm, active, fun asked asks => ?_, participates⟩,
      signs participates⟩
    exact MembershipState.holds_iff.2 (permitted asked asks)

end Authority

end Signing

end Consortium
