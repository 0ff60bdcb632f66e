import Consortium.Network.Batch
import Consortium.Proofs.Network.Consumption
import Consortium.Proofs.Network.Transitions

/-!
Batches of changes. What a change comes to depends on the memberships of the party and of the
coordinator and on nothing else that a change can touch. So each item of a batch has the outcome and
the effect that it would have alone, unless an earlier item has changed the coordinator's own
membership. An activation cannot do that.
-/

namespace Consortium

/-! ### Members -/

/-- The state is a membership of the party in the network. -/
def StateAndRef.BelongsTo (networkId : NetworkId) (party : Party) (recorded : StateAndRef) : Prop :=
  ∃ membership, recorded.membership? = some membership ∧ membership.networkId = networkId ∧
    membership.owner = party

theorem StateAndRef.BelongsTo.unique {networkId : NetworkId} {party other : Party}
    {recorded : StateAndRef} (belongs : recorded.BelongsTo networkId party)
    (belongsToOther : recorded.BelongsTo networkId other) : party = other := by
  obtain ⟨membership, contents, _, rfl⟩ := belongs
  obtain ⟨_, sameContents, _, rfl⟩ := belongsToOther
  cases contents.symm.trans sameContents
  rfl

namespace Ledger

variable {ledger first second : Ledger}

/-! ### Ledgers with the same states -/

theorem states_inOrder (ledger : Ledger) :
    ledger.states.Pairwise fun earlier later =>
      compare earlier.reference later.reference = .lt :=
  List.pairwise_map.2 ledger.unconsumed.increasing

theorem nodup_states (ledger : Ledger) : ledger.states.Nodup := by
  refine ledger.states_inOrder.imp fun {earlier later} below same => ?_
  rw [same, compare_self_eq] at below
  cases below

/-- States are listed in the order of their references, so of those that `keep` picks the members
determine the list. -/
theorem filter_states_eq {keep : StateAndRef → Bool}
    (same : ∀ recorded, keep recorded = true →
      (recorded ∈ first.states ↔ recorded ∈ second.states)) :
    first.states.filter keep = second.states.filter keep := by
  have perm : (first.states.filter keep).Perm (second.states.filter keep) := by
    refine (List.perm_ext_iff_of_nodup (first.nodup_states.filter keep)
      (second.nodup_states.filter keep)).2 fun recorded => ?_
    rw [List.mem_filter, List.mem_filter]
    exact and_congr_left fun kept => same recorded kept
  refine perm.eq_of_pairwise (fun earlier later _ _ below above => ?_)
    (first.states_inOrder.filter keep) (second.states_inOrder.filter keep)
  exact absurd above (Std.OrientedCmp.not_lt_of_lt below)

theorem states_eq (same : ∀ recorded, recorded ∈ first.states ↔ recorded ∈ second.states) :
    first.states = second.states := by
  have all : first.states.filter (fun _ => true) = second.states.filter fun _ => true :=
    filter_states_eq fun recorded _ => same recorded
  rwa [List.filter_true, List.filter_true] at all

/-- Only the memberships of the party matter to the query for its membership. -/
theorem membership_eq_of_belongs {networkId : NetworkId} {party : Party}
    (same : ∀ recorded, recorded.BelongsTo networkId party →
      (recorded ∈ first.states ↔ recorded ∈ second.states)) :
    first.membership networkId party = second.membership networkId party := by
  unfold membership
  rw [← List.head?_filter, ← List.head?_filter]
  refine congrArg List.head? (filter_states_eq fun recorded fits => same recorded ?_)
  obtain ⟨membership, contents, fitting⟩ := (Option.any_eq_true _ _).1 fits
  exact ⟨membership, contents, of_decide_eq_true fitting⟩

section Signing

variable [Suite] {tx : Transaction}

/-! ### Ledgers without foreign states -/

/-- Every state was recorded with a transaction of the log. -/
def Logged (ledger : Ledger) : Prop :=
  ∀ recorded ∈ ledger.states, ∃ origin ∈ ledger.transactions, recorded ∈ recordedOutputs origin

theorem Logged.record (logged : ledger.Logged) (tx : Transaction) : (ledger.record tx).Logged := by
  intro recorded member
  rcases mem_states_record member with isNew | ⟨earlier, _⟩
  · exact ⟨tx, List.mem_append_right _ (List.mem_singleton_self tx), isNew⟩
  · obtain ⟨origin, inLog, isOutput⟩ := logged recorded earlier
    exact ⟨origin, List.mem_append_left _ inLog, isOutput⟩

/-- A reference that a transaction creates anew is that of a transaction with the same contents. -/
theorem Logged.untaken (logged : ledger.Logged)
    (toldApart : ToldApart (ledger.transactions ++ [tx])) {created recorded : StateAndRef}
    (isNew : created ∈ recordedOutputs tx) (isCurrent : recorded ∈ ledger.states)
    (same : recorded.reference = created.reference) : recorded ∈ recordedOutputs tx := by
  obtain ⟨origin, inLog, isOutput⟩ := logged recorded isCurrent
  have sameId : origin.id = tx.id := by
    rw [← Transaction.txId_of_mem_created (List.mem_map_of_mem isOutput), same,
      Transaction.txId_of_mem_created (List.mem_map_of_mem isNew)]
  have sameContents := toldApart origin (List.mem_append_left _ inLog) tx (by simp) sameId
  have sameOutputs : origin.outputs = tx.outputs := congrArg (fun all => all.2.1) sameContents
  rwa [recordedOutputs, sameId, sameOutputs] at isOutput

theorem signAll_congr (sameKeys : first.keyring = second.keyring) (tx : Transaction)
    (keys : List PublicKey) : first.signAll tx keys = second.signAll tx keys := by
  induction keys generalizing tx with
  | nil => rfl
  | cons key rest ih =>
      unfold signAll
      rw [sameKeys]
      cases second.keyring.find? key with
      | none => rfl
      | some held => exact ih (tx.sign held)

end Signing

end Ledger

section Signing

variable [Suite]

namespace Coordinator

variable {coordinator : Coordinator} {networkId : NetworkId} {party : Party}
  {change : MembershipChange} {now : Timestamp} {ledger first second : Ledger}
  {signed : Transaction}

/-! ### What a change comes to -/

/-- The transaction that the ledger records for a plan, or what its proposal fails with. -/
def signedProposal (coordinator : Coordinator) (plan : Plan) (now : Timestamp) (ledger : Ledger) :
    Except NetworkError Transaction :=
  match (Ledger.collectSignatures ((plan.draft now).sign coordinator.keys) ledger).1 with
  | .error failure => .error failure
  | .ok signed =>
      match coordinator.contracts.verify signed with
      | .error failure => .error (.rejected failure)
      | .ok () =>
          match ledger.contracts.verify signed with
          | .error failure => .error (.rejected failure)
          | .ok () => .ok signed

theorem of_signedProposal {plan : Plan}
    (settles : coordinator.signedProposal plan now ledger = .ok signed) :
    signed.unsigned = (plan.draft now).unsigned ∧ ledger.contracts.verify signed = .ok () := by
  unfold signedProposal at settles
  split at settles
  · cases settles
  · rename_i collected
    split at settles
    · cases settles
    · split at settles
      · cases settles
      · rename_i approved
        cases settles
        exact ⟨Plan.proposes_of_collected collected, approved⟩

/-- Where all that the proposal consumes and refers to is current, nothing else can go wrong. -/
theorem submit_of_current {plan : Plan}
    (current : ∀ recorded ∈ (plan.draft now).inputs ++ (plan.draft now).references,
      recorded ∈ ledger.states) :
    coordinator.submit plan now ledger =
      let counted : Ledger := { ledger with proposals := ledger.proposals + 1 }
      match coordinator.signedProposal plan now ledger with
      | .error failure => (.error failure, counted)
      | .ok signed =>
          (plan.outcome ⟨signed.id, Ledger.recordedOutputs signed⟩, counted.record signed) := by
  let counted : Ledger := { ledger with proposals := ledger.proposals + 1 }
  unfold submit signedProposal
  dsimp only [Platform.collectSignatures, Platform.finalize, Ledger.collectSignatures]
  cases collected : ledger.signAll ((plan.draft now).sign coordinator.keys)
      ((Ledger.requiredSigners _).difference _).toList with
  | error failure => rfl
  | ok signed =>
      obtain ⟨inputs, _, references, _⟩ :=
        Transaction.contents_of_unsigned (Plan.proposes_of_collected collected)
      rw [← inputs, ← references] at current
      dsimp only
      cases coordinator.contracts.verify signed with
      | error failure => rfl
      | ok =>
          cases verdict : ledger.contracts.verify signed with
          | error failure =>
              have refused : Ledger.finalize signed counted =
                  (.error (.rejected failure), counted) := by
                rw [Ledger.finalize]
                change (match ledger.contracts.verify signed with | .error _ => _ | .ok () => _) = _
                rw [verdict]
              rw [refused]
              rfl
          | ok =>
              have accepts : counted.Accepts signed := ⟨verdict, current⟩
              rw [Ledger.finalize_of_accepts accepts]
              rfl

/-- The transaction that the ledger records for a change of a membership, or what the request fails
with. -/
def signedChange (coordinator : Coordinator) (networkId : NetworkId) (change : MembershipChange)
    (now : Timestamp) (ledger : Ledger) (party : Party) : Except NetworkError Transaction := do
  let plan ← coordinator.planTransition networkId party change ledger
  coordinator.signedProposal plan now ledger

/-- The change takes the membership of the party on to its next version. -/
structure Advances (coordinator : Coordinator) (networkId : NetworkId) (change : MembershipChange)
    (now : Timestamp) (ledger : Ledger) (party : Party) (signed : Transaction) (input : StateAndRef)
    (current : MembershipState) : Prop where
  found : ledger.membership networkId party = some input
  contents : input.membership? = some current
  inputs : signed.inputs = [input]
  outputs : signed.outputs = [.ofMembership (evolvedMembership current change now)]
  authority : coordinator.authority networkId party ledger = .ok signed.references
  commands : signed.commands =
    [⟨.membership change.command, coordinator.transitionSigners party⟩]
  approved : ledger.contracts.verify signed = .ok ()

theorem exists_advances
    (settles : coordinator.signedChange networkId change now ledger party = .ok signed) :
    ∃ input current,
      coordinator.Advances networkId change now ledger party signed input current := by
  unfold signedChange at settles
  obtain ⟨plan, planned, settles⟩ := bind_eq_ok_iff.1 settles
  obtain ⟨proposes, approved⟩ := of_signedProposal settles
  obtain ⟨input, current, references, found, contents, authority, rfl⟩ :=
    planTransition_eq_ok_iff.1 planned
  obtain ⟨inputs, outputs, sameReferences, commands⟩ :=
    Transaction.contents_of_unsigned proposes
  exact ⟨input, current, found, contents, inputs, outputs,
    authority.trans (congrArg Except.ok sameReferences.symm), commands, approved⟩

theorem Advances.belongs {input : StateAndRef} {current : MembershipState}
    (advances : coordinator.Advances networkId change now ledger party signed input current) :
    (∀ recorded ∈ signed.inputs, recorded.BelongsTo networkId party) ∧
      ∀ recorded ∈ Ledger.recordedOutputs signed, recorded.BelongsTo networkId party := by
  obtain ⟨network, owner⟩ := fits_of_membership advances.found advances.contents
  rw [advances.inputs, Ledger.recordedOutputs_of_only advances.outputs]
  refine ⟨List.forall_mem_singleton.2 ⟨current, advances.contents, network, owner⟩,
    List.forall_mem_singleton.2 ⟨evolvedMembership current change now, rfl, ?_, ?_⟩⟩
  · exact (evolvedMembership_succeeds current change now).networkId.symm.trans network
  · exact (owner_evolvedMembership current change now).trans owner

theorem signedChange_congr (contracts : first.contracts = second.contracts)
    (keyring : first.keyring = second.keyring)
    (sameParty : first.membership networkId party = second.membership networkId party)
    (sameOwn : first.membership networkId coordinator.identity =
      second.membership networkId coordinator.identity) :
    coordinator.signedChange networkId change now first party =
      coordinator.signedChange networkId change now second party := by
  have samePlan : coordinator.planTransition networkId party change first =
      coordinator.planTransition networkId party change second := by
    unfold planTransition authority Platform.requireMembership
    simp only [Platform.membership, sameParty, sameOwn]
  have sameProposal (plan : Plan) :
      coordinator.signedProposal plan now first = coordinator.signedProposal plan now second := by
    unfold signedProposal Ledger.collectSignatures
    rw [Ledger.signAll_congr keyring, contracts]
  rw [signedChange, samePlan, funext sameProposal, signedChange]

/-- The answer to a change is decided by the transaction that is recorded for it. -/
def answered (settled : Except NetworkError Transaction) : Except NetworkError Outcome :=
  settled.bind fun signed => Plan.recordedMembership ⟨signed.id, Ledger.recordedOutputs signed⟩

theorem answered_eq_recorded_iff {version : StateAndRef} :
    answered (coordinator.signedChange networkId change now ledger party) =
        .ok (.recorded version) ↔
      ∃ signed, coordinator.signedChange networkId change now ledger party = .ok signed ∧
        version ∈ Ledger.recordedOutputs signed := by
  cases settled : coordinator.signedChange networkId change now ledger party with
  | error failure =>
      constructor
      · intro answers
        cases answers
      · rintro ⟨signed, settles, _⟩
        cases settles
  | ok signed =>
      obtain ⟨_, _, advances⟩ := exists_advances settled
      have outputs := Ledger.recordedOutputs_of_only advances.outputs
      have answers : answered (.ok signed) = .ok (.recorded ⟨.ofMembership _, ⟨signed.id, 0⟩⟩) :=
        congrArg (fun outputs => Plan.recordedMembership ⟨signed.id, outputs⟩) outputs
      simp only [answers, outputs, Except.ok.injEq, exists_eq_left', List.mem_singleton,
        Outcome.recorded.injEq, eq_comm]

theorem mem_inputs_iff
    (settles : coordinator.signedChange networkId change now ledger party = .ok signed)
    {recorded : StateAndRef} :
    recorded ∈ signed.inputs ↔ ledger.membership networkId party = some recorded := by
  obtain ⟨_, _, advances⟩ := exists_advances settles
  rw [advances.inputs, advances.found, List.mem_singleton, Option.some.injEq, eq_comm]

section Runs

variable {σ : Type} [LockStore σ] {services : Services Ledger σ}

theorem run_change (coordinator : Coordinator) (networkId : NetworkId) (party : Party)
    (change : MembershipChange) (ids : FreshIds) (services : Services Ledger σ) :
    ∃ proposals, coordinator.run (.change networkId party change) ids services =
      match coordinator.signedChange networkId change services.clock services.platform party with
      | .error failure =>
          (.error failure, { services with platform := { services.platform with proposals } })
      | .ok signed =>
          (Plan.recordedMembership ⟨signed.id, Ledger.recordedOutputs signed⟩,
            { services with
              platform := ({ services.platform with proposals } : Ledger).record signed }) := by
  let request : Request := .change networkId party change
  rw [signedChange]
  cases planned : coordinator.planTransition networkId party change services.platform with
  | error failure =>
      have refused : coordinator.plan request ids services.platform = .error failure := planned
      exact ⟨services.platform.proposals, run_of_refused refused⟩
  | ok plan =>
      have isPlan : coordinator.plan request ids services.platform = .ok plan := planned
      obtain ⟨input, current, references, found, _, authority, rfl⟩ :=
        planTransition_eq_ok_iff.1 planned
      obtain ⟨own, isOwn, rfl⟩ := (authority_eq_ok_iff_of_found found).1 authority
      refine ⟨services.platform.proposals + 1, (run_of_planned isPlan).trans ?_⟩
      refine (Task.finish_unclaimed rfl rfl services).trans ?_
      rw [submit_of_current fun recorded => mem_states_of_backing found isOwn]
      change _ = match coordinator.signedProposal _ services.clock services.platform with
        | .error failure => _ | .ok signed => _
      cases coordinator.signedProposal _ services.clock services.platform <;> rfl

theorem answer_run_change (coordinator : Coordinator) (networkId : NetworkId) (party : Party)
    (change : MembershipChange) (ids : FreshIds) (services : Services Ledger σ) :
    (coordinator.run (.change networkId party change) ids services).1 =
      answered (coordinator.signedChange networkId change services.clock services.platform
        party) := by
  obtain ⟨proposals, ran⟩ := coordinator.run_change networkId party change ids services
  rw [ran]
  cases coordinator.signedChange networkId change services.clock services.platform party <;> rfl

end Runs

/-! ### An activation of one's own membership -/

/-- The coordinator would have to be active for it already. -/
theorem not_settles_own (standard : ledger.contracts = .standard) :
    coordinator.signedChange networkId .activate now ledger coordinator.identity ≠ .ok signed := by
  intro settles
  obtain ⟨input, current, advances⟩ := exists_advances settles
  have approved := advances.approved
  rw [standard] at approved
  have touched : .ofMembership (evolvedMembership current .activate now) ∈ signed.touched := by
    rw [Transaction.touched, advances.outputs]
    exact List.mem_append_right _ (List.mem_singleton_self _)
  obtain ⟨command, value, accepted⟩ := Registry.membershipAccepted_of_touched approved touched
  have isActivation : value = .activate := by
    have single := accepted.single
    rw [Transaction.selectCommands, advances.commands] at single
    cases single
    rfl
  subst isActivation
  obtain ⟨changes, recorded, initiator, speaks, isInitiator, authorizes, _⟩ :=
    (Transaction.permitsTransition_iff advances.inputs advances.contents advances.outputs).1
      accepted.permitted
  have noReference : signed.references = [] := by
    rcases authority_eq_ok_iff.1 advances.authority with ⟨_, none⟩ | ⟨notOwn, _⟩
    · exact none
    · exact absurd rfl notOwn
  -- So the membership that is to become active speaks for the initiator itself.
  rcases speaks with reference | ⟨_, consumes⟩
  · cases noReference.symm.trans reference
  · cases advances.inputs.symm.trans consumes
    cases advances.contents.symm.trans isInitiator
    exact changes.1 authorizes.active

/-! ### One change after another -/

/-- The ledger is `base` after the changes for the parties `done`, each with the effect that it has
on `base`. -/
structure Carried (coordinator : Coordinator) (networkId : NetworkId) (change : MembershipChange)
    (now : Timestamp) (base ledger : Ledger) (done : List Party) : Prop where
  contracts : ledger.contracts = base.contracts
  keyring : ledger.keyring = base.keyring
  logged : ledger.Logged
  membership : ∀ party, party ∉ done ∨ party = coordinator.identity →
    ledger.membership networkId party = base.membership networkId party
  states : ∀ recorded, recorded ∈ ledger.states ↔
    (∃ party ∈ done, ∃ signed,
      coordinator.signedChange networkId change now base party = .ok signed ∧
        recorded ∈ Ledger.recordedOutputs signed) ∨
    recorded ∈ base.states ∧ ∀ party ∈ done, ∀ signed,
      coordinator.signedChange networkId change now base party = .ok signed →
        recorded ∉ signed.inputs

namespace Carried

variable {base : Ledger} {done : List Party}

theorem start (logged : base.Logged) : coordinator.Carried networkId change now base base [] where
  contracts := rfl
  keyring := rfl
  logged := logged
  membership _ _ := rfl
  states recorded := by simp

variable (carried : coordinator.Carried networkId change now base ledger done)

include carried

theorem signedChange_eq (fresh : party ∉ done) :
    coordinator.signedChange networkId change now ledger party =
      coordinator.signedChange networkId change now base party :=
  signedChange_congr carried.contracts carried.keyring (carried.membership party (.inl fresh))
    (carried.membership coordinator.identity (.inr rfl))

/-- The states that the changes have answered with are there instead of the memberships that the
parties had. -/
theorem mem_states_iff {recorded : StateAndRef} :
    recorded ∈ ledger.states ↔
      (∃ party ∈ done, answered (coordinator.signedChange networkId change now base party) =
        .ok (.recorded recorded)) ∨
      recorded ∈ base.states ∧ ∀ party ∈ done, ∀ version,
        answered (coordinator.signedChange networkId change now base party) =
          .ok (.recorded version) → base.membership networkId party ≠ some recorded := by
  refine (carried.states recorded).trans (or_congr ?_ (and_congr_right fun _ => ?_))
  · simp only [answered_eq_recorded_iff]
  · refine forall₂_congr fun party _ => ?_
    simp only [answered_eq_recorded_iff]
    constructor
    · intro spared version ⟨signed, settles, _⟩ found
      exact spared signed settles ((mem_inputs_iff settles).2 found)
    · intro spared signed settles isInput
      obtain ⟨_, _, advances⟩ := exists_advances settles
      obtain ⟨version, isCreated⟩ : ∃ version, version ∈ Ledger.recordedOutputs signed := by
        rw [Ledger.recordedOutputs_of_only advances.outputs]
        exact ⟨_, List.mem_singleton_self _⟩
      exact spared version ⟨signed, settles, isCreated⟩ ((mem_inputs_iff settles).1 isInput)

theorem count (proposals : Nat) :
    coordinator.Carried networkId change now base { ledger with proposals } done :=
  ⟨carried.contracts, carried.keyring, carried.logged, carried.membership, carried.states⟩

theorem skip {failure : NetworkError}
    (fails : coordinator.signedChange networkId change now base party = .error failure) :
    coordinator.Carried networkId change now base ledger (party :: done) where
  contracts := carried.contracts
  keyring := carried.keyring
  logged := carried.logged
  membership other apart :=
    carried.membership other (apart.imp_left List.not_mem_of_not_mem_cons)
  states recorded := by
    have unsettled (signed : Transaction) :
        coordinator.signedChange networkId change now base party ≠ .ok signed := by
      rw [fails]
      exact nofun
    refine (carried.states recorded).trans ?_
    simp [unsettled]

theorem record (fresh : party ∉ done) (other : party ≠ coordinator.identity)
    (settles : coordinator.signedChange networkId change now base party = .ok signed)
    (toldApart : ToldApart (ledger.transactions ++ [signed])) :
    coordinator.Carried networkId change now base (ledger.record signed) (party :: done) := by
  obtain ⟨input, current, advances⟩ :=
    exists_advances ((carried.signedChange_eq fresh).trans settles)
  obtain ⟨consumed, created⟩ := advances.belongs
  have replaces : ledger.Replaces (ledger.record signed) signed.inputs
      (Ledger.recordedOutputs signed) := by
    refine Ledger.replaces_record ?_ ?_ fun output isNew recorded isCurrent same => ?_
    · rw [advances.outputs, List.length_singleton]
      decide
    · rw [advances.inputs]
      exact List.forall_mem_singleton.2 (List.mem_of_find?_eq_some advances.found)
    · have again := carried.logged.untaken toldApart isNew isCurrent same
      rw [Ledger.recordedOutputs_of_only advances.outputs, List.mem_singleton] at isNew again
      exact again.trans isNew.symm
  refine ⟨carried.contracts, carried.keyring, carried.logged.record signed, fun another apart => ?_,
    fun recorded => ?_⟩
  · have differs : another ≠ party := by
      rintro rfl
      exact apart.elim (fun notDone => notDone List.mem_cons_self) other
    have same : (ledger.record signed).membership networkId another =
        ledger.membership networkId another := by
      refine Ledger.membership_eq_of_belongs fun recorded belongs => (replaces recorded).trans ?_
      have notCreated : recorded ∉ Ledger.recordedOutputs signed :=
        fun isNew => differs (belongs.unique (created recorded isNew))
      have notConsumed : recorded ∉ signed.inputs :=
        fun isInput => differs (belongs.unique (consumed recorded isInput))
      rw [or_iff_right notCreated, and_iff_left notConsumed]
    exact same.trans (carried.membership another (apart.imp_left List.not_mem_of_not_mem_cons))
  · -- What earlier changes created belongs to other parties.
    have unconsumed : (∃ earlier ∈ done, ∃ before,
        coordinator.signedChange networkId change now base earlier = .ok before ∧
          recorded ∈ Ledger.recordedOutputs before) → recorded ∉ signed.inputs := by
      intro ⟨earlier, isDone, before, settled, isOutput⟩ isInput
      obtain ⟨_, _, advanced⟩ := exists_advances settled
      have same := (advanced.belongs.2 recorded isOutput).unique (consumed recorded isInput)
      exact fresh (same ▸ isDone)
    rw [replaces, carried.states]
    simp only [List.exists_mem_cons_iff, List.forall_mem_cons, settles, Except.ok.injEq,
      exists_eq_left', forall_eq']
    rw [or_and_right, and_iff_left_of_imp unconsumed, or_assoc, and_right_comm, and_assoc]

end Carried

/-! ### A whole batch -/

section Batches

variable {σ : Type} [LockStore σ] {base : Ledger} {done parties : List Party}
  {services : Services Ledger σ}

/-- The party gets the answer that it gets on `base`, and nothing else than the ledger changes. -/
theorem Carried.run {ids : FreshIds} (standard : base.contracts = .standard)
    (carried : coordinator.Carried networkId change services.clock base services.platform done)
    (fresh : party ∉ done) (apart : change = .activate ∨ party ≠ coordinator.identity)
    (toldApart : ToldApart
      (coordinator.run (.change networkId party change) ids services).2.platform.transactions) :
    ∃ platform, coordinator.run (.change networkId party change) ids services =
        (answered (coordinator.signedChange networkId change services.clock base party),
          { services with platform }) ∧
      coordinator.Carried networkId change services.clock base platform (party :: done) := by
  obtain ⟨proposals, ran⟩ := coordinator.run_change networkId party change ids services
  rw [carried.signedChange_eq fresh] at ran
  rw [ran] at toldApart ⊢
  cases settled : coordinator.signedChange networkId change services.clock base party with
  | error failure => exact ⟨_, rfl, (carried.count proposals).skip settled⟩
  | ok signed =>
      rw [settled] at toldApart
      have other : party ≠ coordinator.identity := by
        rintro rfl
        rcases apart with rfl | other
        · exact not_settles_own standard settled
        · exact other rfl
      exact ⟨_, rfl, (carried.count proposals).record fresh other settled toldApart⟩

theorem runBatch_cons (ids : Nat → FreshIds) (party : Party) (rest : List Party)
    (services : Services Ledger σ) :
    coordinator.runBatch networkId change ids (party :: rest) services =
      let (result, between) := coordinator.run (.change networkId party change) (ids 0) services
      let (others, after) :=
        coordinator.runBatch networkId change (fun index => ids (index + 1)) rest between
      ((party, result) :: others, after) := rfl

theorem transactions_subset_runBatch (ids : Nat → FreshIds) (parties : List Party)
    (services : Services Ledger σ) :
    services.platform.transactions ⊆
      (coordinator.runBatch networkId change ids parties services).2.platform.transactions := by
  induction parties generalizing ids services with
  | nil => exact List.Subset.refl _
  | cons party rest ih =>
      obtain ⟨proposals, ran⟩ := coordinator.run_change networkId party change (ids 0) services
      rw [runBatch_cons, ran]
      refine List.Subset.trans ?_ (ih _ _)
      split
      · exact List.Subset.refl _
      · exact List.subset_append_left _ _

theorem Carried.runBatch {ids : Nat → FreshIds} (standard : base.contracts = .standard)
    (carried : coordinator.Carried networkId change services.clock base services.platform done)
    (distinct : parties.Nodup) (fresh : ∀ party ∈ parties, party ∉ done)
    (apart : change = .activate ∨ coordinator.identity ∉ parties)
    (toldApart : ToldApart
      (coordinator.runBatch networkId change ids parties services).2.platform.transactions) :
    ∃ platform, coordinator.runBatch networkId change ids parties services =
        (parties.map fun party => (party, answered
          (coordinator.signedChange networkId change services.clock base party)),
          { services with platform }) ∧
      coordinator.Carried networkId change services.clock base platform
        (parties.reverse ++ done) := by
  induction parties generalizing ids services done with
  | nil => exact ⟨services.platform, rfl, carried⟩
  | cons party rest ih =>
      obtain ⟨notInRest, distinctRest⟩ := List.nodup_cons.1 distinct
      obtain ⟨freshParty, freshRest⟩ := List.forall_mem_cons.1 fresh
      have freshLater : ∀ later ∈ rest, later ∉ party :: done := fun later isLater =>
        List.not_mem_cons_of_ne_of_not_mem (fun same => notInRest (same ▸ isLater))
          (freshRest later isLater)
      have apartParty : change = .activate ∨ party ≠ coordinator.identity :=
        apart.imp_right fun notListed same => notListed (same ▸ List.mem_cons_self)
      rw [runBatch_cons] at toldApart ⊢
      have toldApartNow := toldApart.mono (transactions_subset_runBatch _ rest _)
      obtain ⟨between, ran, carriedOn⟩ := carried.run standard freshParty apartParty toldApartNow
      rw [ran] at toldApart ⊢
      obtain ⟨platform, ranRest, carriedRest⟩ := ih carriedOn distinctRest freshLater
        (apart.imp_right List.not_mem_of_not_mem_cons) toldApart
      refine ⟨platform, ?_, ?_⟩
      · dsimp only
        rw [ranRest, List.map_cons]
      · rw [List.reverse_cons, List.append_assoc]
        exact carriedRest

end Batches

end Coordinator

namespace Interleaving

variable {σ : Type} [LockStore σ] {locks : σ} {clock : Timestamp} {state : Interleaving Ledger σ}

/-- Apart from what coordinators have recorded, the ledger only learns keys. -/
def LeavesRecord (state : Interleaving Ledger σ) : Turn Ledger σ → Prop
  | .alterPlatform ledger => ∃ keys, ledger = state.services.platform.register keys
  | .ask _ _ _ | .check _ _ | .advance _ | .drop _ | .setClock _ | .alterLocks _ => True

omit [LockStore σ] in
theorem KeepsOrder.leavesRecord {turn : Turn Ledger σ} (keepsOrder : state.KeepsOrder turn) :
    state.LeavesRecord turn := by
  cases turn with
  | alterPlatform ledger =>
      obtain ⟨keys, _, same⟩ := keepsOrder
      exact ⟨keys, same⟩
  | ask | check | advance | drop | setClock | alterLocks => trivial

theorem Reaches.logged
    (reaches : Reaches LeavesRecord (opened (.empty .standard) locks clock) state) :
    state.services.platform.contracts = .standard ∧ state.services.platform.Logged := by
  induction reaches with
  | start => exact ⟨rfl, nofun⟩
  | @next state turn earlier sees leavesRecord ih =>
      have moves := step_moves state turn
      generalize state.step turn = next at moves
      cases moves with
      | asked | checked | clocked | relocked | idle => exact ih
      | @advanced position operation view task =>
          rcases Task.step_ledger task state.services with
            ⟨proposals, _, counted⟩ | ⟨tx, _, _, _, recorded⟩
          · rw [counted]
            exact ih
          · rw [recorded]
            exact ⟨ih.1, ih.2.record tx⟩
      | dropped =>
          rw [Operation.platform_cancel]
          exact ih
      | altered isTurn =>
          subst isTurn
          obtain ⟨keys, rfl⟩ := leavesRecord
          exact ih

/-- The items of a batch do not influence each other, if it is about different parties and does not
change the membership under whose authority it runs; an activation of that membership fails. So in
any order each party gets the answer that it would get alone, the same states are current at the
end, those that were answered with in the place of the memberships from before, and the locks are
untouched. -/
theorem batch_items_are_independent
    (reaches : Reaches LeavesRecord (opened (.empty .standard) locks clock) state)
    (coordinator : Coordinator) (networkId : NetworkId) {change : MembershipChange}
    (ids otherIds : Nat → FreshIds) {parties others : List Party} (distinct : parties.Nodup)
    (perm : others.Perm parties) (apart : change = .activate ∨ coordinator.identity ∉ parties)
    (toldApart : ToldApart
      (coordinator.runBatch networkId change ids parties state.services).2.platform.transactions ∧
      ToldApart (coordinator.runBatch networkId change otherIds others
        state.services).2.platform.transactions) :
    let first := coordinator.runBatch networkId change ids parties state.services
    let second := coordinator.runBatch networkId change otherIds others state.services
    first.1.map Prod.fst = parties ∧ second.1.map Prod.fst = others ∧ second.1.Perm first.1 ∧
      (∀ item ∈ first.1, ∀ alone, item.2 =
        (coordinator.run (.change networkId item.1 change) alone state.services).1) ∧
      (∀ recorded, recorded ∈ first.2.platform.states ↔
        (∃ item ∈ first.1, item.2 = .ok (.recorded recorded)) ∨
        recorded ∈ state.services.platform.states ∧
          ∀ item ∈ first.1, ∀ version, item.2 = .ok (.recorded version) →
            state.services.platform.membership networkId item.1 ≠ some recorded) ∧
      second.2.platform.states = first.2.platform.states ∧
      first.2.locks = state.services.locks ∧ second.2.locks = state.services.locks := by
  intro first second
  obtain ⟨standard, logged⟩ := reaches.logged
  have start : coordinator.Carried networkId change state.services.clock state.services.platform
      state.services.platform [] := .start logged
  obtain ⟨firstLedger, ranFirst, carriedFirst⟩ :=
    start.runBatch standard distinct (fun _ _ => List.not_mem_nil) apart toldApart.1
  obtain ⟨secondLedger, ranSecond, carriedSecond⟩ :=
    start.runBatch standard (perm.nodup_iff.2 distinct) (fun _ _ => List.not_mem_nil)
      (apart.imp_right perm.mem_iff.not.2) toldApart.2
  have isFirst : first = _ := ranFirst
  have isSecond : second = _ := ranSecond
  have names (listed : List Party) (answer : Party → Except NetworkError Outcome) :
      (listed.map fun party => (party, answer party)).map Prod.fst = listed := by
    rw [List.map_map]
    exact List.map_id listed
  rw [isFirst, isSecond]
  refine ⟨names _ _, names _ _, perm.map _, fun item isItem alone => ?_, fun recorded => ?_, ?_,
    rfl, rfl⟩
  · obtain ⟨party, _, rfl⟩ := List.mem_map.1 isItem
    exact (coordinator.answer_run_change networkId party change alone state.services).symm
  · rw [carriedFirst.mem_states_iff]
    simp only [List.append_nil, List.mem_reverse, List.mem_map, exists_exists_and_eq_and,
      forall_exists_index, and_imp, forall_apply_eq_imp_iff₂]
  · refine Ledger.states_eq fun recorded => ?_
    rw [carriedSecond.states, carriedFirst.states]
    simp only [List.append_nil, List.mem_reverse, perm.mem_iff]

end Interleaving

end Signing

section Specimen

open Transparent

namespace Interleaving

/-- The founder activates several members of the network at once. -/
def activations (parties : List Party) :
    List (Party × Except NetworkError Outcome) × Services Ledger LockTable :=
  letI := suite
  (underStandard founder 1).runBatch ⟨"net"⟩ .activate (fun index => Session.idsOf (.ofNat index))
    parties awaiting.services

set_option maxRecDepth 10000 in
theorem activations_are_told_apart :
    letI := suite
    let first := activations [joiner, founder]
    ToldApart first.2.platform.transactions ∧
      ToldApart (activations [founder, joiner]).2.platform.transactions ∧
      first.1.map (fun item => item.2.toOption.isSome) = [true, false] ∧
      (first.1.filterMap fun item => Outcome.recorded? item.2).any fun version =>
        decide (version ∉ awaiting.services.platform.states) := by
  decide +kernel

/-- The joiner becomes active, and the founder is so already, whichever comes first. -/
theorem activations_are_independent :
    letI := suite
    let first := activations [joiner, founder]
    let second := activations [founder, joiner]
    first.1.map (fun item => item.2.toOption.isSome) = [true, false] ∧
      second.1.map Prod.fst = [founder, joiner] ∧ second.1.Perm first.1 ∧
      (∃ item ∈ first.1, ∃ version, item.2 = .ok (.recorded version) ∧
        version ∉ awaiting.services.platform.states ∧ version ∈ first.2.platform.states) ∧
      second.2.platform.states = first.2.platform.states := by
  let _ := suite
  obtain ⟨first, second, answers, isNew⟩ := activations_are_told_apart
  have reached : Reaches LeavesRecord blank awaiting :=
    awaiting_reached.imp fun _ _ _ => KeepsOrder.leavesRecord
  obtain ⟨_, names, perm, _, states, same, _⟩ :=
    batch_items_are_independent reached (underStandard founder 1) ⟨"net"⟩
      (fun index => Session.idsOf (.ofNat index)) (fun index => Session.idsOf (.ofNat index))
      (by decide +kernel) (List.Perm.swap joiner founder []) (.inl rfl) ⟨first, second⟩
  refine ⟨answers, names, perm, ?_, same⟩
  obtain ⟨version, isListed, fresh⟩ := List.any_eq_true.1 isNew
  obtain ⟨item, isItem, isRecorded⟩ := List.mem_filterMap.1 isListed
  have answer := Outcome.recorded?_eq_some_iff.1 isRecorded
  exact ⟨item, isItem, version, answer, of_decide_eq_true fresh,
    (states version).2 (.inl ⟨item, isItem, answer⟩)⟩

end Interleaving

end Specimen

end Consortium
