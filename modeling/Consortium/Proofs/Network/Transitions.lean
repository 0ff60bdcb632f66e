import Consortium.Proofs.Network.Outsiders
import Consortium.Proofs.Network.Settlement
import Mathlib.Data.Prod.Basic

/-!
Changes of memberships from the request to the ledger. A change or a revocation succeeds if the
coordinator has the authority for it, takes part in what comes of it, asks for something that is not
so already, and can get the signature of the member. It has then had its effect, and no other one.
-/

namespace Consortium

section Signing

variable [Suite]

/-! ### Members take part in their memberships -/

def Ledger.OwnersParticipate (ledger : Ledger) : Prop :=
  ∀ recorded ∈ ledger.states, ∀ membership, recorded.membership? = some membership →
    membership.owner ∈ membership.participants

namespace Ledger.OwnersParticipate

variable {ledger : Ledger} {tx : Transaction}

/-- What is recorded has been looked at by the contract of memberships if it is under it. -/
theorem record (participate : ledger.OwnersParticipate) (inShape : ledger.InShape)
    (accepts : ledger.Accepts tx) (staysInShape : (ledger.record tx).InShape) :
    (ledger.record tx).OwnersParticipate := by
  intro recorded member membership contents
  rcases mem_states_record member with isNew | ⟨earlier, _⟩
  · have isOutput := state_of_mem_recordedOutputs isNew
    have governed := (staysInShape.states recorded member).governed
    rw [ContractState.membership?_eq_some_iff.1 contents] at governed
    have approved := accepts.approved
    rw [inShape.contracts] at approved
    rw [TransactionState.eq_ofMembership contents governed] at isOutput
    obtain ⟨command, value, accepted⟩ :=
      Registry.membershipAccepted_of_touched approved (List.mem_append_right _ isOutput)
    have ofState : (ContractState.membership membership).membership? = some membership := rfl
    obtain ⟨_, created, _⟩ := accepted.sound.created accepted.few_outputs isOutput ofState
    exact accepted.ownerParticipates membership created
  · exact participate recorded earlier membership contents

end Ledger.OwnersParticipate

namespace Interleaving

variable {σ : Type} [LockStore σ] {locks : σ} {clock : Timestamp} {state : Interleaving Ledger σ}

theorem Reaches.ownersParticipate
    (reaches : Reaches KeepsOrder (opened (.empty .standard) locks clock) state) :
    state.services.platform.OwnersParticipate := by
  induction reaches with
  | start => exact nofun
  | @next state turn earlier sees keepsOrder ih =>
      have inShape : state.services.platform.InShape := earlier.sound.history _ List.mem_cons_self
      have staysInShape : (state.step turn).services.platform.InShape :=
        (earlier.next sees keepsOrder).sound.history _ List.mem_cons_self
      have moves := step_moves state turn
      generalize state.step turn = next at moves staysInShape
      cases moves with
      | asked | checked | clocked | relocked | idle => exact ih
      | @advanced position operation view task =>
          rcases Task.step_ledger task state.services with
            ⟨proposals, _, counted⟩ | ⟨tx, _, accepts, _, recorded⟩
          · rw [counted]
            exact ih
          · rw [recorded] at staysInShape ⊢
            exact ih.record inShape accepts staysInShape
      | dropped =>
          rw [Operation.platform_cancel]
          exact ih
      | altered isTurn =>
          subst isTurn
          obtain ⟨keys, _, rfl⟩ := keepsOrder
          exact ih

end Interleaving

/-! ### Changes -/

namespace MembershipChange

/-- The permission that the change takes, if it takes any. -/
def permission : MembershipChange → Option Permission
  | .activate => some .activateMembership
  | .suspend => some .suspendMembership
  | .setRoles _ => some .modifyRoles
  | .setBusiness _ => some .modifyBusinessIdentity
  | .setParticipants _ => none

/-- The change asks for something that is not so already, and `next` is what comes of it, the time
of modification aside. -/
def TakesTo (change : MembershipChange) (current next : MembershipState) : Prop :=
  match change with
  | .activate => current.status ≠ .active ∧ next = { current with status := .active }
  | .suspend => current.status ≠ .suspended ∧ next = { current with status := .suspended }
  | .setRoles roles => current.roles ≠ roles ∧ next = { current with roles }
  | .setBusiness business =>
      current.identity.business ≠ business ∧
        next = { current with identity := { current.identity with business } }
  | .setParticipants participants =>
      current.participants ≠ participants ∧ next = { current with participants }

variable {change : MembershipChange} {current next : MembershipState}

omit [Suite] in
/-- The rules of a change ask for nothing more of the next version than that it is another one. -/
theorem takesTo_iff (now : Timestamp) :
    change.TakesTo current next ↔
      change.command.Changes current (Coordinator.evolvedMembership current change now) ∧
        change.apply current = next := by
  cases change <;>
    simp [TakesTo, command, MembershipCommand.Changes, apply, Coordinator.evolvedMembership,
      MembershipState.business, MembershipState.owner, eq_comm]

omit [Suite] in
theorem TakesTo.apply_eq (takes : change.TakesTo current next) : change.apply current = next :=
  ((takesTo_iff .epoch).1 takes).2

omit [Suite] in
theorem mem_participants_apply_iff {party : Party} (participates : party ∈ current.participants) :
    party ∈ (change.apply current).participants ↔
      ∀ participants, change = .setParticipants participants → party ∈ participants := by
  cases change with
  | setParticipants participants => simp [apply]
  | activate | suspend | setRoles | setBusiness =>
      exact iff_of_true participates nofun

omit [Suite] in
theorem permission_command (change : MembershipChange) :
    change.command.permission = change.permission := by
  cases change <;> rfl

omit [Suite] in
theorem permitsMembership_command (tx : Transaction) (command : Command) :
    tx.PermitsMembership command change.command =
      tx.PermitsTransition command change.command := by
  cases change <;> rfl

end MembershipChange

namespace Coordinator

variable {coordinator : Coordinator} {ledger : Ledger} {networkId : NetworkId} {party : Party}
  {input own : StateAndRef} {current : MembershipState}

/-- What the coordinator refers to when it changes the membership of the party. -/
def backing (coordinator : Coordinator) (party : Party) (own : StateAndRef) : List StateAndRef :=
  if party = coordinator.identity then [] else [own]

theorem authority_eq_ok_iff_of_found (found : ledger.membership networkId party = some input)
    {references : List StateAndRef} :
    coordinator.authority networkId party ledger = .ok references ↔
      ∃ own, ledger.membership networkId coordinator.identity = some own ∧
        coordinator.backing party own = references := by
  rw [authority_eq_ok_iff]
  unfold backing
  by_cases self : party = coordinator.identity
  · subst self
    simp [found, eq_comm]
  · simp [self, eq_comm]

omit [Suite] in
theorem isInitiator_of_backing (found : ledger.membership networkId party = some input)
    (isOwn : ledger.membership networkId coordinator.identity = some own) {tx : Transaction}
    (consumes : tx.inputs = [input]) (refers : tx.references = coordinator.backing party own) :
    tx.IsInitiator own := by
  rw [backing] at refers
  split at refers
  · rename_i self
    subst self
    cases found.symm.trans isOwn
    exact .inr ⟨refers, consumes⟩
  · exact .inl refers

omit [Suite] in
theorem speaksBy_of_membership
    (isOwn : ledger.membership networkId coordinator.identity = some own) :
    coordinator.SpeaksBy own := by
  obtain ⟨_, membership, contents, _, sameOwner⟩ := Ledger.of_membership isOwn
  exact ⟨membership, contents, sameOwner⟩

omit [Suite] in
theorem speaks_of_backing (isOwn : ledger.membership networkId coordinator.identity = some own)
    (party : Party) :
    coordinator.backing party own = [] ∨
      ∃ own', coordinator.backing party own = [own'] ∧ coordinator.SpeaksBy own' := by
  rw [backing]
  split
  · exact .inl rfl
  · exact .inr ⟨own, rfl, speaksBy_of_membership isOwn⟩

omit [Suite] in
theorem mem_states_of_backing (found : ledger.membership networkId party = some input)
    (isOwn : ledger.membership networkId coordinator.identity = some own)
    {recorded : StateAndRef} (member : recorded ∈ input :: coordinator.backing party own) :
    recorded ∈ ledger.states := by
  rcases List.mem_cons.1 member with rfl | refers
  · exact List.mem_of_find?_eq_some found
  · rw [backing] at refers
    split at refers
    · cases refers
    · rw [List.mem_singleton.1 refers]
      exact List.mem_of_find?_eq_some isOwn

omit [Suite] in
theorem obtains_transitionSigners_iff :
    (∀ key ∈ coordinator.transitionSigners party, coordinator.Obtains ledger key) ↔
      coordinator.Obtains ledger party.owningKey := by
  simp only [transitionSigners, SortedSet.mem_ofList, List.mem_cons, List.not_mem_nil, or_false,
    forall_eq_or_imp, forall_eq]
  exact and_iff_right (.inl rfl)

omit [Suite] in
theorem mem_transitionSigners (party : Party) :
    coordinator.identity.owningKey ∈ coordinator.transitionSigners party := by
  rw [transitionSigners, SortedSet.mem_ofList]
  exact List.mem_cons_self

/-- What it takes to change the membership of the party to `next`. -/
structure MayChange (coordinator : Coordinator) (ledger : Ledger) (networkId : NetworkId)
    (party : Party) (change : MembershipChange) (next : MembershipState) : Prop where
  empowered : ledger.Empowers networkId coordinator.identity change.permission
  callerParticipates : coordinator.identity ∈ next.participants
  ownerParticipates : ∀ participants, change = .setParticipants participants →
    party ∈ participants
  signs : coordinator.Obtains ledger party.owningKey

/-- What it takes to revoke a membership. -/
structure MayRevoke (coordinator : Coordinator) (ledger : Ledger) (networkId : NetworkId)
    (party : Party) (current : MembershipState) : Prop where
  empowered : ledger.Empowers networkId coordinator.identity (some .revokeMembership)
  callerParticipates : coordinator.identity ∈ current.participants
  signs : coordinator.Obtains ledger party.owningKey

omit [Suite] in
theorem fits_of_membership (found : ledger.membership networkId party = some input)
    (contents : input.membership? = some current) :
    current.networkId = networkId ∧ current.owner = party := by
  obtain ⟨_, membership, isMembership, fits⟩ := Ledger.of_membership found
  cases contents.symm.trans isMembership
  exact fits

section Memberships

variable (inShape : ledger.InShape) (found : ledger.membership networkId party = some input)
  (contents : input.membership? = some current)
  (isOwn : ledger.membership networkId coordinator.identity = some own)

include found contents isOwn

theorem plan_change (change : MembershipChange) (ids : FreshIds) :
    coordinator.plan (.change networkId party change) ids ledger =
      .ok (coordinator.transitionPlan input current party change
        (coordinator.backing party own)) :=
  planTransition_eq_ok_iff.2 ⟨input, current, _, found, contents,
    (authority_eq_ok_iff_of_found found).2 ⟨own, isOwn, rfl⟩, rfl⟩

include inShape in
theorem sendable_change (change : MembershipChange) (now : Timestamp) :
    (coordinator.transitionPlan input current party change
      (coordinator.backing party own)).Sendable now ledger .membership
        ⟨.membership change.command, coordinator.transitionSigners party⟩ where
  unsigned := rfl
  wellFormed := wellFormed_transition now party change contents
    (inShape.states input (List.mem_of_find?_eq_some found)) (speaks_of_backing isOwn party)
  current _ member := mem_states_of_backing found isOwn member
  answers := Plan.answers_of_outputs fun _ _ => ⟨_, rfl⟩

omit [Suite] in
theorem permitted_change_iff (participates : party ∈ current.participants)
    (change : MembershipChange) (now : Timestamp) :
    ((coordinator.transitionPlan input current party change
        (coordinator.backing party own)).draft now).Permitted
        ⟨.membership change.command, coordinator.transitionSigners party⟩ ↔
      (∀ participants, change = .setParticipants participants → party ∈ participants) ∧
        ∃ next, change.TakesTo current next ∧
          ledger.Empowers networkId coordinator.identity change.permission ∧
          coordinator.identity ∈ next.participants := by
  let tx := (coordinator.transitionPlan input current party change
    (coordinator.backing party own)).draft now
  let after := evolvedMembership current change now
  obtain ⟨network, owner⟩ := fits_of_membership found contents
  have created : (tx.evolution MembershipState).output = some after :=
    Transaction.evolution_output_of_only rfl rfl
  have speaks : tx.IsInitiator own := isInitiator_of_backing found isOwn rfl rfl
  have sameNetwork : after.networkId = networkId :=
    (evolvedMembership_succeeds current change now).networkId.symm.trans network
  have sameOwner : after.owner = party :=
    (owner_evolvedMembership current change now).trans owner
  have ownerParticipates : (∀ output, (tx.evolution MembershipState).output = some output →
      output.owner ∈ output.participants) ↔
        ∀ participants, change = .setParticipants participants → party ∈ participants := by
    rw [created, ← MembershipChange.mem_participants_apply_iff participates, ← sameOwner]
    simp only [Option.some.injEq, forall_eq']
    rfl
  refine and_congr ownerParticipates ?_
  rw [MembershipChange.permitsMembership_command,
    Transaction.permitsTransition_iff rfl contents rfl,
    Transaction.authorized_iff_empowers isOwn speaks sameNetwork fun _ =>
      mem_transitionSigners party, change.permission_command]
  simp only [MembershipChange.takesTo_iff now, and_assoc, exists_and_left, exists_eq_left']
  rfl

omit contents in
theorem plan_revocation (ids : FreshIds) :
    coordinator.plan (.revoke networkId party) ids ledger =
      .ok (coordinator.revocationPlan input party (coordinator.backing party own)) :=
  planRevocation_eq_ok_iff.2 ⟨input, _, found,
    (authority_eq_ok_iff_of_found found).2 ⟨own, isOwn, rfl⟩, rfl⟩

include inShape in
theorem sendable_revocation (now : Timestamp) :
    (coordinator.revocationPlan input party (coordinator.backing party own)).Sendable now ledger
      .membership ⟨.membership .revoke, coordinator.transitionSigners party⟩ where
  unsigned := rfl
  wellFormed := wellFormed_revocation now party contents
    (inShape.states input (List.mem_of_find?_eq_some found)) (speaks_of_backing isOwn party)
  current _ member := mem_states_of_backing found isOwn member
  answers := Plan.answers_of_outputs fun _ _ => ⟨_, rfl⟩

omit [Suite] in
theorem permitted_revocation_iff (now : Timestamp) :
    ((coordinator.revocationPlan input party (coordinator.backing party own)).draft now).Permitted
        ⟨.membership .revoke, coordinator.transitionSigners party⟩ ↔
      ledger.Empowers networkId coordinator.identity (some .revokeMembership) ∧
        coordinator.identity ∈ current.participants := by
  let tx := (coordinator.revocationPlan input party (coordinator.backing party own)).draft now
  have speaks : tx.IsInitiator own := isInitiator_of_backing found isOwn rfl rfl
  have noOutput : ∀ output, (tx.evolution MembershipState).output = some output →
      output.owner ∈ output.participants := by
    intro output created
    cases (Transaction.evolution_output_eq_none rfl).symm.trans created
  refine (and_iff_right noOutput).trans ?_
  rw [Transaction.permitsRevocation_iff rfl contents rfl, Transaction.authorized_iff_empowers isOwn
    speaks (fits_of_membership found contents).1 fun _ => mem_transitionSigners party]

end Memberships

section Runs

variable {σ : Type} [LockStore σ] {services : Services Ledger σ} (genuine : coordinator.Genuine)
  (inShape : services.platform.InShape)

section Found

variable (found : services.platform.membership networkId party = some input)
  (contents : input.membership? = some current)
  (isOwn : services.platform.membership networkId coordinator.identity = some own)

include genuine inShape found contents isOwn

/-- On a ledger where this coordinator has a membership too, everything else is up to the rules. -/
theorem run_change_isOk_iff_of_found (participate : services.platform.OwnersParticipate)
    (change : MembershipChange) (ids : FreshIds) :
    (∃ outcome, (coordinator.run (.change networkId party change) ids services).1 =
        .ok outcome) ↔
      ∃ next, change.TakesTo current next ∧
        coordinator.MayChange services.platform networkId party change next := by
  have participates : party ∈ current.participants := by
    rw [← (fits_of_membership found contents).2]
    exact participate input (List.mem_of_find?_eq_some found) current contents
  have sendable := sendable_change inShape found contents isOwn change services.clock
  rw [sendable.run_isOk_iff (plan_change found contents isOwn change ids) genuine inShape,
    permitted_change_iff found contents isOwn participates, obtains_transitionSigners_iff]
  constructor
  · intro ⟨_, signs, _, ownerParticipates, next, takes, empowered, callerParticipates⟩
    exact ⟨next, takes, empowered, callerParticipates, ownerParticipates, signs⟩
  · intro ⟨next, takes, empowered, callerParticipates, ownerParticipates, signs⟩
    exact ⟨trivial, signs, mem_transitionSigners party, ownerParticipates, next, takes, empowered,
      callerParticipates⟩

theorem run_revocation_isOk_iff_of_found (ids : FreshIds) :
    (∃ outcome, (coordinator.run (.revoke networkId party) ids services).1 = .ok outcome) ↔
      coordinator.MayRevoke services.platform networkId party current := by
  have sendable := sendable_revocation inShape found contents isOwn services.clock
  rw [sendable.run_isOk_iff (plan_revocation found isOwn ids) genuine inShape,
    permitted_revocation_iff found contents isOwn, obtains_transitionSigners_iff]
  constructor
  · intro ⟨_, signs, _, empowered, callerParticipates⟩
    exact ⟨empowered, callerParticipates, signs⟩
  · intro ⟨empowered, callerParticipates, signs⟩
    exact ⟨trivial, signs, mem_transitionSigners party, empowered, callerParticipates⟩

end Found

variable (participate : services.platform.OwnersParticipate) {ids : FreshIds}

omit genuine inShape in
theorem exists_memberships_of_run_change {change : MembershipChange}
    (isOk : ∃ outcome, (coordinator.run (.change networkId party change) ids services).1 =
      .ok outcome) :
    ∃ input current own, services.platform.membership networkId party = some input ∧
      input.membership? = some current ∧
      services.platform.membership networkId coordinator.identity = some own := by
  obtain ⟨plan, planned, _⟩ := run_isOk_iff.1 isOk
  obtain ⟨input, current, _, found, contents, authority, _⟩ := planTransition_eq_ok_iff.1 planned
  obtain ⟨own, isOwn, _⟩ := (authority_eq_ok_iff_of_found found).1 authority
  exact ⟨input, current, own, found, contents, isOwn⟩

omit genuine inShape in
theorem exists_memberships_of_run_revocation
    (isOk : ∃ outcome, (coordinator.run (.revoke networkId party) ids services).1 =
      .ok outcome) :
    ∃ input current own, services.platform.membership networkId party = some input ∧
      input.membership? = some current ∧
      services.platform.membership networkId coordinator.identity = some own := by
  obtain ⟨plan, planned, _⟩ := run_isOk_iff.1 isOk
  obtain ⟨input, _, found, authority, _⟩ := planRevocation_eq_ok_iff.1 planned
  obtain ⟨_, current, contents, _⟩ := Ledger.of_membership found
  obtain ⟨own, isOwn, _⟩ := (authority_eq_ok_iff_of_found found).1 authority
  exact ⟨input, current, own, found, contents, isOwn⟩

include genuine inShape

include participate in
theorem run_change_isOk_iff {change : MembershipChange} :
    (∃ outcome, (coordinator.run (.change networkId party change) ids services).1 =
        .ok outcome) ↔
      ∃ input current next, services.platform.membership networkId party = some input ∧
        input.membership? = some current ∧ change.TakesTo current next ∧
        coordinator.MayChange services.platform networkId party change next := by
  constructor
  · intro isOk
    obtain ⟨input, current, own, found, contents, isOwn⟩ := exists_memberships_of_run_change isOk
    obtain ⟨next, allowed⟩ :=
      (run_change_isOk_iff_of_found genuine inShape found contents isOwn participate _ _).1 isOk
    exact ⟨input, current, next, found, contents, allowed⟩
  · intro ⟨input, current, next, found, contents, takes, mayChange⟩
    obtain ⟨own, _, isOwn, _⟩ := mayChange.empowered
    exact (run_change_isOk_iff_of_found genuine inShape found contents isOwn participate _ _).2
      ⟨next, takes, mayChange⟩

theorem run_revocation_isOk_iff :
    (∃ outcome, (coordinator.run (.revoke networkId party) ids services).1 = .ok outcome) ↔
      ∃ input current, services.platform.membership networkId party = some input ∧
        input.membership? = some current ∧
        coordinator.MayRevoke services.platform networkId party current := by
  constructor
  · intro isOk
    obtain ⟨input, current, own, found, contents, isOwn⟩ :=
      exists_memberships_of_run_revocation isOk
    exact ⟨input, current, found, contents,
      (run_revocation_isOk_iff_of_found genuine inShape found contents isOwn _).1 isOk⟩
  · intro ⟨input, current, found, contents, mayRevoke⟩
    obtain ⟨own, _, isOwn, _⟩ := mayRevoke.empowered
    exact (run_revocation_isOk_iff_of_found genuine inShape found contents isOwn _).2 mayRevoke

variable {outcome : Outcome} {after : Services Ledger σ}

include participate in
theorem effect_of_run_change {change : MembershipChange}
    (ran : coordinator.run (.change networkId party change) ids services = (.ok outcome, after)) :
    ∃ input current next txId, services.platform.membership networkId party = some input ∧
      input.membership? = some current ∧ change.TakesTo current next ∧
      let version : StateAndRef := ⟨.ofMembership { next with
        modified := ⟨max services.clock.seconds current.modified.seconds⟩ }, ⟨txId, 0⟩⟩
      outcome = .recorded version ∧
        ((∀ recorded ∈ services.platform.states, recorded.reference ≠ version.reference) →
          services.platform.Replaces after.platform [input] [version]) := by
  have isOk : ∃ outcome, (coordinator.run (.change networkId party change) ids services).1 =
      .ok outcome := ⟨outcome, congrArg Prod.fst ran⟩
  obtain ⟨input, current, own, found, contents, isOwn⟩ := exists_memberships_of_run_change isOk
  obtain ⟨next, takes, _⟩ :=
    (run_change_isOk_iff_of_found genuine inShape found contents isOwn participate _ _).1 isOk
  obtain ⟨txId, answered, replaces⟩ :=
    effect_of_only (plan_change found contents isOwn change ids) ran rfl
  rw [evolvedMembership, takes.apply_eq, Timestamp.latest_eq_max] at answered replaces
  exact ⟨input, current, next, txId, found, contents, takes, (Except.ok.inj answered).symm,
    replaces⟩

omit genuine inShape in
theorem effect_of_run_revocation
    (ran : coordinator.run (.revoke networkId party) ids services = (.ok outcome, after)) :
    ∃ input txId, services.platform.membership networkId party = some input ∧
      outcome = .consumed txId ∧ services.platform.Replaces after.platform [input] [] := by
  obtain ⟨input, current, own, found, contents, isOwn⟩ :=
    exists_memberships_of_run_revocation ⟨outcome, congrArg Prod.fst ran⟩
  obtain ⟨tx, noOutput, answered, replaces⟩ :=
    effect_of_run (plan_revocation found isOwn ids) ran (Nat.zero_le _)
  have nothing : Ledger.recordedOutputs tx = [] := by
    rw [Ledger.recordedOutputs, noOutput]
    rfl
  rw [nothing] at replaces
  exact ⟨input, tx.id, found, (Except.ok.inj answered).symm,
    replaces (List.forall_mem_nil _)⟩

end Runs

end Coordinator

namespace Interleaving

variable {σ : Type} [LockStore σ] {locks : σ} {clock : Timestamp} {state : Interleaving Ledger σ}
  {coordinator : Coordinator} {name : String} {keys : KeyPair}

/-- A change succeeds exactly if there is something to change, the coordinator may change it and
everybody signs. Then the membership has been replaced by one that differs in what was asked for
and in the time of modification, which is the present one unless that would set it back. A
revocation goes the same way, but that nothing takes the place of the membership. -/
theorem memberships_change_as_requested
    (reaches : Reaches KeepsOrder (opened (.empty .standard) locks clock) state)
    (signs : keys.Signs) (created : Coordinator.create name keys .standard = .ok coordinator)
    (networkId : NetworkId) (party : Party) (ids : FreshIds) :
    let services := state.services
    let ledger := services.platform
    (∀ change,
      ((∃ outcome, (coordinator.run (.change networkId party change) ids services).1 =
          .ok outcome) ↔
        ∃ input current next, ledger.membership networkId party = some input ∧
          input.membership? = some current ∧ change.TakesTo current next ∧
          coordinator.MayChange ledger networkId party change next) ∧
      ∀ outcome after,
        coordinator.run (.change networkId party change) ids services = (.ok outcome, after) →
        ∃ input current next txId, ledger.membership networkId party = some input ∧
          input.membership? = some current ∧ change.TakesTo current next ∧
          let version : StateAndRef := ⟨.ofMembership { next with
            modified := ⟨max services.clock.seconds current.modified.seconds⟩ }, ⟨txId, 0⟩⟩
          outcome = .recorded version ∧
            ((∀ recorded ∈ ledger.states, recorded.reference ≠ version.reference) →
              ledger.Replaces after.platform [input] [version])) ∧
    ((∃ outcome, (coordinator.run (.revoke networkId party) ids services).1 = .ok outcome) ↔
      ∃ input current, ledger.membership networkId party = some input ∧
        input.membership? = some current ∧
        coordinator.MayRevoke ledger networkId party current) ∧
    ∀ outcome after,
      coordinator.run (.revoke networkId party) ids services = (.ok outcome, after) →
      ∃ input txId, ledger.membership networkId party = some input ∧
        outcome = .consumed txId ∧ ledger.Replaces after.platform [input] [] := by
  have genuine := Coordinator.genuine_of_create signs created
  have inShape : state.services.platform.InShape := reaches.sound.history _ List.mem_cons_self
  have participate := reaches.ownersParticipate
  refine ⟨fun change => ⟨?changeable, ?changed⟩, ?revocable, ?revoked⟩
  case changeable => exact Coordinator.run_change_isOk_iff genuine inShape participate
  case changed =>
    exact fun outcome after => Coordinator.effect_of_run_change genuine inShape participate
  case revocable => exact Coordinator.run_revocation_isOk_iff genuine inShape
  case revoked => exact fun outcome after => Coordinator.effect_of_run_revocation

end Interleaving

end Signing

section Specimen

open Transparent

namespace Interleaving

/-- The founder has founded a network, and the joiner has applied to it. -/
def awaiting : Interleaving Ledger LockTable :=
  letI := suite
  (acquainted.attempt (underStandard founder 1)
    (.found ⟨some ⟨"net"⟩, some bazaar, none, none⟩) (Session.idsOf 8) 8).attempt
    (underStandard joiner 2) (.apply ⟨⟨"net"⟩, founder, none⟩) (Session.idsOf 9) 6

theorem awaiting_reached :
    letI := suite
    Reaches KeepsOrder blank awaiting :=
  reaches_attempt "Joiner" 2 rfl (reaches_attempt "Founder" 1 rfl acquainted_reached)

/-- What the founder does to the membership of the joiner. -/
def changed (change : MembershipChange) : Except NetworkError Outcome × Services Ledger LockTable :=
  letI := suite
  (underStandard founder 1).run (.change ⟨"net"⟩ joiner change) (Session.idsOf 10)
    awaiting.services

/-- One change of each kind. -/
def joinersChanges : List MembershipChange :=
  [.activate, .suspend, .setRoles (.singleton .operator), .setBusiness (some ⟨"guild", .empty⟩),
    .setParticipants (.ofList [founder, joiner, party "Clerk" 3])]

def revocation : Except NetworkError Outcome × Services Ledger LockTable :=
  letI := suite
  (underStandard founder 1).run (.revoke ⟨"net"⟩ joiner) (Session.idsOf 10) awaiting.services

set_option maxRecDepth 10000 in
theorem changed_versions_are_new :
    (∀ change ∈ joinersChanges, (Outcome.recorded? (changed change).1).any fun version => decide
      (∀ recorded ∈ awaiting.services.platform.states,
        recorded.reference ≠ version.reference)) ∧
      revocation.1.toOption.isSome := by
  decide +kernel

/-- The joiner has not been activated. Its membership can be changed in every way, or revoked. -/
theorem joiner_changes_as_requested :
    letI := suite
    ∃ input current, awaiting.services.platform.membership ⟨"net"⟩ joiner = some input ∧
      input.membership? = some current ∧
      (∀ change ∈ joinersChanges, ∃ next version, change.TakesTo current next ∧
        (underStandard founder 1).MayChange awaiting.services.platform ⟨"net"⟩ joiner change
          next ∧
        (changed change).1 = .ok (.recorded version) ∧
        version.state = .ofMembership { next with
          modified := ⟨max awaiting.services.clock.seconds current.modified.seconds⟩ } ∧
        awaiting.services.platform.Replaces (changed change).2.platform [input] [version]) ∧
      ∃ txId, revocation.1 = .ok (.consumed txId) ∧
        awaiting.services.platform.Replaces revocation.2.platform [input] [] := by
  let _ := suite
  obtain ⟨areNew, isRevoked⟩ := changed_versions_are_new
  obtain ⟨transitions, _, revokes⟩ := memberships_change_as_requested awaiting_reached
    (signs_keys 1) (create_underStandard "Founder" 1 rfl) ⟨"net"⟩ joiner (Session.idsOf 10)
  rcases ran : revocation.1 with failure | outcome
  · rw [ran] at isRevoked
    cases isRevoked
  · have isRun : revocation = (.ok outcome, revocation.2) := Prod.fst_eq_iff.1 ran
    obtain ⟨input, txId, found, rfl, removes⟩ := revokes outcome revocation.2 isRun
    obtain ⟨_, current, contents, _⟩ := Ledger.of_membership found
    refine ⟨input, current, found, contents, fun change isRequested => ?_, txId, rfl, removes⟩
    obtain ⟨version, recorded, fresh⟩ := (Option.any_eq_true _ _).1 (areNew change isRequested)
    have changes := Outcome.recorded?_eq_some_iff.1 recorded
    have isRun : changed change = (.ok (.recorded version), (changed change).2) :=
      Prod.fst_eq_iff.1 changes
    obtain ⟨succeeds, effect⟩ := transitions change
    obtain ⟨_, _, next, isInput, isCurrent, takes, mayChange⟩ :=
      succeeds.1 ⟨_, congrArg Prod.fst isRun⟩
    obtain ⟨_, _, _, _, sameInput, sameCurrent, sameNext, isVersion, replaces⟩ :=
      effect _ (changed change).2 isRun
    cases found.symm.trans isInput
    cases found.symm.trans sameInput
    cases contents.symm.trans isCurrent
    cases contents.symm.trans sameCurrent
    cases takes.apply_eq.symm.trans sameNext.apply_eq
    cases isVersion
    exact ⟨next, _, takes, mayChange, changes, rfl, replaces (of_decide_eq_true fresh)⟩

end Interleaving

end Specimen

end Consortium
