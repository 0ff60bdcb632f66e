import Consortium.Proofs.Network.GroupNames
import Consortium.Proofs.Network.Transitions

/-!
Creations and modifications of groups from the request to the ledger. They succeed if the
coordinator may change the groups of the network, the id and the name that are asked for are free
and can be locked, everybody is a member who joins, and everybody signs who takes part.
-/

namespace Consortium

/-! ### What is free -/

namespace Ledger

variable {ledger : Ledger}

theorem groupById_eq_none_iff {id : LinearId} :
    ledger.groupById id = none ↔ ¬ ledger.Occupies ContractState.groupUuid? id.uuid := by
  refine ⟨not_occupies_of_groupById, fun vacant => List.find?_eq_none.2 ?_⟩
  intro recorded member fits
  obtain ⟨group, isGroup, sameUuid⟩ := (Option.any_eq_true _ _).1 fits
  refine vacant ⟨recorded, member, ?_⟩
  exact Option.map_eq_some_iff.2 ⟨group, isGroup, of_decide_eq_true sameUuid⟩

theorem groupsByName_eq_nil_iff {networkId : NetworkId} {name : String} :
    ledger.groupsByName networkId name = [] ↔
      ¬ ledger.Occupies ContractState.nameIn? (networkId, name) := by
  refine ⟨not_occupies_of_groupsByName, fun vacant => List.filter_eq_nil_iff.2 ?_⟩
  intro recorded member fits
  obtain ⟨group, isGroup, same⟩ := (Option.any_eq_true _ _).1 fits
  obtain ⟨rfl, isName⟩ := of_decide_eq_true same
  exact vacant ⟨recorded, member, ContractState.nameIn?_of_group isGroup isName⟩

end Ledger

namespace GroupChange

variable {change : GroupChange} {current : GroupState}

end GroupChange

section Signing

variable [Suite]

namespace Coordinator

variable {coordinator : Coordinator} {ledger : Ledger}

omit [Suite] in
theorem obtains_owningKeys_iff {parties : SortedSet Party} :
    (∀ key ∈ owningKeys parties, coordinator.Obtains ledger key) ↔
      ∀ party ∈ parties, coordinator.Obtains ledger party.owningKey := by
  simp only [mem_owningKeys, forall_exists_index, and_imp, forall_apply_eq_imp_iff₂]

/-! ### Creation -/

/-- What the creation of a group asks for, its locks aside. -/
structure MayCreate (coordinator : Coordinator) (ledger : Ledger) (proposal : GroupProposal) :
    Prop where
  empowered : ledger.Empowers proposal.networkId coordinator.identity (some .modifyGroups)
  idFree : ∀ id, proposal.groupId = some id →
    ¬ ledger.Occupies ContractState.groupUuid? id.uuid
  nameFree : ∀ name, proposal.name = some name →
    ¬ ledger.Occupies ContractState.nameIn? (proposal.networkId, name)
  members : ∀ party ∈ proposal.participants,
    (ledger.membership proposal.networkId party).isSome
  signs : ∀ party ∈ proposal.participants, coordinator.Obtains ledger party.owningKey

section Creation

variable {proposal : GroupProposal} {ids : FreshIds} {own : StateAndRef} {now : Timestamp}
  (isOwn : ledger.membership proposal.networkId coordinator.identity = some own)

include isOwn

theorem sendable_creation :
    (coordinator.groupPlan proposal ids own).Sendable now ledger .group ⟨.group .create,
      owningKeys (coordinator.proposedGroup proposal ids now).participants⟩ where
  unsigned := rfl
  wellFormed := wellFormed_creation now proposal ids (speaksBy_of_membership isOwn)
  current recorded member := by
    rw [List.mem_singleton.1 member]
    exact List.mem_of_find?_eq_some isOwn
  answers := Plan.answers_of_outputs fun _ _ => ⟨_, rfl⟩

omit [Suite] in
/-- Whoever creates a group takes part in it. -/
theorem permitted_creation_iff :
    ((coordinator.groupPlan proposal ids own).draft now).Permitted ⟨.group .create,
        owningKeys (coordinator.proposedGroup proposal ids now).participants⟩ ↔
      ledger.Empowers proposal.networkId coordinator.identity (some .modifyGroups) := by
  have participates :
      coordinator.identity ∈ (coordinator.proposedGroup proposal ids now).participants :=
    SortedSet.mem_ofList.2 List.mem_cons_self
  refine (Transaction.permitsCreation_iff rfl rfl).trans ?_
  rw [Transaction.authorized_iff_empowers isOwn (.inl rfl) rfl fun takesPart =>
    mem_owningKeys.2 ⟨_, takesPart, rfl⟩]
  exact and_iff_left participates

end Creation

section Runs

variable {σ : Type} [LockStore σ] {services : Services Ledger σ} {proposal : GroupProposal}
  {ids : FreshIds}

theorem run_creation_isOk_iff (genuine : coordinator.Genuine)
    (inShape : services.platform.InShape) :
    (∃ outcome, (coordinator.run (.createGroup proposal) ids services).1 = .ok outcome) ↔
      coordinator.MayCreate services.platform proposal ∧
        LockStore.Grants ids.lock services.clock 0
          ((proposal.groupId.map LockKey.ofGroup).toList ++
            (proposal.name.map (LockKey.ofGroupName proposal.networkId)).toList)
          services.locks := by
  constructor
  · intro isOk
    obtain ⟨plan, planned, _⟩ := run_isOk_iff.1 isOk
    obtain ⟨own, isOwn, idFree, nameFree, members, rfl⟩ := planGroup_eq_ok_iff.1 planned
    obtain ⟨granted, signs, _, permitted⟩ :=
      ((sendable_creation isOwn).run_isOk_iff planned genuine inShape).1 isOk
    refine ⟨?_, granted⟩
    constructor
    case empowered => exact (permitted_creation_iff isOwn).1 permitted
    case idFree => exact fun id chosen => Ledger.groupById_eq_none_iff.1 (idFree id chosen)
    case nameFree =>
      exact fun name chosen => Ledger.groupsByName_eq_nil_iff.1 (nameFree name chosen)
    case members => exact members
    case signs =>
      intro party listed
      exact obtains_owningKeys_iff.1 signs party
        (SortedSet.mem_ofList.2 (List.mem_cons_of_mem _ listed))
  · intro ⟨mayCreate, granted⟩
    obtain ⟨own, _, isOwn, _⟩ := mayCreate.empowered
    have planned : coordinator.plan (.createGroup proposal) ids services.platform =
        .ok (coordinator.groupPlan proposal ids own) := by
      refine planGroup_eq_ok_iff.2 ⟨own, isOwn, ?idFree, ?nameFree, mayCreate.members, rfl⟩
      case idFree =>
        exact fun id chosen => Ledger.groupById_eq_none_iff.2 (mayCreate.idFree id chosen)
      case nameFree =>
        exact fun name chosen => Ledger.groupsByName_eq_nil_iff.2 (mayCreate.nameFree name chosen)
    refine ((sendable_creation isOwn).run_isOk_iff planned genuine inShape).2
      ⟨granted, obtains_owningKeys_iff.2 ?_, ?_, (permitted_creation_iff isOwn).2
        mayCreate.empowered⟩
    · intro party takesPart
      rcases List.mem_cons.1 (SortedSet.mem_ofList.1 takesPart) with rfl | listed
      · exact .inl rfl
      · exact mayCreate.signs party listed
    · exact mem_owningKeys.2 ⟨_, SortedSet.mem_ofList.2 List.mem_cons_self, rfl⟩

theorem effect_of_run_creation {outcome : Outcome} {after : Services Ledger σ}
    (ran : coordinator.run (.createGroup proposal) ids services = (.ok outcome, after)) :
    ∃ txId,
      let created : StateAndRef := ⟨.ofGroup
        { networkId := proposal.networkId
          linearId := proposal.groupId.getD (.ofUuid ids.group)
          issuer := coordinator.identity
          issued := services.clock
          modified := services.clock
          participants := .ofList (coordinator.identity :: proposal.participants)
          name := proposal.name }, ⟨txId, 0⟩⟩
      outcome = .recorded created ∧
        ((∀ recorded ∈ services.platform.states, recorded.reference ≠ created.reference) →
          services.platform.Replaces after.platform [] [created]) := by
  obtain ⟨plan, planned, _⟩ := run_isOk_iff.1 ⟨outcome, congrArg Prod.fst ran⟩
  obtain ⟨own, isOwn, _, _, _, rfl⟩ := planGroup_eq_ok_iff.1 planned
  obtain ⟨txId, answered, replaces⟩ := effect_of_only planned ran rfl
  exact ⟨txId, (Except.ok.inj answered).symm, replaces⟩

end Runs

end Coordinator

namespace Interleaving

section Requests

variable {σ : Type} [LockStore σ] {locks : σ} {clock : Timestamp} {state : Interleaving Ledger σ}
  (reaches : Reaches KeepsOrder (opened (.empty .standard) locks clock) state)
  {coordinator : Coordinator} {name : String} {keys : KeyPair} (signs : keys.Signs)
  (created : Coordinator.create name keys .standard = .ok coordinator)

include reaches signs created

/-- A creation succeeds exactly if the coordinator may create the group, everybody signs and the
locks for its id and its name are granted. Then there is one state more, and it is the group that
was asked for, with its creator among those who take part. -/
theorem groups_are_created_as_requested (proposal : GroupProposal) (ids : FreshIds) :
    let services := state.services
    let ledger := services.platform
    ((∃ outcome, (coordinator.run (.createGroup proposal) ids services).1 = .ok outcome) ↔
      coordinator.MayCreate ledger proposal ∧
        LockStore.Grants ids.lock services.clock 0
          ((proposal.groupId.map LockKey.ofGroup).toList ++
            (proposal.name.map (LockKey.ofGroupName proposal.networkId)).toList)
          services.locks) ∧
    ∀ outcome after,
      coordinator.run (.createGroup proposal) ids services = (.ok outcome, after) →
      ∃ txId,
        let group : StateAndRef := ⟨.ofGroup
          { networkId := proposal.networkId
            linearId := proposal.groupId.getD (.ofUuid ids.group)
            issuer := coordinator.identity
            issued := services.clock
            modified := services.clock
            participants := .ofList (coordinator.identity :: proposal.participants)
            name := proposal.name }, ⟨txId, 0⟩⟩
        outcome = .recorded group ∧
          ((∀ recorded ∈ ledger.states, recorded.reference ≠ group.reference) →
            ledger.Replaces after.platform [] [group]) := by
  have genuine := Coordinator.genuine_of_create signs created
  have inShape : state.services.platform.InShape := reaches.sound.history _ List.mem_cons_self
  exact ⟨Coordinator.run_creation_isOk_iff genuine inShape,
    fun outcome after => Coordinator.effect_of_run_creation⟩

end Requests

end Interleaving

end Signing

section Specimen

open Transparent

namespace Interleaving

/-- A group of traders in which the founder and the joiner take part. -/
def tradersProposal : GroupProposal :=
  ⟨⟨"net"⟩, some (.ofUuid ⟨.replicate 16 5⟩), some "Traders", [joiner]⟩

def tradersCreation : Except NetworkError Outcome × Services Ledger LockTable :=
  letI := suite
  (underStandard founder 1).run (.createGroup tradersProposal) (Session.idsOf 10) awaiting.services

set_option maxRecDepth 10000 in
theorem tradersCreation_is_recorded_anew :
    (Outcome.recorded? tradersCreation.1).any fun group => decide
      (∀ recorded ∈ awaiting.services.platform.states, recorded.reference ≠ group.reference) := by
  decide +kernel

/-- The joiner takes part although it has not been activated. -/
theorem traders_are_created :
    letI := suite
    ∃ group, (underStandard founder 1).MayCreate awaiting.services.platform tradersProposal ∧
      tradersCreation.1 = .ok (.recorded group) ∧
      group.state = .ofGroup
        { networkId := ⟨"net"⟩
          linearId := .ofUuid ⟨.replicate 16 5⟩
          issuer := founder
          issued := awaiting.services.clock
          modified := awaiting.services.clock
          participants := .ofList [founder, joiner]
          name := some "Traders" } ∧
      awaiting.services.platform.Replaces tradersCreation.2.platform [] [group] ∧
      ∀ key ∈ [.ofGroup (.ofUuid ⟨.replicate 16 5⟩), .ofGroupName ⟨"net"⟩ "Traders"],
        awaiting.services.locks.locks.contains key = false := by
  let _ := suite
  obtain ⟨group, recorded, fresh⟩ :=
    (Option.any_eq_true _ _).1 tradersCreation_is_recorded_anew
  have ran := Outcome.recorded?_eq_some_iff.1 recorded
  have isRun : tradersCreation = (.ok (.recorded group), tradersCreation.2) := Prod.fst_eq_iff.1 ran
  obtain ⟨succeeds, effect⟩ := groups_are_created_as_requested awaiting_reached (signs_keys 1)
    (create_underStandard "Founder" 1 rfl) tradersProposal (Session.idsOf 10)
  obtain ⟨mayCreate, granted⟩ := succeeds.1 ⟨_, congrArg Prod.fst isRun⟩
  obtain ⟨txId, isGroup, replaces⟩ := effect _ tradersCreation.2 isRun
  cases isGroup
  have free := ((LockTable.grants_iff (by decide +kernel)).1 granted).2
  exact ⟨_, mayCreate, ran, rfl, replaces (of_decide_eq_true fresh), free⟩

end Interleaving

end Specimen

/-! ### Modification -/

section Signing

variable [Suite]

namespace Coordinator

variable {coordinator : Coordinator} {ledger : Ledger}

section Modification

variable (change : GroupChange) (now : Timestamp) {input own : StateAndRef}
  {current : GroupState} (contents : input.group? = some current)
  (isOwn : ledger.membership current.networkId coordinator.identity = some own)

include contents isOwn

end Modification

section Runs

variable {σ : Type} [LockStore σ] {services : Services Ledger σ} {id : LinearId}
  {change : GroupChange} {ids : FreshIds}

end Runs

end Coordinator

namespace Interleaving

section Requests

variable {σ : Type} [LockStore σ] {locks : σ} {clock : Timestamp} {state : Interleaving Ledger σ}
  (reaches : Reaches KeepsOrder (opened (.empty .standard) locks clock) state)
  {coordinator : Coordinator} {name : String} {keys : KeyPair} (signs : keys.Signs)
  (created : Coordinator.create name keys .standard = .ok coordinator)

include reaches signs created

end Requests

end Interleaving

end Signing

section Specimen

open Transparent

namespace Interleaving

def modified (change : GroupChange) : Except NetworkError Outcome × Services Ledger LockTable :=
  letI := suite
  (underStandard founder 1).run (.modifyGroup bazaar change) (Session.idsOf 10) awaiting.services

end Interleaving

end Specimen

end Consortium
