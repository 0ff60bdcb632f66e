import Consortium.Proofs.Network.Groups

/-!
Ways into a network from the request to the ledger. A founding and an application need nobody's
authority and nobody else's signature: they succeed if what they ask for is free and can be locked.
The ledger then has the states that were asked for in addition to those it had.
-/

namespace Consortium

/-! ### Who is a member -/

namespace Ledger

variable {ledger : Ledger} {networkId : NetworkId}

theorem membership_eq_none_iff {party : Party} :
    ledger.membership networkId party = none ↔
      ¬ ledger.Occupies ContractState.memberOf? (networkId, party) := by
  refine ⟨not_occupies_of_membership, fun vacant => List.find?_eq_none.2 ?_⟩
  intro recorded member fits
  obtain ⟨membership, isMembership, same⟩ := (Option.any_eq_true _ _).1 fits
  obtain ⟨rfl, rfl⟩ := of_decide_eq_true same
  exact vacant ⟨recorded, member, Option.map_eq_some_iff.2 ⟨membership, isMembership, rfl⟩⟩

theorem isSome_membership_iff {party : Party} :
    (ledger.membership networkId party).isSome ↔
      ledger.Occupies ContractState.memberOf? (networkId, party) := by
  rw [← Option.isNone_eq_false_iff, Bool.eq_false_iff, ne_eq, Option.isNone_iff_eq_none,
    membership_eq_none_iff, not_not]

theorem networkExists_iff :
    ledger.networkExists networkId = true ↔
      ∃ party, ledger.Occupies ContractState.memberOf? (networkId, party) := by
  constructor
  · intro found
    by_contra nobody
    have nothing : ledger.memberships networkId = [] := by
      refine List.filter_eq_nil_iff.2 fun recorded member fits => nobody ?_
      obtain ⟨membership, isMembership, same⟩ := (Option.any_eq_true _ _).1 fits
      rw [← of_decide_eq_true same]
      exact ⟨_, recorded, member, Option.map_eq_some_iff.2 ⟨membership, isMembership, rfl⟩⟩
    simp [networkExists, nothing] at found
  · rintro ⟨party, occupied⟩
    by_contra absent
    exact not_occupies_of_networkExists (Bool.eq_false_iff.2 absent) party occupied

end Ledger

theorem MembershipState.holds_of_operator {membership : MembershipState}
    (roles : membership.roles = .singleton .operator) (permission : Permission) :
    membership.holds permission = true := by
  rw [holds, roles]
  cases permission <;> rfl

section Signing

variable [Suite]

namespace Coordinator

variable {coordinator : Coordinator} {request : Request} {ids : FreshIds}

/-! ### Issuances go through -/

/-- Nobody else has to sign, and no contract refuses. -/
theorem exists_submit_of_issuance {ledger : Ledger} {plan : Plan}
    (planned : coordinator.plan request ids ledger = .ok plan)
    (issues : request.needsInitiator = false) (genuine : coordinator.Genuine)
    (inShape : ledger.InShape) (now : Timestamp) :
    ∃ outcome after, coordinator.submit plan now ledger = (.ok outcome, after) := by
  have plans : coordinator.Plans ids (.still ledger) request plan :=
    Coordinator.plans ((View.plan_still coordinator request ids ledger).trans planned)
  have unsigned := plans.unsigned now
  have nothingSeen : (plan.draft now).inputs ++ (plan.draft now).references = [] := by
    cases plans with
    | found | apply => rfl
    | change | revoke | createGroup | modifyGroup | exitGroup => cases issues
  have ownKey : ∀ command ∈ (plan.draft now).commands, ∀ key ∈ command.signers,
      coordinator.Obtains ledger key := by
    have isOwn (key : PublicKey)
        (required : key ∈ SortedSet.singleton coordinator.identity.owningKey) :
        coordinator.Obtains ledger key := .inl (SortedSet.mem_singleton.1 required)
    cases plans with
    | found => exact List.forall_mem_cons.2 ⟨isOwn, List.forall_mem_singleton.2 isOwn⟩
    | apply => exact List.forall_mem_singleton.2 isOwn
    | change | revoke | createGroup | modifyGroup | exitGroup => cases issues
  obtain ⟨signed, collected⟩ := (genuine.collects_iff unsigned).2 ownKey
  have proposes := Plan.proposes_of_collected collected
  have cosigned := Plan.Cosigned.of_collectSignatures inShape.keysFit genuine.signs unsigned
    collected
  have approved := plans.accepted_of_issuance issues genuine cosigned
  have accepts : ledger.Accepts signed := by
    obtain ⟨inputs, _, references, _⟩ := Transaction.contents_of_unsigned proposes
    refine ⟨by rw [inShape.contracts]; exact approved, ?_⟩
    rw [inputs, references, nothingSeen]
    exact List.forall_mem_nil _
  obtain ⟨outcome, answered⟩ := answers_of_plan planned signed now proposes
  exact ⟨outcome, _, submit_eq_ok_iff.2
    ⟨signed, collected, by rw [genuine.contracts]; exact approved, accepts, answered, rfl⟩⟩

section Runs

variable {σ : Type} [LockStore σ] {services : Services Ledger σ}

/-- Once the checks have passed, only the locks decide. -/
theorem run_issuance_isOk_iff (issues : request.needsInitiator = false)
    (genuine : coordinator.Genuine) (inShape : services.platform.InShape) :
    (∃ outcome, (coordinator.run request ids services).1 = .ok outcome) ↔
      ∃ plan, coordinator.plan request ids services.platform = .ok plan ∧
        LockStore.Grants ids.lock services.clock 0 plan.claims services.locks := by
  rw [run_isOk_iff]
  refine exists_congr fun plan => and_congr_right fun planned => and_iff_left ?_
  exact exists_submit_of_issuance planned issues genuine inShape services.clock

end Runs

end Coordinator

/-! ### Foundings -/

/-- What the founding of a network asks for, its locks aside. -/
structure Ledger.HasRoomFor (ledger : Ledger) (networkId : NetworkId)
    (groupId : Option LinearId) : Prop where
  networkFree : ∀ party, ¬ ledger.Occupies ContractState.memberOf? (networkId, party)
  idFree : ∀ id, groupId = some id → ¬ ledger.Occupies ContractState.groupUuid? id.uuid

namespace Coordinator

section Founding

variable {σ : Type} [LockStore σ] {services : Services Ledger σ} {coordinator : Coordinator}
  {founding : NetworkFounding} {ids : FreshIds}

theorem run_founding_isOk_iff (genuine : coordinator.Genuine)
    (inShape : services.platform.InShape) :
    (∃ outcome, (coordinator.run (.found founding) ids services).1 = .ok outcome) ↔
      services.platform.HasRoomFor (founding.networkId.getD (.ofUuid ids.network))
          founding.groupId ∧
        LockStore.Grants ids.lock services.clock 0
          (.ofNetwork (founding.networkId.getD (.ofUuid ids.network)) ::
            (founding.groupId.map LockKey.ofGroup).toList) services.locks := by
  have networkFree : services.platform.networkExists
      (founding.networkId.getD (.ofUuid ids.network)) = false ↔
        ∀ party, ¬ services.platform.Occupies ContractState.memberOf?
          (founding.networkId.getD (.ofUuid ids.network), party) := by
    rw [Bool.eq_false_iff, ne_eq, Ledger.networkExists_iff, not_exists]
  rw [run_issuance_isOk_iff rfl genuine inShape]
  constructor
  · intro ⟨plan, planned, granted⟩
    obtain ⟨absent, idFree, rfl⟩ := planBootstrap_eq_ok_iff.1 planned
    exact ⟨⟨networkFree.1 absent,
      fun id chosen => Ledger.groupById_eq_none_iff.1 (idFree id chosen)⟩, granted⟩
  · intro ⟨room, granted⟩
    exact ⟨_, planBootstrap_eq_ok_iff.2 ⟨networkFree.2 room.networkFree,
      fun id chosen => Ledger.groupById_eq_none_iff.2 (room.idFree id chosen), rfl⟩, granted⟩

theorem effect_of_run_founding {outcome : Outcome} {after : Services Ledger σ}
    (ran : coordinator.run (.found founding) ids services = (.ok outcome, after)) :
    let networkId := founding.networkId.getD (.ofUuid ids.network)
    let operator : MembershipState :=
      { networkId
        linearId := .ofUuid ids.membership
        issuer := coordinator.identity
        issued := services.clock
        modified := services.clock
        participants := .singleton coordinator.identity
        identity := ⟨coordinator.identity, founding.business⟩
        status := .active
        roles := .singleton .operator }
    let group : GroupState :=
      { networkId
        linearId := founding.groupId.getD (.ofUuid ids.group)
        issuer := coordinator.identity
        issued := services.clock
        modified := services.clock
        participants := .singleton coordinator.identity
        name := founding.groupName }
    (∀ permission, operator.holds permission = true) ∧
      ∃ txId,
        let membership : StateAndRef := ⟨.ofMembership operator, ⟨txId, 0⟩⟩
        let firstGroup : StateAndRef := ⟨.ofGroup group, ⟨txId, 1⟩⟩
        outcome = .bootstrapped txId networkId membership firstGroup ∧
          ((∀ recorded ∈ services.platform.states, recorded.reference ≠ membership.reference ∧
              recorded.reference ≠ firstGroup.reference) →
            services.platform.Replaces after.platform [] [membership, firstGroup]) := by
  intro networkId operator group
  refine ⟨MembershipState.holds_of_operator rfl, ?_⟩
  obtain ⟨plan, planned, _⟩ := run_isOk_iff.1 ⟨outcome, congrArg Prod.fst ran⟩
  obtain ⟨_, _, rfl⟩ := planBootstrap_eq_ok_iff.1 planned
  have few : 2 ≤ UInt32.size := by decide
  obtain ⟨tx, outputs, answered, replaces⟩ := effect_of_run planned ran few
  rw [Ledger.recordedOutputs, outputs] at answered replaces
  refine ⟨tx.id, (Except.ok.inj answered).symm, fun fresh => replaces ?_⟩
  exact List.forall_mem_cons.2 ⟨fun recorded member => (fresh recorded member).1,
    List.forall_mem_singleton.2 fun recorded member => (fresh recorded member).2⟩

end Founding

end Coordinator

/-! ### Applications -/

/-- What an application to a network asks for, its lock aside. -/
structure Coordinator.MayApply (coordinator : Coordinator) (ledger : Ledger)
    (application : MembershipApplication) : Prop where
  networkExists : ∃ party,
    ledger.Occupies ContractState.memberOf? (application.networkId, party)
  callerOutside :
    ¬ ledger.Occupies ContractState.memberOf? (application.networkId, coordinator.identity)
  operatorInside :
    ledger.Occupies ContractState.memberOf? (application.networkId, application.operator)

namespace Coordinator

section Application

variable {σ : Type} [LockStore σ] {services : Services Ledger σ} {coordinator : Coordinator}
  {application : MembershipApplication} {ids : FreshIds}

theorem run_application_isOk_iff (genuine : coordinator.Genuine)
    (inShape : services.platform.InShape) :
    (∃ outcome, (coordinator.run (.apply application) ids services).1 = .ok outcome) ↔
      coordinator.MayApply services.platform application ∧
        LockStore.Grants ids.lock services.clock 0
          [.ofPendingMembership application.networkId coordinator.identity] services.locks := by
  rw [run_issuance_isOk_iff rfl genuine inShape]
  constructor
  · intro ⟨plan, planned, granted⟩
    obtain ⟨isThere, outside, inside, rfl⟩ := planApplication_eq_ok_iff.1 planned
    exact ⟨⟨Ledger.networkExists_iff.1 isThere, Ledger.membership_eq_none_iff.1 outside,
      Ledger.isSome_membership_iff.1 inside⟩, granted⟩
  · intro ⟨mayApply, granted⟩
    refine ⟨_, planApplication_eq_ok_iff.2 ⟨?_, ?_, ?_, rfl⟩, granted⟩
    · exact Ledger.networkExists_iff.2 mayApply.networkExists
    · exact Ledger.membership_eq_none_iff.2 mayApply.callerOutside
    · exact Ledger.isSome_membership_iff.2 mayApply.operatorInside

theorem effect_of_run_application {outcome : Outcome} {after : Services Ledger σ}
    (ran : coordinator.run (.apply application) ids services = (.ok outcome, after)) :
    ∃ txId,
      let membership : StateAndRef := ⟨.ofMembership
        { networkId := application.networkId
          linearId := .ofUuid ids.membership
          issuer := coordinator.identity
          issued := services.clock
          modified := services.clock
          participants := .ofList [coordinator.identity, application.operator]
          identity := ⟨coordinator.identity, application.business⟩
          status := .pending
          roles := .empty }, ⟨txId, 0⟩⟩
      outcome = .recorded membership ∧
        ((∀ recorded ∈ services.platform.states,
            recorded.reference ≠ membership.reference) →
          services.platform.Replaces after.platform [] [membership]) := by
  obtain ⟨plan, planned, _⟩ := run_isOk_iff.1 ⟨outcome, congrArg Prod.fst ran⟩
  obtain ⟨_, _, _, rfl⟩ := planApplication_eq_ok_iff.1 planned
  obtain ⟨txId, answered, replaces⟩ := effect_of_only planned ran rfl
  exact ⟨txId, (Except.ok.inj answered).symm, replaces⟩

end Application

end Coordinator

namespace Interleaving

section Requests

variable {σ : Type} [LockStore σ] {locks : σ} {clock : Timestamp} {state : Interleaving Ledger σ}
  (reaches : Reaches KeepsOrder (opened (.empty .standard) locks clock) state)
  {coordinator : Coordinator} {name : String} {keys : KeyPair} (signs : keys.Signs)
  (created : Coordinator.create name keys .standard = .ok coordinator)

include reaches signs created

/-- A founding succeeds exactly if nobody is a member of the network yet, the id for its first group
is free and the locks for both are granted; an application, if there are members and the named
operator is one of them but the coordinator is not, and its lock is granted. Then the ledger has two
states more, or one, which are as they were asked for, and none less. -/
theorem issuances_are_recorded_as_requested (ids : FreshIds) :
    let services := state.services
    let ledger := services.platform
    let identity := coordinator.identity
    (∀ founding : NetworkFounding,
      let networkId := founding.networkId.getD (.ofUuid ids.network)
      let operator : MembershipState :=
        { networkId
          linearId := .ofUuid ids.membership
          issuer := identity
          issued := services.clock
          modified := services.clock
          participants := .singleton identity
          identity := ⟨identity, founding.business⟩
          status := .active
          roles := .singleton .operator }
      let group : GroupState :=
        { networkId
          linearId := founding.groupId.getD (.ofUuid ids.group)
          issuer := identity
          issued := services.clock
          modified := services.clock
          participants := .singleton identity
          name := founding.groupName }
      ((∃ outcome, (coordinator.run (.found founding) ids services).1 = .ok outcome) ↔
        ledger.HasRoomFor networkId founding.groupId ∧
          LockStore.Grants ids.lock services.clock 0
            (.ofNetwork networkId :: (founding.groupId.map LockKey.ofGroup).toList)
            services.locks) ∧
      ∀ outcome after,
        coordinator.run (.found founding) ids services = (.ok outcome, after) →
        (∀ permission, operator.holds permission = true) ∧
        ∃ txId,
          let membership : StateAndRef := ⟨.ofMembership operator, ⟨txId, 0⟩⟩
          let firstGroup : StateAndRef := ⟨.ofGroup group, ⟨txId, 1⟩⟩
          outcome = .bootstrapped txId networkId membership firstGroup ∧
            ((∀ recorded ∈ ledger.states, recorded.reference ≠ membership.reference ∧
                recorded.reference ≠ firstGroup.reference) →
              ledger.Replaces after.platform [] [membership, firstGroup])) ∧
    ∀ application : MembershipApplication,
      ((∃ outcome, (coordinator.run (.apply application) ids services).1 = .ok outcome) ↔
        coordinator.MayApply ledger application ∧
          LockStore.Grants ids.lock services.clock 0
            [.ofPendingMembership application.networkId identity] services.locks) ∧
      ∀ outcome after,
        coordinator.run (.apply application) ids services = (.ok outcome, after) →
        ∃ txId,
          let membership : StateAndRef := ⟨.ofMembership
            { networkId := application.networkId
              linearId := .ofUuid ids.membership
              issuer := identity
              issued := services.clock
              modified := services.clock
              participants := .ofList [identity, application.operator]
              identity := ⟨identity, application.business⟩
              status := .pending
              roles := .empty }, ⟨txId, 0⟩⟩
          outcome = .recorded membership ∧
            ((∀ recorded ∈ ledger.states, recorded.reference ≠ membership.reference) →
              ledger.Replaces after.platform [] [membership]) := by
  have genuine := Coordinator.genuine_of_create signs created
  have inShape : state.services.platform.InShape := reaches.sound.history _ List.mem_cons_self
  refine ⟨fun founding => ⟨?founds, ?founded⟩, fun application => ⟨?applies, ?applied⟩⟩
  case founds => exact Coordinator.run_founding_isOk_iff genuine inShape
  case founded => exact fun outcome after => Coordinator.effect_of_run_founding
  case applies => exact Coordinator.run_application_isOk_iff genuine inShape
  case applied => exact fun outcome after => Coordinator.effect_of_run_application

end Requests

end Interleaving

end Signing

section Specimen

open Transparent

namespace Interleaving

/-- The namesake founds a network of its own, with a group under a chosen id. -/
def annexFounding : Except NetworkError Outcome × Services Ledger LockTable :=
  letI := suite
  (underStandard namesake 3).run
    (.found ⟨some ⟨"annex"⟩, some (.ofUuid ⟨.replicate 16 5⟩), some "Annex", none⟩)
    (Session.idsOf 10) awaiting.services

/-- It asks the founder for admission, too. -/
def namesakeApplication : Except NetworkError Outcome × Services Ledger LockTable :=
  letI := suite
  (underStandard namesake 3).run (.apply ⟨⟨"net"⟩, founder, none⟩) (Session.idsOf 10)
    awaiting.services

set_option maxRecDepth 10000 in
theorem namesake_is_recorded_anew :
    (annexFounding.1.toOption.bind Outcome.state?).any (fun group => decide
      (∀ recorded ∈ awaiting.services.platform.states,
        recorded.reference.txId ≠ group.reference.txId)) ∧
    (Outcome.recorded? namesakeApplication.1).any fun membership => decide
      (∀ recorded ∈ awaiting.services.platform.states,
        recorded.reference ≠ membership.reference) := by
  decide +kernel

/-- The ledger does not even know the key of the namesake. -/
theorem namesake_comes_in :
    letI := suite
    awaiting.services.platform.keyring.contains namesake.owningKey = false ∧
    (∃ txId membership group,
      annexFounding.1 = .ok (.bootstrapped txId ⟨"annex"⟩ membership group) ∧
        awaiting.services.platform.HasRoomFor ⟨"annex"⟩ (some (.ofUuid ⟨.replicate 16 5⟩)) ∧
        awaiting.services.platform.Replaces annexFounding.2.platform [] [membership, group]) ∧
    ∃ membership, namesakeApplication.1 = .ok (.recorded membership) ∧
      (underStandard namesake 3).MayApply awaiting.services.platform
        ⟨⟨"net"⟩, founder, none⟩ ∧
      awaiting.services.platform.Replaces namesakeApplication.2.platform [] [membership] := by
  let _ := suite
  obtain ⟨foundings, applications⟩ := issuances_are_recorded_as_requested awaiting_reached
    (signs_keys 3) (create_underStandard "Joiner" 3 rfl) (Session.idsOf 10)
  obtain ⟨isFounded, isRecorded⟩ := namesake_is_recorded_anew
  refine ⟨by decide +kernel, ?_, ?_⟩
  · obtain ⟨founds, founded⟩ := foundings
      ⟨some ⟨"annex"⟩, some (.ofUuid ⟨.replicate 16 5⟩), some "Annex", none⟩
    obtain ⟨group, isGroup, isFresh⟩ := (Option.any_eq_true _ _).1 isFounded
    obtain ⟨outcome, isOutcome, isLast⟩ := Option.bind_eq_some_iff.1 isGroup
    have ran : annexFounding.1 = .ok outcome := by
      cases answer : annexFounding.1 with
      | error failure =>
          rw [answer] at isOutcome
          cases isOutcome
      | ok found =>
          rw [answer] at isOutcome
          cases isOutcome
          rfl
    have isRun : annexFounding = (.ok outcome, annexFounding.2) := Prod.fst_eq_iff.1 ran
    have mayFound := founds.1 ⟨_, congrArg Prod.fst isRun⟩
    obtain ⟨_, txId, rfl, replaces⟩ := founded outcome annexFounding.2 isRun
    cases isLast
    have fresh := of_decide_eq_true isFresh
    refine ⟨_, _, _, ran, mayFound.1, replaces fun recorded isCurrent => ?_⟩
    have other : recorded.reference.txId ≠ txId := fresh recorded isCurrent
    exact ⟨fun same => other (by rw [same]), fun same => other (by rw [same])⟩
  · obtain ⟨applies, applied⟩ := applications ⟨⟨"net"⟩, founder, none⟩
    obtain ⟨admitted, recorded, isFresh⟩ := (Option.any_eq_true _ _).1 isRecorded
    have ran := Outcome.recorded?_eq_some_iff.1 recorded
    have isRun : namesakeApplication = (.ok (.recorded admitted), namesakeApplication.2) :=
      Prod.fst_eq_iff.1 ran
    have mayApply := applies.1 ⟨_, congrArg Prod.fst isRun⟩
    obtain ⟨_, isOutcome, replaces⟩ := applied _ namesakeApplication.2 isRun
    cases isOutcome
    exact ⟨_, ran, mayApply.1, replaces (of_decide_eq_true isFresh)⟩

end Interleaving

end Specimen

end Consortium
