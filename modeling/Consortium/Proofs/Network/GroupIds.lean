import Consortium.Proofs.Crypto.Transparent
import Consortium.Proofs.Network.Distinct

/-!
Group ids. Neither a contract nor the ledger checks that the uuid of a new group is new. It is the
check of the request together with its lock, which is held until the group is recorded, and for an
id that nobody chose it is that uuids drawn at random do not repeat.
-/

namespace Consortium

def ContractState.groupUuid? (data : ContractState) : Option Uuid :=
  data.group?.map fun group => group.linearId.uuid

namespace Request

/-- The id that is asked for, if the request is for a new group. -/
def newGroup? : Request → Option (Option LinearId)
  | .found founding => some founding.groupId
  | .createGroup proposal => some proposal.groupId
  | .apply _ | .change _ _ _ | .revoke _ _ | .modifyGroup _ _ | .exitGroup _ => none

def chosenGroup? (request : Request) : Option Uuid :=
  request.newGroup?.join.map LinearId.uuid

def drawnGroup? (request : Request) (ids : FreshIds) : Option Uuid :=
  match request.newGroup? with
  | some none => some ids.group
  | some (some _) | none => none

theorem group_of_drawnGroup? {request : Request} {ids : FreshIds} {uuid : Uuid}
    (draws : request.drawnGroup? ids = some uuid) : ids.group = uuid := by
  unfold drawnGroup? at draws
  split at draws
  · exact Option.some.inj draws
  · cases draws
  · cases draws

end Request

theorem Ledger.mem_states_of_groupById {ledger : Ledger} {id : LinearId} {recorded : StateAndRef}
    (found : ledger.groupById id = some recorded) : recorded ∈ ledger.states :=
  List.mem_of_find?_eq_some found

theorem Ledger.not_occupies_of_groupById {ledger : Ledger} {id : LinearId}
    (free : ledger.groupById id = none) :
    ¬ ledger.Occupies ContractState.groupUuid? id.uuid := by
  intro ⟨recorded, member, hasUuid⟩
  obtain ⟨group, isGroup, sameUuid⟩ := Option.map_eq_some_iff.1 hasUuid
  have differs := List.find?_eq_none.1 free recorded member
  change ¬ (recorded.state.data.group?.any _) = true at differs
  rw [isGroup, Option.any_some, sameUuid] at differs
  exact differs (decide_eq_true rfl)

section Signing

variable [Suite] {ledger : Ledger}

namespace Coordinator

structure PlansGroups (request : Request) (ids : FreshIds) (ledger : Ledger) (plan : Plan) :
    Prop where
  distinguishes : plan.Distinguishes ContractState.groupUuid?
  introduces : ∀ uuid, plan.Introduces ContractState.groupUuid? uuid →
    request.drawnGroup? ids = some uuid ∨
    request.chosenGroup? = some uuid ∧ LockKey.ofGroup (.ofUuid uuid) ∈ plan.claims ∧
      ¬ ledger.Occupies ContractState.groupUuid? uuid

variable {coordinator : Coordinator} {request : Request} {ids : FreshIds} {plan : Plan}

omit [Suite] in
theorem plansGroups_of_new {chosen : Option LinearId} (asks : request.newGroup? = some chosen)
    (distinguishes : plan.Distinguishes ContractState.groupUuid?)
    (created : ∀ now, ∀ output ∈ (plan.draft now).outputs, ∀ uuid,
      output.data.groupUuid? = some uuid → (chosen.getD (.ofUuid ids.group)).uuid = uuid)
    (claimed : ∀ id, chosen = some id → LockKey.ofGroup id ∈ plan.claims)
    (free : ∀ id, chosen = some id → ledger.groupById id = none) :
    PlansGroups request ids ledger plan where
  distinguishes := distinguishes
  introduces uuid := by
    intro ⟨now, introduces⟩
    obtain ⟨output, isOutput, hasUuid⟩ := introduces.created
    have sameUuid := created now output isOutput uuid hasUuid
    cases chosen with
    | none =>
        left
        rw [Request.drawnGroup?, asks]
        exact congrArg some sameUuid
    | some id =>
        right
        change id.uuid = uuid at sameUuid
        subst sameUuid
        refine ⟨?_, claimed id rfl, Ledger.not_occupies_of_groupById (free id rfl)⟩
        rw [Request.chosenGroup?, asks]
        rfl

omit [Suite] in
theorem plansGroups_of_kept (few : ∀ now, (plan.draft now).outputs.length ≤ 1)
    (kept : ∀ now, ∀ output ∈ (plan.draft now).outputs, ∀ uuid, output.data.groupUuid? = some uuid →
      ∃ input ∈ (plan.draft now).inputs, input.state.data.groupUuid? = some uuid) :
    PlansGroups request ids ledger plan where
  distinguishes := Plan.distinguishes_of_few few
  introduces uuid introduces := absurd introduces (Plan.not_introduces_of_kept kept uuid)

theorem plansGroups (planned : coordinator.plan request ids ledger = .ok plan) :
    PlansGroups request ids ledger plan := by
  cases request with
  | found founding =>
      obtain ⟨_, free, rfl⟩ := planBootstrap_eq_ok_iff.1 planned
      refine plansGroups_of_new rfl (fun now => ?_) ?_ (fun id chosen => ?_) free
      · refine List.pairwise_pair.2 fun uuid isGroup => ?_
        cases isGroup
      · intro now output isOutput uuid isGroup
        rcases List.mem_cons.1 isOutput with rfl | isSecond
        · cases isGroup
        · cases List.mem_singleton.1 isSecond
          exact Option.some.inj isGroup
      · rw [foundingPlan, chosen]
        exact List.mem_cons_of_mem _ (List.mem_singleton_self _)
  | apply application =>
      obtain ⟨_, _, _, rfl⟩ := planApplication_eq_ok_iff.1 planned
      refine plansGroups_of_kept (fun now => Nat.le_refl 1) ?_
      intro now output isOutput uuid isGroup
      cases List.mem_singleton.1 isOutput
      cases isGroup
  | change networkId party change =>
      obtain ⟨_, _, _, _, _, _, rfl⟩ := planTransition_eq_ok_iff.1 planned
      refine plansGroups_of_kept (fun now => Nat.le_refl 1) ?_
      intro now output isOutput uuid isGroup
      cases List.mem_singleton.1 isOutput
      cases isGroup
  | revoke networkId party =>
      obtain ⟨_, _, _, _, rfl⟩ := planRevocation_eq_ok_iff.1 planned
      refine plansGroups_of_kept (fun now => Nat.zero_le 1) ?_
      intro now output isOutput
      cases isOutput
  | createGroup proposal =>
      obtain ⟨_, _, free, _, _, rfl⟩ := planGroup_eq_ok_iff.1 planned
      refine plansGroups_of_new rfl (fun now => ?_) ?_ (fun id chosen => ?_) free
      · exact List.pairwise_singleton _ _
      · intro now output isOutput uuid isGroup
        cases List.mem_singleton.1 isOutput
        exact Option.some.inj isGroup
      · rw [groupPlan, chosen]
        exact List.mem_append_left _ (List.mem_singleton_self _)
  | modifyGroup id change =>
      obtain ⟨input, current, _, _, isGroup, _, _, _, rfl⟩ := planGroupChange_eq_ok_iff.1 planned
      refine plansGroups_of_kept (fun now => Nat.le_refl 1) ?_
      intro now output isOutput uuid hasUuid
      cases List.mem_singleton.1 isOutput
      refine ⟨input, List.mem_singleton_self _, ?_⟩
      change input.state.data.group? = some current at isGroup
      rw [ContractState.groupUuid?, isGroup]
      exact hasUuid
  | exitGroup id =>
      obtain ⟨_, _, _, _, _, _, rfl⟩ := planGroupExit_eq_ok_iff.1 planned
      refine plansGroups_of_kept (fun now => Nat.zero_le 1) ?_
      intro now output isOutput
      cases isOutput

end Coordinator

namespace Session

variable {σ : Type} [LockStore σ] [LawfulLockStore σ]

def Draws (requests : List (Request × FreshIds)) (uuid : Uuid) : Prop :=
  ∃ earlier ∈ requests, earlier.1.drawnGroup? earlier.2 = some uuid

def Chooses (requests : List (Request × FreshIds)) (uuid : Uuid) : Prop :=
  ∃ earlier ∈ requests, earlier.1.chosenGroup? = some uuid

omit [Suite] in
theorem Draws.of_tail {requests : List (Request × FreshIds)} {uuid : Uuid}
    (draws : Draws requests uuid) (entry : Request × FreshIds) :
    Draws (entry :: requests) uuid := by
  obtain ⟨earlier, isEarlier, drawn⟩ := draws
  exact ⟨earlier, List.mem_cons_of_mem _ isEarlier, drawn⟩

omit [Suite] in
theorem Chooses.of_tail {requests : List (Request × FreshIds)} {uuid : Uuid}
    (chooses : Chooses requests uuid) (entry : Request × FreshIds) :
    Chooses (entry :: requests) uuid := by
  obtain ⟨earlier, isEarlier, chosen⟩ := chooses
  exact ⟨earlier, List.mem_cons_of_mem _ isEarlier, chosen⟩

/-- A uuid that is drawn is none of those that were drawn or chosen before, and one that is chosen
has not been drawn for a request in flight. -/
def DrawsAfresh (session : Session σ) : Event σ → Prop
  | .launch _ request ids =>
      (∀ uuid, request.drawnGroup? ids = some uuid →
        ¬ Draws session.requests uuid ∧ ¬ Chooses session.requests uuid) ∧
      ∀ uuid, request.chosenGroup? = some uuid → Draws session.requests uuid →
        ∀ task ∈ session.inFlight, task.ids.group ≠ uuid
  | .resume _ | .drop _ | .setClock _ | .register _ | .alterLocks _ => True

/-- No request in flight loses a lock, and uuids are drawn afresh. -/
structure Undisturbed (session : Session σ) (event : Event σ) : Prop where
  spares : session.SparesLocks event
  afresh : session.DrawsAfresh event

/-- The uuids of groups stem from requests, and a request in flight that brings one in has drawn it
or has locked it. -/
structure TracksGroups (ledger : Ledger) (inFlight : List Task)
    (requests : List (Request × FreshIds)) : Prop where
  recorded : ∀ uuid, ledger.Occupies ContractState.groupUuid? uuid →
    Draws requests uuid ∨ Chooses requests uuid
  issued : ∀ task ∈ inFlight, ∀ uuid, task.plan.Introduces ContractState.groupUuid? uuid →
    task.ids.group = uuid ∧ Draws requests uuid ∨
    Chooses requests uuid ∧ LockKey.ofGroup (.ofUuid uuid) ∈ task.heldKeys
  exclusive : Exclusive ContractState.groupUuid? ledger inFlight

namespace TracksGroups

variable {inFlight : List Task} {requests : List (Request × FreshIds)}

omit [Suite] in
theorem ask (tracks : TracksGroups ledger inFlight requests) (entry : Request × FreshIds) :
    TracksGroups ledger inFlight (entry :: requests) where
  recorded uuid occupies := by
    rcases tracks.recorded uuid occupies with draws | chooses
    · exact .inl (draws.of_tail entry)
    · exact .inr (chooses.of_tail entry)
  issued task isInFlight uuid introduces := by
    rcases tracks.issued task isInFlight uuid introduces with
      ⟨sameUuid, draws⟩ | ⟨chooses, held⟩
    · exact .inl ⟨sameUuid, draws.of_tail entry⟩
    · exact .inr ⟨chooses.of_tail entry, held⟩
  exclusive := tracks.exclusive

omit [Suite] in
theorem empty (contracts : Registry) : TracksGroups (.empty contracts) [] [] where
  recorded uuid occupies := by
    obtain ⟨recorded, member, _⟩ := occupies
    cases member
  issued task isInFlight := nomatch isInFlight
  exclusive := .empty contracts

omit [Suite] in
theorem restate (tracks : TracksGroups ledger inFlight requests) {current : Ledger}
    (same : current.unconsumed = ledger.unconsumed) :
    TracksGroups current inFlight requests where
  recorded uuid occupies := by
    unfold Ledger.Occupies at occupies
    rw [Ledger.states_eq_of_unconsumed same] at occupies
    exact tracks.recorded uuid occupies
  issued := tracks.issued
  exclusive := tracks.exclusive.restate same

theorem settle (tracks : TracksGroups ledger inFlight requests) {position : Nat} {task : Task}
    (found : inFlight[position]? = some task) {current : Ledger}
    (settles : Task.Settles task.plan ledger current) :
    TracksGroups current (inFlight.eraseIdx position) requests where
  recorded uuid occupies := by
    rcases occupies_of_settles settles occupies with before | introduces
    · exact tracks.recorded uuid before
    · rcases tracks.issued task (List.mem_of_getElem? found) uuid introduces with
        ⟨_, draws⟩ | ⟨chooses, _⟩
      · exact .inl draws
      · exact .inr chooses
  issued other isOther := tracks.issued other (List.mem_of_mem_eraseIdx isOther)
  exclusive := tracks.exclusive.settle found settles

omit [Suite] in
/-- A new request in flight brings in no uuid that is in use. -/
theorem cons (tracks : TracksGroups ledger inFlight requests) {task : Task} {request : Request}
    {ids : FreshIds} (sameIds : task.ids = ids)
    (plans : Coordinator.PlansGroups request ids ledger task.plan)
    (claimed : ∀ key ∈ task.plan.claims,
      key ∈ task.heldKeys ∧ ∀ other ∈ inFlight, key ∉ other.heldKeys)
    (drawn : ∀ uuid, request.drawnGroup? ids = some uuid →
      ¬ Draws requests uuid ∧ ¬ Chooses requests uuid)
    (chosen : ∀ uuid, request.chosenGroup? = some uuid → Draws requests uuid →
      ∀ other ∈ inFlight, other.ids.group ≠ uuid) :
    TracksGroups ledger (task :: inFlight) ((request, ids) :: requests) where
  recorded := (tracks.ask (request, ids)).recorded
  issued := by
    refine List.forall_mem_cons.2 ⟨fun uuid introduces => ?_, (tracks.ask (request, ids)).issued⟩
    rcases plans.introduces uuid introduces with draws | ⟨chooses, claims, _⟩
    · refine .inl ⟨?_, (request, ids), List.mem_cons_self, draws⟩
      rw [sameIds]
      exact Request.group_of_drawnGroup? draws
    · exact .inr ⟨⟨(request, ids), List.mem_cons_self, chooses⟩, (claimed _ claims).1⟩
  exclusive := by
    refine tracks.exclusive.cons plans.distinguishes (fun uuid introduces occupies => ?_) ?_
    · rcases plans.introduces uuid introduces with draws | ⟨_, _, vacant⟩
      · obtain ⟨notDrawn, notChosen⟩ := drawn uuid draws
        exact (tracks.recorded uuid occupies).elim notDrawn notChosen
      · exact vacant occupies
    · intro other isOther uuid introduces otherIntroduces
      rcases plans.introduces uuid introduces with draws | ⟨chooses, claims, _⟩
      · obtain ⟨notDrawn, notChosen⟩ := drawn uuid draws
        rcases tracks.issued other isOther uuid otherIntroduces with
          ⟨_, otherDraws⟩ | ⟨otherChooses, _⟩
        · exact notDrawn otherDraws
        · exact notChosen otherChooses
      · rcases tracks.issued other isOther uuid otherIntroduces with
          ⟨sameUuid, draws⟩ | ⟨_, held⟩
        · exact chosen uuid chooses draws other isOther sameUuid
        · exact (claimed _ claims).2 other isOther held

end TracksGroups

theorem Moves.tracksGroups {session next : Session σ} {event : Event σ}
    (moves : Moves session event next) (orderly : Orderly session.inFlight session.locks)
    (afresh : session.DrawsAfresh event)
    (tracks : TracksGroups session.ledger session.inFlight session.requests) :
    TracksGroups next.ledger next.inFlight next.requests := by
  cases moves with
  | @launched coordinator request ids next isLaunch launched =>
      subst isLaunch
      obtain ⟨drawn, chosen⟩ := afresh
      cases launched with
      | ended untouched _ =>
          exact (tracks.ask (request, ids)).restate (congrArg Ledger.unconsumed untouched)
      | @waits services task untouched planned sameIds onPlan claims secured foreign =>
          have plans := Coordinator.plansGroups planned
          refine (tracks.cons sameIds plans (fun key claimed => ?_) drawn chosen).restate
            (congrArg Ledger.unconsumed untouched)
          rw [claims, List.mem_reverse] at claimed
          refine ⟨claimed, fun other isOther held => ?_⟩
          exact (foreign key ((orderly.secured other isOther).occupied key held)).notHeld claimed
  | left found settles _ => exact tracks.settle found settles
  | @outside services keyring untouched _ =>
      have same : services.platform.unconsumed = session.ledger.unconsumed := by rw [untouched]
      exact tracks.restate same

theorem Reaches.tracksGroups {contracts : Registry} {locks : σ} {clock : Timestamp}
    {session : Session σ} (reaches : Reaches Undisturbed (opened contracts locks clock) session) :
    TracksGroups session.ledger session.inFlight session.requests := by
  induction reaches with
  | start => exact .empty contracts
  | next earlier undisturbed ih =>
      have orderly := earlier.orderly fun _ _ permitted => permitted.spares
      exact (step_moves orderly undisturbed.spares).tracksGroups orderly undisturbed.afresh ih

/-- Two current groups never have the same uuid, however requests interleave. -/
theorem group_eq_of_uuid {contracts : Registry} {locks : σ} {clock : Timestamp}
    {session : Session σ}
    (reaches : Reaches Undisturbed (opened contracts locks clock) session)
    {first second : StateAndRef} (isFirst : first ∈ session.ledger.states)
    (isSecond : second ∈ session.ledger.states) {firstGroup secondGroup : GroupState}
    (firstHolds : first.group? = some firstGroup) (secondHolds : second.group? = some secondGroup)
    (sameUuid : firstGroup.linearId.uuid = secondGroup.linearId.uuid) : first = second := by
  have tracks := reaches.tracksGroups
  have firstUuid : first.state.data.groupUuid? = some firstGroup.linearId.uuid :=
    congrArg (Option.map _) firstHolds
  have secondUuid : second.state.data.groupUuid? = some secondGroup.linearId.uuid :=
    congrArg (Option.map _) secondHolds
  rw [sameUuid] at firstUuid
  exact tracks.exclusive.distinguishes first isFirst second isSecond _ firstUuid secondUuid

end Session

end Signing

namespace Session

open Transparent

def idsOf (seed : UInt8) : FreshIds :=
  ⟨⟨.replicate 16 seed⟩, ⟨.replicate 16 seed⟩, ⟨.replicate 16 seed⟩, fun _ => ⟨.replicate 16 seed⟩⟩

/-- A party asks for a network whose group has the id of the founder's group. -/
def claim (party : Party) (seed : UInt8) (networkId : String) : Event LockTable :=
  .launch ⟨party, keys seed, @Registry.standard suite⟩
    (.found ⟨some ⟨networkId⟩, some (groupOf founder).linearId, none, none⟩) (idsOf (seed + 7))

def quiet : Session LockTable := opened (@Registry.standard suite) .empty ⟨1⟩

def claimed : Session LockTable := @step _ _ suite quiet (claim founder 1 "net")

def disputed : Session LockTable := @step _ _ suite claimed (claim joiner 2 "other")

def settled : Session LockTable := @step _ _ suite disputed (.resume 0)

set_option maxRecDepth 10000 in
theorem disputed_group_is_recorded_once :
    ∃ found listed, settled.ledger.groupById (groupOf founder).linearId = some found ∧
      settled.ledger.states[1]? = some listed ∧ found = listed := by
  have first : quiet.Undisturbed (claim founder 1 "net") := by
    refine ⟨trivial, ?_, ?_⟩
    · intro uuid drawn
      cases drawn
    · intro uuid chosen drawn task isInFlight
      cases isInFlight
  have second : claimed.Undisturbed (claim joiner 2 "other") := by
    refine ⟨trivial, ?_, ?_⟩
    · intro uuid drawn
      cases drawn
    · intro uuid chosen drawn
      cases chosen
      decide +kernel
  have third : disputed.Undisturbed (.resume 0) := ⟨trivial, trivial⟩
  have reachesQuiet := @Reaches.start _ _ suite Undisturbed quiet
  have reachesClaimed := @Reaches.next _ _ suite _ _ _ _ reachesQuiet first
  have reachesDisputed := @Reaches.next _ _ suite _ _ _ _ reachesClaimed second
  have reaches : @Reaches _ _ suite Undisturbed quiet settled :=
    @Reaches.next _ _ suite _ _ _ _ reachesDisputed third
  have foundGroup : (settled.ledger.groupById (groupOf founder).linearId).bind
      StateAndRef.group? = some (groupOf founder) := by decide +kernel
  have listedGroup : settled.ledger.states[1]?.bind StateAndRef.group? =
      some (groupOf founder) := by decide +kernel
  obtain ⟨found, isFound, foundHolds⟩ := Option.bind_eq_some_iff.1 foundGroup
  obtain ⟨listed, isListed, listedHolds⟩ := Option.bind_eq_some_iff.1 listedGroup
  have foundOnLedger := Ledger.mem_states_of_groupById isFound
  have listedOnLedger := List.mem_of_getElem? isListed
  exact ⟨found, listed, isFound, isListed, @group_eq_of_uuid suite _ _ _
    (@Registry.standard suite) LockTable.empty ⟨1⟩ settled reaches found listed foundOnLedger
    listedOnLedger _ _ foundHolds listedHolds rfl⟩

end Session

end Consortium
