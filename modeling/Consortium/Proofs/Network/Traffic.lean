import Consortium.Proofs.Network.Custody
import Consortium.Proofs.Network.GroupIds

/-!
Requests in flight over any platform and any lock store. Each runs from its checks until its
proposal is about to be sent out for signatures, waits there while others go on, and is resumed or
dropped. As long as the store does not fail to remove a lock, it keeps one lock for each key that a
request in flight claims, and no other.
-/

namespace Consortium

/-! ### Claims -/

/-- The keys that a request claims, with the answers of the platform at the time of its checks. -/
def Coordinator.claims {π : Type} [Platform π] (coordinator : Coordinator) (request : Request)
    (ids : FreshIds) (platform : π) : List LockKey :=
  match request with
  | .found founding =>
      .ofNetwork (founding.networkId.getD (.ofUuid ids.network)) ::
        (founding.groupId.map LockKey.ofGroup).toList
  | .apply application => [.ofPendingMembership application.networkId coordinator.identity]
  | .createGroup proposal =>
      (proposal.groupId.map LockKey.ofGroup).toList ++
        (proposal.name.map (LockKey.ofGroupName proposal.networkId)).toList
  | .modifyGroup id change =>
      match Platform.groupById id platform with
      | .ok (some recorded) =>
          match recorded.group?, change.name with
          | some current, some name =>
              if current.name = some name then [] else [.ofGroupName current.networkId name]
          | _, _ => []
      | _ => []
  | .change _ _ _ | .revoke _ _ | .exitGroup _ => []

namespace Coordinator

variable {π : Type} [Platform π] {coordinator : Coordinator} {ids : FreshIds} {platform : π}
  {plan : Plan}

theorem claims_of_planBootstrap {founding : NetworkFounding}
    (planned : coordinator.planBootstrap founding ids platform = .ok plan) :
    plan.claims = coordinator.claims (.found founding) ids platform := by
  unfold planBootstrap at planned
  obtain ⟨taken, _, planned⟩ := bind_eq_ok_iff.1 planned
  cases taken with
  | true => cases planned
  | false =>
      obtain ⟨_, _, planned⟩ := bind_eq_ok_iff.1 planned
      cases planned
      rfl

theorem claims_of_planApplication {application : MembershipApplication}
    (planned : coordinator.planApplication application ids platform = .ok plan) :
    plan.claims = coordinator.claims (.apply application) ids platform := by
  unfold planApplication at planned
  obtain ⟨found, _, planned⟩ := bind_eq_ok_iff.1 planned
  cases found with
  | false => cases planned
  | true =>
      obtain ⟨own, _, planned⟩ := bind_eq_ok_iff.1 planned
      cases own with
      | some recorded => cases planned
      | none =>
          obtain ⟨_, _, planned⟩ := bind_eq_ok_iff.1 planned
          cases planned
          rfl

theorem claims_of_planTransition {networkId : NetworkId} {party : Party} {change : MembershipChange}
    (planned : coordinator.planTransition networkId party change platform = .ok plan) :
    plan.claims = [] := by
  unfold planTransition at planned
  obtain ⟨input, _, planned⟩ := bind_eq_ok_iff.1 planned
  cases contents : input.membership? with
  | none =>
      rw [contents] at planned
      cases planned
  | some current =>
      rw [contents] at planned
      obtain ⟨_, _, planned⟩ := bind_eq_ok_iff.1 planned
      cases planned
      rfl

theorem claims_of_planRevocation {networkId : NetworkId} {party : Party}
    (planned : coordinator.planRevocation networkId party platform = .ok plan) :
    plan.claims = [] := by
  unfold planRevocation at planned
  obtain ⟨_, _, planned⟩ := bind_eq_ok_iff.1 planned
  obtain ⟨_, _, planned⟩ := bind_eq_ok_iff.1 planned
  cases planned
  rfl

theorem claims_of_planGroup {proposal : GroupProposal}
    (planned : coordinator.planGroup proposal ids platform = .ok plan) :
    plan.claims = coordinator.claims (.createGroup proposal) ids platform := by
  unfold planGroup at planned
  obtain ⟨_, _, planned⟩ := bind_eq_ok_iff.1 planned
  obtain ⟨_, _, planned⟩ := bind_eq_ok_iff.1 planned
  obtain ⟨_, _, planned⟩ := bind_eq_ok_iff.1 planned
  obtain ⟨_, _, planned⟩ := bind_eq_ok_iff.1 planned
  cases planned
  rfl

theorem groupById_of_requireGroupState {id : LinearId} {input : StateAndRef} {current : GroupState}
    (answer : requireGroupState platform id = .ok (input, current)) :
    Platform.groupById id platform = .ok (some input) ∧ input.group? = some current := by
  unfold requireGroupState Platform.requireGroup at answer
  obtain ⟨recorded, required, contents⟩ := bind_eq_ok_iff.1 answer
  obtain ⟨found, asked, isFound⟩ := bind_eq_ok_iff.1 required
  have answered := Platform.ask_eq_ok_iff.1 asked
  cases found with
  | none => cases isFound
  | some recorded =>
      cases isFound
      cases state : recorded.group? with
      | none =>
          rw [state] at contents
          cases contents
      | some group =>
          rw [state] at contents
          cases contents
          exact ⟨answered, state⟩

theorem claims_of_planGroupChange {id : LinearId} {change : GroupChange}
    (planned : coordinator.planGroupChange id change platform = .ok plan) :
    plan.claims = coordinator.claims (.modifyGroup id change) ids platform := by
  unfold planGroupChange at planned
  obtain ⟨⟨input, current⟩, found, planned⟩ := bind_eq_ok_iff.1 planned
  obtain ⟨_, _, planned⟩ := bind_eq_ok_iff.1 planned
  obtain ⟨_, _, planned⟩ := bind_eq_ok_iff.1 planned
  obtain ⟨_, _, planned⟩ := bind_eq_ok_iff.1 planned
  cases planned
  obtain ⟨answered, contents⟩ := groupById_of_requireGroupState found
  simp only [groupChangePlan, claims, answered, contents, GroupChange.newName]
  cases change.name with
  | none => rfl
  | some name => by_cases same : current.name = some name <;> simp [same]

theorem claims_of_planGroupExit {id : LinearId}
    (planned : coordinator.planGroupExit id platform = .ok plan) : plan.claims = [] := by
  unfold planGroupExit at planned
  obtain ⟨_, _, planned⟩ := bind_eq_ok_iff.1 planned
  obtain ⟨_, _, planned⟩ := bind_eq_ok_iff.1 planned
  cases planned
  rfl

theorem claims_of_plan {request : Request}
    (planned : coordinator.plan request ids platform = .ok plan) :
    plan.claims = coordinator.claims request ids platform := by
  cases request with
  | found founding => exact claims_of_planBootstrap planned
  | apply application => exact claims_of_planApplication planned
  | change networkId party change => exact claims_of_planTransition planned
  | revoke networkId party => exact claims_of_planRevocation planned
  | createGroup proposal => exact claims_of_planGroup planned
  | modifyGroup id change => exact claims_of_planGroupChange planned
  | exitGroup id => exact claims_of_planGroupExit planned

end Coordinator

/-! ### Events -/

/-- A request that waits for signatures. -/
structure Flight (π : Type) where
  coordinator : Coordinator
  request : Request
  ids : FreshIds
  /-- The platform at the time of the checks. -/
  checked : π
  task : Task

def Flight.claims {π : Type} [Platform π] (flight : Flight π) : List LockKey :=
  flight.coordinator.claims flight.request flight.ids flight.checked

structure Traffic (π σ : Type) where
  services : Services π σ
  /-- The latest one first. -/
  inFlight : List (Flight π)

inductive TrafficEvent (π : Type) where
  | launch (coordinator : Coordinator) (request : Request) (ids : FreshIds)
  | resume (position : Nat)
  | drop (position : Nat)
  | setClock (now : Timestamp)
  /-- Something else happens to the platform, whatever it is. -/
  | alterPlatform (platform : π)

namespace Traffic

open RequestLock

variable {π σ : Type} [Platform π] [LockStore σ]

def opened (platform : π) (locks : σ) (clock : Timestamp) : Traffic π σ :=
  ⟨⟨platform, locks, clock⟩, []⟩

def held (traffic : Traffic π σ) : List RequestLock :=
  traffic.inFlight.flatMap fun flight => flight.task.held

section Events

variable [Suite]

def launch (traffic : Traffic π σ) (coordinator : Coordinator) (request : Request)
    (ids : FreshIds) : Traffic π σ :=
  match Task.start coordinator request ids traffic.services with
  | .error _ => traffic
  | .ok task =>
      let (task, services) := task.runUntil Task.isCollecting traffic.services
      let flight : Flight π := ⟨coordinator, request, ids, traffic.services.platform, task⟩
      ⟨services, if task.isCollecting then flight :: traffic.inFlight else traffic.inFlight⟩

def resume (traffic : Traffic π σ) (position : Nat) : Traffic π σ :=
  match traffic.inFlight[position]? with
  | none => traffic
  | some flight =>
      ⟨(flight.task.resume (fun _ => false) traffic.services).2,
        traffic.inFlight.eraseIdx position⟩

def drop (traffic : Traffic π σ) (position : Nat) : Traffic π σ :=
  match traffic.inFlight[position]? with
  | none => traffic
  | some flight =>
      ⟨flight.task.cancel traffic.services, traffic.inFlight.eraseIdx position⟩

def step (traffic : Traffic π σ) : TrafficEvent π → Traffic π σ
  | .launch coordinator request ids => traffic.launch coordinator request ids
  | .resume position => traffic.resume position
  | .drop position => traffic.drop position
  | .setClock now => { traffic with services.clock := now }
  | .alterPlatform platform => { traffic with services.platform := platform }

/-- The store does not fail to remove a lock in the course of the event. -/
def GivesBack (traffic : Traffic π σ) : TrafficEvent π → Prop
  | .launch coordinator request ids =>
      ∀ task, Task.start coordinator request ids traffic.services = .ok task →
        Task.GivesBackFor Task.isCollecting task.stepsLeft task traffic.services
  | .resume position =>
      ∀ flight, traffic.inFlight[position]? = some flight →
        Task.GivesBackFor (fun _ => false) (flight.task.step traffic.services).1.stepsLeft
          (flight.task.step traffic.services).1 (flight.task.step traffic.services).2
  | .drop position =>
      ∀ flight, traffic.inFlight[position]? = some flight →
        AllReturnable flight.task.held traffic.services.locks
  | .setClock _ | .alterPlatform _ => True

inductive Reaches (start : Traffic π σ) : Traffic π σ → Prop
  | start : Reaches start start
  | next {traffic : Traffic π σ} {event : TrafficEvent π} (earlier : Reaches start traffic)
      (gives : traffic.GivesBack event) : Reaches start (traffic.step event)

end Events

/-! ### The account of the locks -/

section Account

variable [LawfulLockStore σ] [ListedLockStore σ]

/-- The store keeps what the requests in flight hold, and each of them holds what it claims. -/
structure Accounted (traffic : Traffic π σ) : Prop where
  kept : Kept traffic.held traffic.services.locks
  collecting : ∀ flight ∈ traffic.inFlight, flight.task.isCollecting = true
  claims : ∀ flight ∈ traffic.inFlight, flight.claims = flight.task.heldKeys.reverse

omit [LawfulLockStore σ] in
theorem accounted_opened (platform : π) {locks : σ} (clock : Timestamp)
    (vacant : LockStore.list locks = .ok []) : (opened platform locks clock).Accounted where
  kept := ⟨[], ListedLockStore.lists_of_list_nil vacant, .nil⟩
  collecting _ member := nomatch member
  claims _ member := nomatch member

variable {traffic : Traffic π σ}

omit [Platform π] [LawfulLockStore σ] [LockStore σ] [ListedLockStore σ] in
theorem held_perm {position : Nat} {flight : Flight π}
    (found : traffic.inFlight[position]? = some flight) :
    traffic.held.Perm (flight.task.held ++
      (traffic.inFlight.eraseIdx position).flatMap fun flight => flight.task.held) := by
  obtain ⟨inRange, rfl⟩ := List.getElem?_eq_some_iff.1 found
  exact (List.getElem_cons_eraseIdx_perm inRange).symm.flatMap_right _

namespace Accounted

omit [LawfulLockStore σ] in
theorem erase (accounted : traffic.Accounted) {position : Nat} {services : Services π σ}
    (kept : Kept ((traffic.inFlight.eraseIdx position).flatMap fun flight => flight.task.held)
      services.locks) : Accounted ⟨services, traffic.inFlight.eraseIdx position⟩ where
  kept := kept
  collecting flight member := accounted.collecting flight (List.mem_of_mem_eraseIdx member)
  claims flight member := accounted.claims flight (List.mem_of_mem_eraseIdx member)

variable [Suite]

theorem launch (accounted : traffic.Accounted) {coordinator : Coordinator} {request : Request}
    {ids : FreshIds} (gives : traffic.GivesBack (.launch coordinator request ids)) :
    (traffic.launch coordinator request ids).Accounted := by
  unfold Traffic.launch
  split
  · exact accounted
  · rename_i task started
    obtain ⟨planned, nothing, gathers⟩ := Task.gathers_of_start started
    have before : Kept (task.held ++ traffic.held) traffic.services.locks := by
      rw [nothing]
      exact accounted.kept
    have kept := Task.runFor_kept before (gives task started)
    have ends := Task.runFor_ends Task.isCollecting traffic.services (Nat.le_refl task.stepsLeft)
    have gathered (waits : (task.runUntil Task.isCollecting traffic.services).1.isCollecting) :
        task.plan.claims =
          (task.runUntil Task.isCollecting traffic.services).1.heldKeys.reverse :=
      Task.claims_of_runFor gathers traffic.services waits
    rw [← Task.runUntil] at kept ends
    generalize task.runUntil Task.isCollecting traffic.services = reached at kept ends gathered ⊢
    obtain ⟨final, services⟩ := reached
    dsimp only at kept ends gathered ⊢
    split
    · rename_i waits
      refine ⟨kept, List.forall_mem_cons.2 ⟨waits, accounted.collecting⟩,
        List.forall_mem_cons.2 ⟨?_, accounted.claims⟩⟩
      exact (Coordinator.claims_of_plan planned).symm.trans (gathered waits)
    · rename_i gone
      rw [ends.resolve_left gone] at kept
      exact ⟨kept, accounted.collecting, accounted.claims⟩

theorem resume (accounted : traffic.Accounted) {position : Nat}
    (gives : traffic.GivesBack (.resume position)) : (traffic.resume position).Accounted := by
  unfold Traffic.resume
  split
  · exact accounted
  · rename_i flight found
    have waits := accounted.collecting flight (List.mem_of_getElem? found)
    -- A request that waits has nothing to give back in its next step.
    have nothingYet : flight.task.GivesBack traffic.services := by
      unfold Task.GivesBack
      unfold Task.isCollecting at waits
      split
      · rename_i progress _
        rw [progress] at waits
        cases waits
      · trivial
    have stepped := Task.step_kept (accounted.kept.of_perm (held_perm found)) nothingYet
    have kept := Task.runFor_kept stepped (gives flight found)
    have ends := Task.runFor_ends (fun _ => false) (flight.task.step traffic.services).2
      (Nat.le_refl (flight.task.step traffic.services).1.stepsLeft)
    rw [ends.resolve_left Bool.false_ne_true] at kept
    exact accounted.erase kept

omit [LawfulLockStore σ] [Suite] in
theorem drop [Suite] (accounted : traffic.Accounted) {position : Nat}
    (gives : traffic.GivesBack (.drop position)) : (traffic.drop position).Accounted := by
  unfold Traffic.drop
  split
  · exact accounted
  · rename_i flight found
    have kept := accounted.kept.of_perm (held_perm found)
    exact accounted.erase (Task.cancel_kept kept (gives flight found))

theorem step (accounted : traffic.Accounted) {event : TrafficEvent π}
    (gives : traffic.GivesBack event) : (traffic.step event).Accounted := by
  cases event with
  | launch coordinator request ids => exact accounted.launch gives
  | resume position => exact accounted.resume gives
  | drop position => exact accounted.drop gives
  | setClock now => exact ⟨accounted.kept, accounted.collecting, accounted.claims⟩
  | alterPlatform platform => exact ⟨accounted.kept, accounted.collecting, accounted.claims⟩

end Accounted

variable [Suite]

theorem Reaches.accounted {start : Traffic π σ} (reaches : Reaches start traffic)
    (accounted : start.Accounted) : traffic.Accounted := by
  induction reaches with
  | start => exact accounted
  | next _ gives ih => exact ih.step gives

/-! A store in memory can be told not to fail, and then never does. -/

section Table

variable {traffic : Traffic π LockTable}

theorem step_failDeletes (traffic : Traffic π LockTable) (event : TrafficEvent π) :
    (traffic.step event).services.locks.failDeletes = traffic.services.locks.failDeletes := by
  cases event with
  | launch coordinator request ids =>
      unfold step launch
      dsimp only
      split
      · rfl
      · exact Task.runFor_failDeletes _ _ _ _
  | resume position =>
      unfold step resume
      dsimp only
      split
      · rfl
      · exact (Task.runFor_failDeletes _ _ _ _).trans (Task.step_failDeletes _ _)
  | drop position =>
      unfold step drop
      dsimp only
      split
      · rfl
      · exact Task.cancel_failDeletes _ _
  | setClock now => rfl
  | alterPlatform platform => rfl

theorem givesBack_of_failDeletes (deletes : traffic.services.locks.failDeletes = false)
    (event : TrafficEvent π) : traffic.GivesBack event := by
  cases event with
  | launch coordinator request ids =>
      intro task _
      exact Task.givesBackFor_of_failDeletes _ _ task deletes
  | resume position =>
      intro flight _
      exact Task.givesBackFor_of_failDeletes _ _ _ ((Task.step_failDeletes _ _).trans deletes)
  | drop position =>
      intro flight _
      exact allReturnable_of_failDeletes flight.task.held deletes
  | setClock now => trivial
  | alterPlatform platform => trivial

theorem reaches_foldl {start : Traffic π LockTable}
    (deletes : traffic.services.locks.failDeletes = false) (reaches : Reaches start traffic)
    (events : List (TrafficEvent π)) : Reaches start (events.foldl step traffic) := by
  induction events generalizing traffic with
  | nil => exact reaches
  | cons event rest ih =>
      refine ih ?_ (reaches.next (givesBack_of_failDeletes deletes event))
      exact (step_failDeletes traffic event).trans deletes

end Table

/-- A lock store that starts empty lists one lock for each key that a request in flight claims, and
no other. No key is claimed twice. -/
theorem listed_keys_perm_claims {platform : π} {locks : σ} {clock : Timestamp}
    (vacant : LockStore.list locks = .ok [])
    (reaches : Reaches (opened platform locks clock) traffic) :
    ∃ listed, LockStore.list traffic.services.locks = .ok listed ∧
      (listed.map RequestLock.key).Perm (traffic.inFlight.flatMap Flight.claims) ∧
      (traffic.inFlight.flatMap Flight.claims).Nodup := by
  have start := accounted_opened platform clock vacant
  obtain ⟨⟨listed, lists, perm⟩, _, claims⟩ := reaches.accounted start
  have keys : (listed.map RequestLock.key).Perm (traffic.inFlight.flatMap Flight.claims) := by
    have heldKeys := perm.map RequestLock.key
    rw [held, List.map_flatMap] at heldKeys
    refine heldKeys.trans (List.Perm.flatMap_left _ fun flight member => ?_)
    rw [claims flight member]
    exact (List.reverse_perm _).symm
  refine ⟨listed, ListedLockStore.list_of_lists lists, keys, ?_⟩
  exact keys.nodup_iff.1 (ListedLockStore.nodup_keys lists)

end Account

open Transparent

def foundingEvent (party : Party) (seed : UInt8) (networkId : String) : TrafficEvent Ledger :=
  .launch ⟨party, keys seed, @Registry.standard suite⟩
    (.found ⟨some ⟨networkId⟩, some (groupOf founder).linearId, none, none⟩)
    (Session.idsOf (seed + 7))

def idle : Traffic Ledger LockTable :=
  opened (.empty (@Registry.standard suite)) .empty ⟨1⟩

/-- The founder has both locks. The joiner gets neither of them, and keeps none of its own. -/
def contested : Traffic Ledger LockTable :=
  [foundingEvent founder 1 "net", foundingEvent joiner 2 "net",
    foundingEvent joiner 3 "other"].foldl (@step _ _ (@Ledger.instPlatform suite) _ suite) idle

set_option maxRecDepth 10000 in
theorem contested_keys_are_the_founders :
    ∃ listed, LockStore.list contested.services.locks = .ok listed ∧
      (listed.map RequestLock.key).Perm
        [.ofNetwork ⟨"net"⟩, .ofGroup (groupOf founder).linearId] := by
  have starts := @Reaches.start _ _ (@Ledger.instPlatform suite) _ suite idle
  have reaches : @Reaches _ _ (@Ledger.instPlatform suite) _ suite idle contested :=
    @reaches_foldl _ (@Ledger.instPlatform suite) suite idle idle rfl starts _
  obtain ⟨listed, lists, keys, _⟩ := @listed_keys_perm_claims _ _ (@Ledger.instPlatform suite)
    _ _ _ contested suite _ _ _ rfl reaches
  have claims : contested.inFlight.flatMap (@Flight.claims _ (@Ledger.instPlatform suite)) =
      [.ofNetwork ⟨"net"⟩, .ofGroup (groupOf founder).linearId] := by
    decide +kernel
  rw [claims] at keys
  exact ⟨listed, lists, keys⟩

end Traffic

end Consortium
