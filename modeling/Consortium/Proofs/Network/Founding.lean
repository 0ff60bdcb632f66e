import Consortium.Proofs.Network.Plan
import Consortium.Proofs.Network.Proposal

/-!
Foundings of a network in flight. The lock of the network is the first one that they take and the
last one that they give back, and once one of them is recorded the network exists.
-/

namespace Consortium

namespace Task

/-- The proposal has been recorded. There may still be locks to give back. -/
def hasRecorded (task : Task) : Bool :=
  match task.progress with
  | .releasing (.ok _) => true
  | _ => false

/-- The request is a founding of the network, and holds the first so many of the locks that its plan
claims. -/
structure FoundsNetwork (networkId : NetworkId) (task : Task) : Prop where
  planned : ∃ (coordinator : Coordinator) (founding : NetworkFounding) (ids : FreshIds),
    coordinator.foundingPlan founding networkId ids = task.plan
  onPlan : task.OnPlan
  locked : task.heldKeys.reverse <+: task.plan.claims

namespace FoundsNetwork

variable {networkId : NetworkId} {task : Task}

theorem claims (founds : task.FoundsNetwork networkId) :
    ∃ others, task.plan.claims = .ofNetwork networkId :: others := by
  obtain ⟨coordinator, founding, ids, isPlan⟩ := founds.planned
  rw [← isPlan]
  exact ⟨_, rfl⟩

/-- The lock of the network is the first one to be taken and the last one to be given back. -/
theorem network_held (founds : task.FoundsNetwork networkId) (holds : task.held ≠ []) :
    .ofNetwork networkId ∈ task.heldKeys := by
  obtain ⟨others, claims⟩ := founds.claims
  have locked := founds.locked
  rw [claims, List.prefix_cons_iff] at locked
  rcases locked with nothing | ⟨rest, starts, _⟩
  · simp [heldKeys, holds] at nothing
  · rw [← List.mem_reverse, starts]
    exact List.mem_cons_self

theorem held_of_out (founds : task.FoundsNetwork networkId) {tx : Transaction}
    (isOut : task.progress = .collecting tx ∨ task.progress = .verifying tx ∨
      task.progress = .finalizing tx) : task.held ≠ [] := by
  obtain ⟨others, isClaims⟩ := founds.claims
  intro nothing
  cases founds.onPlan with
  | locking progress => simp [progress] at isOut
  | out _ _ claims =>
      rw [isClaims, heldKeys, nothing] at claims
      cases claims
  | releasing progress => simp [progress] at isOut

theorem pending_eq (founds : task.FoundsNetwork networkId) {pending : List LockKey}
    (progress : task.progress = .locking pending) (nothing : task.held = []) :
    ∃ others, pending = .ofNetwork networkId :: others := by
  obtain ⟨others, isClaims⟩ := founds.claims
  cases founds.onPlan with
  | locking sameProgress claims =>
      cases sameProgress.symm.trans progress
      rw [isClaims, heldKeys, nothing] at claims
      exact ⟨others, claims.symm⟩
  | out isOut => simp [progress] at isOut
  | releasing released => cases released.symm.trans progress

variable {σ : Type} [LockStore σ] [LawfulLockStore σ] [Suite]

omit [Suite] in
theorem lock_locked {key : LockKey} {pending : List LockKey}
    (claims : task.plan.claims = task.heldKeys.reverse ++ key :: pending)
    (services : Services Ledger σ) :
    (task.lock key pending services).1.heldKeys.reverse <+: task.plan.claims := by
  rw [claims]
  unfold lock
  dsimp only
  split
  · rename_i taken _ locks created
    obtain ⟨rfl, _, _⟩ := RequestLock.occupied_of_create_ok created
    exact ⟨pending, by simp [heldKeys]⟩
  · exact List.prefix_append _ _

theorem step (founds : task.FoundsNetwork networkId) (services : Services Ledger σ) :
    (task.step services).1.FoundsNetwork networkId where
  planned := by
    rw [(task.step_plan services).1]
    exact founds.planned
  onPlan := step_onPlan founds.onPlan services
  locked := by
    rw [(task.step_plan services).1]
    obtain ⟨_, onPlan, locked⟩ := founds
    obtain ⟨coordinator, plan, ids, held, progress⟩ := task
    cases progress with
    | locking pending =>
        cases pending with
        | nil => exact locked
        | cons key pending =>
            cases onPlan with
            | locking progress claims =>
                cases progress
                exact lock_locked claims services
            | out progress => simp at progress
            | releasing progress => cases progress
    | collecting tx => exact locked
    | verifying tx => exact locked
    | finalizing tx => exact locked
    | releasing result =>
        cases held with
        | nil => exact locked
        | cons taken rest =>
            refine List.IsPrefix.trans ?_ locked
            rw [heldKeys, heldKeys, List.map_cons, List.reverse_cons]
            exact List.prefix_append _ _

end FoundsNetwork

end Task

theorem Task.lock_of_occupied {σ : Type} [LockStore σ] [LawfulLockStore σ] (task : Task)
    {key : LockKey} (pending : List LockKey) {services : Services Ledger σ}
    (occupied : LawfulLockStore.Occupied key services.locks) :
    (∃ failure, (task.lock key pending services).1.progress = .releasing (.error failure)) ∧
      (task.lock key pending services).2.platform = services.platform := by
  unfold lock
  dsimp only
  split
  · rename_i created
    obtain ⟨_, free, _⟩ := RequestLock.occupied_of_create_ok created
    exact absurd occupied free
  · exact ⟨⟨_, rfl⟩, rfl⟩

/-! ### Records -/

namespace Ledger

variable [Suite] {ledger : Ledger} {tx : Transaction} {networkId : NetworkId}

omit [Suite] in
theorem networkExists_of_mem {recorded : StateAndRef} (isRecorded : recorded ∈ ledger.states)
    {membership : MembershipState} (isMembership : recorded.membership? = some membership)
    (sameNetwork : membership.networkId = networkId) : ledger.networkExists networkId = true := by
  have isMember : recorded ∈ ledger.memberships networkId := by
    refine List.mem_filter.2 ⟨isRecorded, ?_⟩
    rw [isMembership, Option.any_some]
    exact decide_eq_true sameNetwork
  cases members : ledger.memberships networkId with
  | nil =>
      rw [members] at isMember
      cases isMember
  | cons first rest => rw [networkExists, members, List.isEmpty_cons, Bool.not_false]

theorem networkExists_of_record {membership : MembershipState} {group : GroupState}
    (outputs : tx.outputs = [.ofMembership membership, .ofGroup group])
    (sameNetwork : membership.networkId = networkId) :
    (ledger.record tx).networkExists networkId = true := by
  have current : (⟨.ofMembership membership, ⟨tx.id, 0⟩⟩ : StateAndRef) ∈
      (ledger.record tx).states := by
    rw [mem_states, record, recordedOutputs, outputs]
    have apart : (⟨tx.id, 0⟩ : StateRef) ≠ ⟨tx.id, 1⟩ := by simp
    exact (SortedMap.find?_insert_of_ne _ _ apart).trans (SortedMap.find?_insert_self _ _ _)
  exact networkExists_of_mem current rfl sameNetwork

end Ledger

namespace Task

variable {networkId : NetworkId} {task : Task} {σ : Type} [LockStore σ] [Suite]

omit [LockStore σ] in
theorem FoundsNetwork.outputs (founds : task.FoundsNetwork networkId) {tx : Transaction}
    (isLast : task.progress = .finalizing tx) :
    ∃ membership group, tx.outputs = [.ofMembership membership, .ofGroup group] ∧
      membership.networkId = networkId ∧
      ∃ outcome, task.plan.outcome ⟨tx.id, Ledger.recordedOutputs tx⟩ = .ok outcome := by
  obtain ⟨⟨founder, founding, ids, isPlan⟩, onPlan, _⟩ := founds
  obtain ⟨now, proposes⟩ := onPlan.proposes isLast
  rw [← isPlan] at proposes ⊢
  have outputs : tx.outputs = [.ofMembership (founder.foundingMembership founding networkId
      ids now), .ofGroup (founder.foundingGroup founding networkId ids now)] :=
    congrArg Transaction.outputs proposes
  refine ⟨_, _, outputs, rfl, ?_⟩
  rw [Ledger.recordedOutputs, outputs]
  exact ⟨_, rfl⟩

/-- What a step does to the ledger, for a request that holds the keys afterwards: nothing that
counts, or it records the founding of the network. -/
inductive Writes (networkId : NetworkId) (keys : List LockKey) (before after : Bool)
    (ledger current : Ledger) : Prop
  | nothing (sameLog : current.transactions = ledger.transactions) (same : after = before) :
      Writes networkId keys before after ledger current
  | founding {tx : Transaction} (log : current.transactions = ledger.transactions ++ [tx])
      (holds : .ofNetwork networkId ∈ keys) (recorded : after = true)
      (founded : current.networkExists networkId = true) :
      Writes networkId keys before after ledger current

theorem FoundsNetwork.writes (founds : task.FoundsNetwork networkId)
    (services : Services Ledger σ) :
    Writes networkId (task.step services).1.heldKeys task.hasRecorded
      (task.step services).1.hasRecorded services.platform (task.step services).2.platform := by
  obtain ⟨coordinator, plan, ids, held, progress⟩ := task
  obtain ⟨platform, locks, clock⟩ := services
  cases progress with
  | locking pending =>
      cases pending with
      | nil => exact .nothing rfl rfl
      | cons key pending =>
          unfold Task.step Task.lock
          dsimp only
          split <;> exact .nothing rfl rfl
  | collecting tx =>
      unfold Task.step
      dsimp only [Platform.collectSignatures, Ledger.collectSignatures]
      split <;> exact .nothing rfl rfl
  | verifying tx =>
      unfold Task.step Task.verified
      dsimp only
      split <;> exact .nothing rfl rfl
  | finalizing tx =>
      obtain ⟨membership, group, outputs, sameNetwork, outcome, answers⟩ := founds.outputs rfl
      have holds := founds.network_held (founds.held_of_out (.inr (.inr rfl)))
      unfold Task.step
      dsimp only [Platform.finalize]
      by_cases accepts : platform.Accepts tx
      · rw [Ledger.finalize_of_accepts accepts]
        refine .founding rfl holds ?_ (Ledger.networkExists_of_record outputs sameNetwork)
        change hasRecorded ⟨_, _, _, _, .releasing (plan.outcome _)⟩ = true
        rw [answers]
        rfl
      · obtain ⟨failure, refused⟩ := Ledger.finalize_of_not_accepts accepts
        rw [refused]
        exact .nothing rfl rfl
  | releasing result =>
      cases held with
      | nil => exact .nothing rfl rfl
      | cons taken rest => exact .nothing rfl rfl

end Task

end Consortium
