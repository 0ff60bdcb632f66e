import Consortium.Network.Ledger
import Consortium.Proofs.Network.Locking
import Consortium.Proofs.Network.Record

/-!
What a request in flight proposes, and what comes of it on the ledger. Signatures do not change a
proposal, and a request records at most what its plan has drafted.
-/

namespace Consortium

def Transaction.unsigned (tx : Transaction) : Transaction := { tx with signatures := [] }

theorem Ledger.unsigned_of_signAll [Suite] {ledger : Ledger} {keys : List PublicKey}
    {tx signed : Transaction} (collected : ledger.signAll tx keys = .ok signed) :
    signed.unsigned = tx.unsigned := by
  induction keys generalizing tx with
  | nil =>
      cases collected
      rfl
  | cons key rest ih =>
      unfold signAll at collected
      split at collected
      · have same := ih collected
        exact same
      · cases collected

namespace Task

/-- The request carries out its plan: it takes the locks of the plan in their order, holds them all
while a proposal is out, and proposes what the plan drafts. -/
inductive OnPlan (task : Task) : Prop
  | locking {pending : List LockKey} (progress : task.progress = .locking pending)
      (claims : task.plan.claims = task.heldKeys.reverse ++ pending) : OnPlan task
  | out {tx : Transaction} {now : Timestamp}
      (progress : task.progress = .collecting tx ∨ task.progress = .verifying tx ∨
        task.progress = .finalizing tx)
      (proposes : tx.unsigned = (task.plan.draft now).unsigned)
      (claims : task.plan.claims = task.heldKeys.reverse) : OnPlan task
  | releasing {result : Except NetworkError Outcome}
      (progress : task.progress = .releasing result) : OnPlan task

theorem OnPlan.claims_of_isCollecting {task : Task} (onPlan : task.OnPlan)
    (waits : task.isCollecting = true) : task.plan.claims = task.heldKeys.reverse := by
  cases onPlan with
  | locking progress =>
      rw [isCollecting, progress] at waits
      cases waits
  | out _ _ claims => exact claims
  | releasing progress =>
      rw [isCollecting, progress] at waits
      cases waits

theorem OnPlan.proposes {task : Task} (onPlan : task.OnPlan) {tx : Transaction}
    (progress : task.progress = .finalizing tx) :
    ∃ now, tx.unsigned = (task.plan.draft now).unsigned := by
  cases onPlan with
  | locking isLocking =>
      rw [progress] at isLocking
      cases isLocking
  | @out proposed now isOut proposes _ =>
      rw [progress] at isOut
      rcases isOut with isCollecting | isVerifying | isFinalizing
      · cases isCollecting
      · cases isVerifying
      · cases isFinalizing
        exact ⟨now, proposes⟩
  | releasing isReleasing =>
      rw [progress] at isReleasing
      cases isReleasing

section Ledgers

variable {σ : Type} [LockStore σ]

theorem step_plan {π : Type} [Platform π] [Suite] (task : Task) (services : Services π σ) :
    (task.step services).1.plan = task.plan ∧ (task.step services).1.ids = task.ids := by
  unfold step
  split
  · unfold lock
    dsimp only
    split <;> exact ⟨rfl, rfl⟩
  · exact ⟨rfl, rfl⟩
  · exact ⟨rfl, rfl⟩
  · exact ⟨rfl, rfl⟩
  · exact ⟨rfl, rfl⟩
  · unfold release
    split <;> exact ⟨rfl, rfl⟩

theorem step_releasing {π : Type} [Platform π] [Suite] {task : Task}
    {result : Except NetworkError Outcome} (progress : task.progress = .releasing result)
    (services : Services π σ) :
    (task.step services).1.progress = .releasing result ∧
      (task.step services).2.platform = services.platform := by
  obtain ⟨coordinator, plan, ids, held, _⟩ := task
  cases progress
  cases held <;> exact ⟨rfl, rfl⟩

theorem lock_onPlan {π : Type} [LawfulLockStore σ] {task : Task} {key : LockKey}
    {pending : List LockKey} (claims : task.plan.claims = task.heldKeys.reverse ++ key :: pending)
    (services : Services π σ) : (task.lock key pending services).1.OnPlan := by
  unfold lock
  dsimp only
  split
  · rename_i taken _ locks created
    obtain ⟨rfl, _, _⟩ := RequestLock.occupied_of_create_ok created
    refine .locking rfl ?_
    rw [heldKeys, List.map_cons, List.reverse_cons, List.append_assoc]
    exact claims
  · exact .releasing rfl

variable [Suite]

theorem step_onPlan [LawfulLockStore σ] {task : Task} (onPlan : task.OnPlan)
    (services : Services Ledger σ) : (task.step services).1.OnPlan := by
  obtain ⟨coordinator, plan, ids, held, progress⟩ := task
  cases onPlan with
  | @locking pending progress claims =>
      cases progress
      cases pending with
      | nil => exact .out (.inl rfl) rfl (claims.trans (List.append_nil _))
      | cons key pending => exact lock_onPlan claims services
  | @out tx now progress proposes claims =>
      rcases progress with isCollecting | isVerifying | isFinalizing
      · cases isCollecting
        unfold step
        dsimp only [Platform.collectSignatures, Ledger.collectSignatures]
        split
        · rename_i signed collected
          have sameContents := Ledger.unsigned_of_signAll collected
          exact .out (.inr (.inl rfl)) (sameContents.trans proposes) claims
        · exact .releasing rfl
      · cases isVerifying
        unfold step verified
        dsimp only
        split
        · exact .out (.inr (.inr rfl)) proposes claims
        · exact .releasing rfl
      · cases isFinalizing
        exact .releasing rfl
  | releasing progress =>
      cases progress
      cases held with
      | nil => exact .releasing rfl
      | cons taken rest => exact .releasing rfl

/-- What a request can do to the ledger: nothing, or record a proposal that follows the plan. -/
inductive Settles (plan : Plan) (ledger : Ledger) : Ledger → Prop
  | nothing (proposals : Nat) : Settles plan ledger { ledger with proposals }
  | records {tx : Transaction} {now : Timestamp} (proposals : Nat)
      (proposes : tx.unsigned = (plan.draft now).unsigned) (accepts : ledger.Accepts tx) :
      Settles plan ledger { ledger.record tx with proposals }

/-- Where a request stands that started out on this ledger. -/
inductive Settling (plan : Plan) (ledger : Ledger) (task : Task) : Ledger → Prop
  | unsettled (proposals : Nat) : Settling plan ledger task { ledger with proposals }
  | settled {result : Except NetworkError Outcome} {current : Ledger}
      (progress : task.progress = .releasing result) (settles : Settles plan ledger current) :
      Settling plan ledger task current

theorem Settling.settles {plan : Plan} {ledger current : Ledger} {task : Task}
    (settling : Settling plan ledger task current) : Settles plan ledger current := by
  cases settling with
  | unsettled proposals => exact .nothing proposals
  | settled _ settles => exact settles

/-- A step does not touch the ledger, except that it counts a proposal that is sent out for
signatures and records one that is finalized. -/
theorem step_ledger (task : Task) (services : Services Ledger σ) :
    (∃ proposals, services.platform.proposals ≤ proposals ∧
      (task.step services).2.platform = { services.platform with proposals }) ∨
    ∃ tx, task.progress = .finalizing tx ∧ services.platform.Accepts tx ∧
      (task.step services).1.progress =
        .releasing (task.plan.outcome ⟨tx.id, Ledger.recordedOutputs tx⟩) ∧
      (task.step services).2.platform = services.platform.record tx := by
  obtain ⟨coordinator, plan, ids, held, progress⟩ := task
  cases progress with
  | locking pending =>
      cases pending with
      | nil => exact .inl ⟨_, Nat.le_refl _, rfl⟩
      | cons key pending =>
          left
          unfold step lock
          dsimp only
          split <;> exact ⟨_, Nat.le_refl _, rfl⟩
  | collecting tx => exact .inl ⟨_, Nat.le_succ _, rfl⟩
  | verifying tx => exact .inl ⟨_, Nat.le_refl _, rfl⟩
  | finalizing tx =>
      by_cases accepts : services.platform.Accepts tx
      · right
        unfold step
        dsimp only [Platform.finalize]
        rw [Ledger.finalize_of_accepts accepts]
        exact ⟨tx, rfl, accepts, rfl, rfl⟩
      · left
        obtain ⟨failure, refused⟩ := Ledger.finalize_of_not_accepts accepts
        unfold step
        dsimp only [Platform.finalize]
        rw [refused]
        exact ⟨_, Nat.le_refl _, rfl⟩
  | releasing result =>
      left
      rw [(step_releasing rfl services).2]
      exact ⟨_, Nat.le_refl _, rfl⟩

theorem step_settling {ledger : Ledger} {task : Task} {services : Services Ledger σ}
    (onPlan : task.OnPlan) (settling : Settling task.plan ledger task services.platform) :
    Settling task.plan ledger (task.step services).1 (task.step services).2.platform := by
  obtain ⟨platform, locks, clock⟩ := services
  cases settling with
  | unsettled proposals =>
      rcases step_ledger task ⟨{ ledger with proposals }, locks, clock⟩ with
        ⟨more, _, counted⟩ | ⟨tx, progress, accepts, through, recorded⟩
      · rw [counted]
        exact .unsettled more
      · obtain ⟨now, proposes⟩ := onPlan.proposes progress
        rw [recorded]
        exact .settled through (.records proposals proposes ⟨accepts.approved, accepts.current⟩)
  | settled progress settles =>
      have ⟨stays, keeps⟩ := step_releasing progress ⟨platform, locks, clock⟩
      rw [keeps]
      exact .settled stays settles

variable [LawfulLockStore σ]

/-- However a request ends, the ledger has what it had, and at most its proposal on top. -/
theorem resume_settles {task : Task} (onPlan : task.OnPlan) (hold : Task → Bool)
    (services : Services Ledger σ) :
    Settles task.plan services.platform (task.resume hold services).2.platform := by
  let holds (current : Task) (reached : Services Ledger σ) : Prop :=
    current.OnPlan ∧ current.plan = task.plan ∧
      Settling task.plan services.platform current reached.platform
  have step (current : Task) (reached : Services Ledger σ) (before : holds current reached) :
      holds (current.step reached).1 (current.step reached).2 := by
    obtain ⟨onPlan, samePlan, settling⟩ := before
    refine ⟨step_onPlan onPlan reached, (step_plan current reached).1.trans samePlan, ?_⟩
    rw [← samePlan] at settling ⊢
    exact step_settling onPlan settling
  have start : holds task services :=
    ⟨onPlan, rfl, .unsettled services.platform.proposals⟩
  obtain ⟨_, _, settling⟩ :=
    runFor_induction (fun current reached _ => step current reached) _ (step _ _ start)
  exact settling.settles

/-- No proposal has been sent out yet, or none will be any more. -/
def Withholds (task : Task) : Prop :=
  match task.progress with
  | .locking _ | .collecting _ | .releasing _ => True
  | .verifying _ | .finalizing _ => False

omit [LawfulLockStore σ] in
theorem step_withholds {task : Task} (withholds : task.Withholds)
    (waits : task.isCollecting = false) (services : Services Ledger σ) :
    (task.step services).1.Withholds ∧ (task.step services).2.platform = services.platform := by
  obtain ⟨coordinator, plan, ids, held, progress⟩ := task
  cases progress with
  | locking pending =>
      cases pending with
      | nil => exact ⟨trivial, rfl⟩
      | cons key pending =>
          unfold step lock
          dsimp only
          split <;> exact ⟨trivial, rfl⟩
  | collecting tx => cases waits
  | verifying tx => exact withholds.elim
  | finalizing tx => exact withholds.elim
  | releasing result =>
      cases held with
      | nil => exact ⟨trivial, rfl⟩
      | cons taken rest => exact ⟨trivial, rfl⟩

/-- Until its proposal is sent out, a request does not touch the ledger. -/
theorem runFor_isCollecting {task : Task} {pending : List LockKey}
    (locking : task.progress = .locking pending)
    (claims : task.plan.claims = task.heldKeys.reverse ++ pending) (services : Services Ledger σ)
    (count : Nat) :
    (runFor isCollecting count task services).2.platform = services.platform ∧
      (runFor isCollecting count task services).1.plan = task.plan ∧
      (runFor isCollecting count task services).1.ids = task.ids ∧
      (runFor isCollecting count task services).1.OnPlan := by
  let holds (current : Task) (reached : Services Ledger σ) : Prop :=
    current.Withholds ∧ reached.platform = services.platform ∧ current.plan = task.plan ∧
      current.ids = task.ids ∧ current.OnPlan
  have step (current : Task) (reached : Services Ledger σ) (waits : current.isCollecting = false)
      (before : holds current reached) :
      holds (current.step reached).1 (current.step reached).2 := by
    obtain ⟨withholds, samePlatform, samePlan, sameIds, onPlan⟩ := before
    obtain ⟨keepsPlan, keepsIds⟩ := step_plan current reached
    obtain ⟨stillWithholds, keepsPlatform⟩ := step_withholds withholds waits reached
    exact ⟨stillWithholds, keepsPlatform.trans samePlatform, keepsPlan.trans samePlan,
      keepsIds.trans sameIds, step_onPlan onPlan reached⟩
  have start : holds task services := by
    refine ⟨?_, rfl, rfl, rfl, .locking locking claims⟩
    rw [Withholds, locking]
    trivial
  exact (runFor_induction step count start).2

omit [LockStore σ] [LawfulLockStore σ] in
theorem start_eq_ok_iff {coordinator : Coordinator} {request : Request} {ids : FreshIds}
    {services : Services Ledger σ} {task : Task} :
    start coordinator request ids services = .ok task ↔
      ∃ plan, coordinator.plan request ids services.platform = .ok plan ∧
        ⟨coordinator, plan, ids, [], .locking plan.claims⟩ = task := by
  simp only [start, bind_eq_ok_iff, Except.ok.injEq]

end Ledgers

end Task

end Consortium
