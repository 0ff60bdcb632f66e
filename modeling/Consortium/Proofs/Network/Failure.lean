import Consortium.Proofs.Crypto.Transparent
import Consortium.Proofs.Lock.Reversal
import Consortium.Proofs.Network.Custody
import Consortium.Proofs.Network.Plan

/-!
Failed requests leave no trace. A request can fail until its proposal is recorded, and not after
that; and whatever locks it has taken by then, it gives them all back, the last one first.
-/

namespace Consortium

/-! ### Nothing fails once it is recorded -/

/-- The plan has an answer for what it drafts, once that is recorded. -/
def Plan.Answers [Suite] (plan : Plan) : Prop :=
  ∀ (tx : Transaction) (now : Timestamp), tx.unsigned = (plan.draft now).unsigned →
    ∃ outcome, plan.outcome ⟨tx.id, Ledger.recordedOutputs tx⟩ = .ok outcome

theorem Plan.answers_of_outputs [Suite] {plan : Plan}
    (answers : ∀ now txId, ∃ outcome, plan.outcome ⟨txId,
      (plan.draft now).outputs.zipIdx.map fun (state, index) =>
        ⟨state, ⟨txId, UInt32.ofNat index⟩⟩⟩ = .ok outcome) : plan.Answers := by
  intro tx now proposes
  have outputs : tx.unsigned.outputs = (plan.draft now).unsigned.outputs := by rw [proposes]
  change tx.outputs = (plan.draft now).outputs at outputs
  rw [Ledger.recordedOutputs, outputs]
  exact answers now tx.id

theorem Coordinator.answers_of_plan [Suite] {coordinator : Coordinator} {request : Request}
    {ids : FreshIds} {ledger : Ledger} {plan : Plan}
    (planned : coordinator.plan request ids ledger = .ok plan) : plan.Answers := by
  cases request with
  | found founding =>
      obtain ⟨_, _, rfl⟩ := planBootstrap_eq_ok_iff.1 planned
      exact Plan.answers_of_outputs fun _ _ => ⟨_, rfl⟩
  | apply application =>
      obtain ⟨_, _, _, rfl⟩ := planApplication_eq_ok_iff.1 planned
      exact Plan.answers_of_outputs fun _ _ => ⟨_, rfl⟩
  | change networkId party change =>
      obtain ⟨_, _, _, _, _, _, rfl⟩ := planTransition_eq_ok_iff.1 planned
      exact Plan.answers_of_outputs fun _ _ => ⟨_, rfl⟩
  | revoke networkId party =>
      obtain ⟨_, _, _, _, rfl⟩ := planRevocation_eq_ok_iff.1 planned
      exact Plan.answers_of_outputs fun _ _ => ⟨_, rfl⟩
  | createGroup proposal =>
      obtain ⟨_, _, _, _, _, rfl⟩ := planGroup_eq_ok_iff.1 planned
      exact Plan.answers_of_outputs fun _ _ => ⟨_, rfl⟩
  | modifyGroup id change =>
      obtain ⟨_, _, _, _, _, _, _, _, rfl⟩ := planGroupChange_eq_ok_iff.1 planned
      exact Plan.answers_of_outputs fun _ _ => ⟨_, rfl⟩
  | exitGroup id =>
      obtain ⟨_, _, _, _, _, _, rfl⟩ := planGroupExit_eq_ok_iff.1 planned
      exact Plan.answers_of_outputs fun _ _ => ⟨_, rfl⟩

namespace Task

variable {σ : Type} [LockStore σ] [Suite]

/-- The request has not marked the ledger that it started out on, or it has succeeded. -/
inductive Traceless (before : Ledger) (task : Task) : Ledger → Prop
  | unmarked {proposals : Nat} (counted : before.proposals ≤ proposals) :
      Traceless before task { before with proposals }
  | succeeded {outcome : Outcome} {current : Ledger}
      (progress : task.progress = .releasing (.ok outcome)) : Traceless before task current

omit [LockStore σ] [Suite] in
theorem Traceless.of_failed {before current : Ledger} {task : Task}
    (traceless : Traceless before task current) {failure : NetworkError}
    (progress : task.progress = .releasing (.error failure)) :
    ∃ proposals, before.proposals ≤ proposals ∧ current = { before with proposals } := by
  cases traceless with
  | unmarked counted => exact ⟨_, counted, rfl⟩
  | succeeded through => cases progress.symm.trans through

theorem step_traceless {before : Ledger} {task : Task} {services : Services Ledger σ}
    (onPlan : task.OnPlan) (answers : task.plan.Answers)
    (traceless : Traceless before task services.platform) :
    Traceless before (task.step services).1 (task.step services).2.platform := by
  obtain ⟨platform, locks, clock⟩ := services
  cases traceless with
  | @unmarked proposals counted =>
      rcases step_ledger task ⟨{ before with proposals }, locks, clock⟩ with
        ⟨more, counts, same⟩ | ⟨tx, progress, _, through, _⟩
      · rw [same]
        exact .unmarked (Nat.le_trans counted counts)
      · obtain ⟨now, proposes⟩ := onPlan.proposes progress
        obtain ⟨outcome, answered⟩ := answers tx now proposes
        rw [answered] at through
        exact .succeeded through
  | succeeded progress => exact .succeeded (step_releasing progress ⟨platform, locks, clock⟩).1

/-! ### What is taken is given back -/

section Runs

open ReversibleLockStore RequestLock

variable [LawfulLockStore σ] {κ : Type} [ReversibleLockStore σ κ]

theorem step_stacked {π : Type} [Platform π] {base : κ} {task : Task} {services : Services π σ}
    (stacked : Stacked σ base task.held (contents services.locks))
    (gives : task.GivesBack services) :
    Stacked σ base (task.step services).1.held (contents (task.step services).2.locks) := by
  obtain ⟨coordinator, plan, ids, held, progress⟩ := task
  cases progress with
  | locking pending =>
      cases pending with
      | nil => exact stacked
      | cons key pending =>
          unfold step lock
          dsimp only
          split
          · rename_i created
            exact stacked.of_create_ok created
          · rename_i created
            rw [occupied_of_create_error created]
            exact stacked
  | collecting tx => exact stacked
  | verifying tx => exact stacked
  | finalizing tx => exact stacked
  | releasing result =>
      cases held with
      | nil => exact stacked
      | cons taken rest => exact stacked.release gives

omit [LawfulLockStore σ] in
theorem step_clock {π : Type} [Platform π] (task : Task) (services : Services π σ) :
    (task.step services).2.clock = services.clock := by
  unfold step
  split
  · unfold lock
    dsimp only
    split <;> rfl
  · rfl
  · rfl
  · rfl
  · rfl
  · unfold release
    split <;> rfl

/-- Nothing is left of a request, but that the ledger may have counted its proposal. -/
structure Untouched (before after : Services Ledger σ) : Prop where
  platform : ∃ proposals, before.platform.proposals ≤ proposals ∧
    after.platform = { before.platform with proposals }
  locks : contents after.locks = contents before.locks
  clock : after.clock = before.clock

theorem untouched_of_finish {task : Task} {before after : Services Ledger σ}
    {failure : NetworkError} (onPlan : task.OnPlan) (answers : task.plan.Answers)
    (noneHeld : task.held = [])
    (gives : GivesBackFor (fun _ => false) task.stepsLeft task before)
    (failed : task.finish before = (.error failure, after)) : Untouched before after := by
  -- Giving back the locks that are held would lead to what the store had kept at first.
  let holds (current : Task) (reached : Services Ledger σ) : Prop :=
    current.OnPlan ∧ current.plan.Answers ∧ Traceless before.platform current reached.platform ∧
      Stacked σ (contents before.locks) current.held (contents reached.locks) ∧
      reached.clock = before.clock
  have step (current : Task) (reached : Services Ledger σ) (gives : current.GivesBack reached)
      (earlier : holds current reached) :
      holds (current.step reached).1 (current.step reached).2 := by
    obtain ⟨onPlan, answers, traceless, stacked, sameClock⟩ := earlier
    refine ⟨step_onPlan onPlan reached, ?_, step_traceless onPlan answers traceless,
      step_stacked stacked gives, (step_clock current reached).trans sameClock⟩
    rw [(step_plan current reached).1]
    exact answers
  have start : holds task before := by
    refine ⟨onPlan, answers, .unmarked (Nat.le_refl _), ?_, rfl⟩
    rw [noneHeld]
    exact .bottom
  obtain ⟨_, _, traceless, stacked, sameClock⟩ := runFor_induction_of_givesBack step start gives
  obtain ⟨isError, rfl⟩ := Prod.mk.inj failed
  obtain ⟨progress, released⟩ :=
    result?_eq_some_iff.1 ((Option.some_get _).symm.trans (congrArg some isError))
  rw [show (runFor _ _ _ _).1.held = [] from released] at stacked
  exact ⟨traceless.of_failed progress, stacked.contents_eq, sameClock⟩

end Runs

end Task

namespace Coordinator

open Consortium.Task

section Requests

variable [Suite] (coordinator : Coordinator) (request : Request) (ids : FreshIds)

theorem untouched_of_run {σ κ : Type} [LockStore σ] [LawfulLockStore σ] [ReversibleLockStore σ κ]
    {coordinator : Coordinator} {request : Request} {ids : FreshIds}
    {before after : Services Ledger σ} {failure : NetworkError}
    (gives : ∀ task, start coordinator request ids before = .ok task →
      GivesBackFor (fun _ => false) task.stepsLeft task before)
    (failed : coordinator.run request ids before = (.error failure, after)) :
    Untouched before after := by
  unfold run at failed
  split at failed
  · cases failed
    exact ⟨⟨_, Nat.le_refl _, rfl⟩, rfl, rfl⟩
  · rename_i task started
    obtain ⟨plan, planned, rfl⟩ := start_eq_ok_iff.1 started
    exact untouched_of_finish (.locking rfl rfl) (answers_of_plan planned) rfl
      (gives _ started) failed

/-- Whatever a coordinator is asked for, and however the request fails: the states, the log and the
keyring of the ledger are as they were, and only the count of proposals may have grown. A store in
memory whose deletions do not fail is as it was, and an environment on disk has the records that it
had if it does not fail to give the locks of the request back. -/
theorem failed_request_leaves_no_trace :
    (∀ (before after : Services Ledger LockTable) (failure : NetworkError),
      before.locks.failDeletes = false →
        coordinator.run request ids before = (.error failure, after) →
          ∃ proposals, before.platform.proposals ≤ proposals ∧
            after = { before with platform := { before.platform with proposals } }) ∧
    ∀ (before after : Services Ledger LockEnvironment) (failure : NetworkError),
      (∀ task, start coordinator request ids before = .ok task →
        GivesBackFor (fun _ => false) task.stepsLeft task before) →
        coordinator.run request ids before = (.error failure, after) →
          ∃ proposals, before.platform.proposals ≤ proposals ∧
            after.platform = { before.platform with proposals } ∧
            after.locks.records = before.locks.records ∧ after.clock = before.clock := by
  constructor
  · intro before after failure deletes failed
    have gives (task : Task) (_ : start coordinator request ids before = .ok task) :=
      givesBackFor_of_failDeletes (fun _ => false) task.stepsLeft task deletes
    have untouched := untouched_of_run gives failed
    obtain ⟨proposals, counted, samePlatform⟩ := untouched.platform
    obtain ⟨platform, locks, clock⟩ := after
    cases samePlatform
    cases untouched.locks
    cases untouched.clock
    exact ⟨proposals, counted, rfl⟩
  · intro before after failure gives failed
    have untouched := untouched_of_run gives failed
    obtain ⟨proposals, counted, samePlatform⟩ := untouched.platform
    exact ⟨proposals, counted, samePlatform, untouched.locks, untouched.clock⟩

end Requests

section Specimens

open Transparent

def freshIds : FreshIds :=
  ⟨⟨.replicate 16 1⟩, ⟨.replicate 16 2⟩, ⟨.replicate 16 3⟩, fun _ => ⟨.replicate 16 4⟩⟩

/-- The founder asks for a network, and for a certain id of its group. -/
def ambition : NetworkFounding := ⟨some ⟨"net"⟩, some (groupOf founder).linearId, none, none⟩

def founderUnder (contracts : Registry) : Coordinator := ⟨founder, Transparent.keys 1, contracts⟩

def attempt {σ : Type} [LockStore σ] (contracts : Registry) (services : Services Ledger σ) :
    Except NetworkError Outcome × Services Ledger σ :=
  letI := suite
  (founderUnder contracts).run (.found ambition) freshIds services

/-- Somebody else holds the lock for the id of the group. -/
def contested : Services Ledger LockTable :=
  ⟨Ledger.empty (@Registry.standard suite),
    LockTable.empty.seed ⟨⟨.replicate 16 9⟩, .ofGroup (groupOf founder).linearId, ⟨0⟩⟩, ⟨1⟩⟩

/-- The locks are kept in a new file of 256 pages. -/
def uncontested : Services Ledger LockEnvironment :=
  ⟨Ledger.empty (@Registry.standard suite), ⟨.empty, .empty, ⟨256, 3, 1, []⟩⟩, ⟨1⟩⟩

set_option maxRecDepth 10000 in
/-- One attempt has taken the first of its locks when it is refused the second, the other one has
taken both and sent its proposal out when its own rules reject it. -/
theorem failed_attempts_leave_no_trace :
    (∃ failure proposals,
      attempt (@Registry.standard suite) contested =
        (.error failure, { contested with platform := { contested.platform with proposals } })) ∧
    ∃ failure after proposals, attempt .empty uncontested = (.error failure, after) ∧
      after.platform = { uncontested.platform with proposals } ∧
      after.locks.records = uncontested.locks.records := by
  have refused : (attempt (@Registry.standard suite) contested).1 =
      .error (.ofLock (.duplicate (.ofGroup (groupOf founder).linearId))) := by decide +kernel
  have rejected : (attempt .empty uncontested).1 =
      .error (.rejected (.unknownContract .group)) := by decide +kernel
  constructor
  · obtain ⟨proposals, _, isAfter⟩ := (@failed_request_leaves_no_trace suite _ _ _).1
      contested _ _ rfl (Prod.ext refused rfl)
    exact ⟨_, proposals, Prod.ext refused isAfter⟩
  · have gives : letI := suite
        ∀ task, start (founderUnder .empty) (.found ambition) freshIds uncontested = .ok task →
          GivesBackFor (fun _ => false) task.stepsLeft task uncontested := by
      intro task started
      obtain ⟨plan, planned, rfl⟩ := (@start_eq_ok_iff _ suite _ _ _ _ _).1 started
      obtain ⟨_, _, rfl⟩ := (@planBootstrap_eq_ok_iff suite _ _ _ _ _).1 planned
      decide +kernel
    obtain ⟨proposals, _, samePlatform, sameRecords, _⟩ :=
      (@failed_request_leaves_no_trace suite _ _ _).2 uncontested _ _ gives (Prod.ext rejected rfl)
    exact ⟨_, _, proposals, Prod.ext rejected rfl, samePlatform, sameRecords⟩

end Specimens

end Coordinator

end Consortium
