import Consortium.Proofs.Network.Custody

/-!
Requests that run without interruption. If nothing else happens between the steps, a request that
has passed its checks comes to this: its locks are taken one after another, and if all of them are
granted, its proposal is submitted. Giving the locks back changes nothing about the answer.
-/

namespace Consortium

/-! ### Locks that can be taken -/

/-- The locks for the keys can be taken one after another: each key is free when its turn comes, and
the store does not fail to insert the lock. So many have been taken before. -/
def LockStore.Grants {σ : Type} [LockStore σ] (id : Nat → Uuid) (now : Timestamp) :
    (taken : Nat) → List LockKey → σ → Prop
  | _, [], _ => True
  | taken, key :: rest, store =>
      ∃ newStore, insertIfAbsent ⟨id taken, key, now⟩ store = .ok (true, newStore) ∧
        Grants id now (taken + 1) rest newStore

/-- In memory that is to say that the keys are free and insertions are not made to fail. -/
theorem LockTable.grants_iff {id : Nat → Uuid} {now : Timestamp} {taken : Nat}
    {keys : List LockKey} {table : LockTable} (distinct : keys.Nodup) :
    LockStore.Grants id now taken keys table ↔
      (keys ≠ [] → table.failInserts = false) ∧
        ∀ key ∈ keys, table.locks.contains key = false := by
  induction keys generalizing taken table with
  | nil => exact iff_of_true trivial ⟨fun some => absurd rfl some, List.forall_mem_nil _⟩
  | cons key rest ih =>
      obtain ⟨notInRest, distinct⟩ := List.nodup_cons.1 distinct
      have inserted (newStore : LockTable) :
          LockStore.insertIfAbsent ⟨id taken, key, now⟩ table = .ok (true, newStore) ↔
            table.failInserts = false ∧ table.locks.contains key = false ∧
              table.seed ⟨id taken, key, now⟩ = newStore := by
        change insertIfAbsent _ table = _ ↔ _
        unfold insertIfAbsent
        cases table.failInserts <;> cases table.locks.contains key <;> simp
      have others (other : LockKey) (member : other ∈ rest) :
          (table.locks.insert key ⟨id taken, key, now⟩).contains other =
            table.locks.contains other := by
        have different : other ≠ key := fun same => notInRest (same ▸ member)
        rw [SortedMap.contains, table.locks.find?_insert_of_ne _ different, SortedMap.contains]
      simp only [LockStore.Grants, inserted, ih distinct, List.forall_mem_cons]
      constructor
      · rintro ⟨_, ⟨inserts, free, rfl⟩, _, restFree⟩
        exact ⟨fun _ => inserts, free, fun other member =>
          (others other member).symm.trans (restFree other member)⟩
      · rintro ⟨inserts, free, restFree⟩
        refine ⟨_, ⟨inserts (List.cons_ne_nil _ _), free, rfl⟩,
          fun _ => inserts (List.cons_ne_nil _ _), fun other member => ?_⟩
        exact (others other member).trans (restFree other member)

section Runs

variable {π σ : Type} [Platform π] [LockStore σ] [Suite]

/-- What the platform makes of the proposal of a plan that has been granted its locks. -/
def Coordinator.submit (coordinator : Coordinator) (plan : Plan) (now : Timestamp) (platform : π) :
    Except NetworkError Outcome × π :=
  match Platform.collectSignatures ((plan.draft now).sign coordinator.keys) platform with
  | (.error failure, collected) => (.error failure, collected)
  | (.ok signed, collected) =>
      match coordinator.contracts.verify signed with
      | .error failure => (.error (.rejected failure), collected)
      | .ok () =>
          let (answer, finalized) := Platform.finalize signed collected
          (answer.bind plan.outcome, finalized)

namespace Task

variable {task : Task} {services : Services π σ}

/-! ### Runs to the end -/

theorem step_of_through (through : task.stepsLeft = 0) (services : Services π σ) :
    task.step services = (task, services) := by
  obtain ⟨coordinator, plan, ids, held, progress⟩ := task
  cases progress with
  | releasing result =>
      cases held with
      | nil => rfl
      | cons taken rest => cases through
  | locking | collecting | verifying | finalizing => simp [stepsLeft] at through

theorem runFor_succ (count : Nat) (task : Task) (services : Services π σ) :
    runFor (fun _ => false) (count + 1) task services =
      runFor (fun _ => false) count (task.step services).1 (task.step services).2 := rfl

theorem runFor_of_through (through : task.stepsLeft = 0) (count : Nat)
    (services : Services π σ) : runFor (fun _ => false) count task services = (task, services) := by
  induction count with
  | zero => rfl
  | succ count ih => rw [runFor_succ, step_of_through through, ih]

/-- Steps after the last one make no difference. -/
theorem runFor_of_le {few many : Nat} (enough : task.stepsLeft ≤ few) (more : few ≤ many) :
    runFor (fun _ => false) many task services = runFor (fun _ => false) few task services := by
  induction few generalizing many task services with
  | zero =>
      have through := Nat.le_zero.1 enough
      rw [runFor_of_through through, runFor_of_through through]
  | succ few ih =>
      obtain _ | many := many
      · omega
      have nearer := task.stepsLeft_step services
      rw [runFor_succ, runFor_succ, ih (by omega) (by omega)]

theorem finish_eq_of_runFor {count : Nat} (enough : task.stepsLeft ≤ count)
    {result : Except NetworkError Outcome}
    (through : (runFor (fun _ => false) count task services).1.result? = some result) :
    task.finish services = (result, (runFor (fun _ => false) count task services).2) := by
  rw [runFor_of_le (Nat.le_refl _) enough] at through ⊢
  exact Prod.ext (Option.get_of_eq_some _ through) rfl

theorem finish_step (task : Task) (services : Services π σ) :
    task.finish services = (task.step services).1.finish (task.step services).2 := by
  have nearer := task.stepsLeft_step services
  have through := isSome_result?_runFor task.stepsLeft (task.step services).1
    (task.step services).2 (by omega)
  obtain ⟨result, isResult⟩ := Option.isSome_iff_exists.1 through
  rw [finish_eq_of_runFor (by omega) isResult, ← runFor_succ]
  exact finish_eq_of_runFor (Nat.le_succ _) isResult

/-! ### Stages -/

theorem finish_releasing {result : Except NetworkError Outcome}
    (progress : task.progress = .releasing result) (services : Services π σ) :
    ((task.finish services).1, (task.finish services).2.platform) =
      (result, services.platform) := by
  obtain ⟨coordinator, plan, ids, held, _⟩ := task
  cases progress
  induction held generalizing services with
  | nil => rfl
  | cons taken rest ih =>
      rw [finish_step]
      exact ih _

theorem finish_verifying {signed : Transaction} (progress : task.progress = .verifying signed)
    (services : Services π σ) :
    ((task.finish services).1, (task.finish services).2.platform) =
      match task.coordinator.contracts.verify signed with
      | .error failure => (.error (.rejected failure), services.platform)
      | .ok () =>
          ((Platform.finalize signed services.platform).1.bind task.plan.outcome,
            (Platform.finalize signed services.platform).2) := by
  obtain ⟨coordinator, plan, ids, held, _⟩ := task
  cases progress
  rw [finish_step]
  dsimp only [step, verified]
  cases coordinator.contracts.verify signed with
  | error failure => exact finish_releasing rfl _
  | ok =>
      rw [finish_step]
      exact finish_releasing rfl _

/-- All locks have been granted. -/
theorem finish_granted (progress : task.progress = .locking []) (services : Services π σ) :
    ((task.finish services).1, (task.finish services).2.platform) =
      task.coordinator.submit task.plan services.clock services.platform := by
  obtain ⟨coordinator, plan, ids, held, _⟩ := task
  cases progress
  rw [finish_step, finish_step]
  unfold Coordinator.submit
  dsimp only [step, proposal]
  cases Platform.collectSignatures ((plan.draft services.clock).sign coordinator.keys)
      services.platform with
  | mk answer collected =>
      cases answer with
      | error failure => exact finish_releasing rfl _
      | ok signed => exact finish_verifying rfl _

theorem finish_released {result : Except NetworkError Outcome} (noneHeld : task.held = [])
    (progress : task.progress = .releasing result) (services : Services π σ) :
    task.finish services = (result, services) := by
  obtain ⟨coordinator, plan, ids, _, _⟩ := task
  cases noneHeld
  cases progress
  rfl

/-- Without locks to take, nothing but the platform changes. -/
theorem finish_unclaimed (noneHeld : task.held = []) (progress : task.progress = .locking [])
    (services : Services π σ) :
    task.finish services =
      ((task.coordinator.submit task.plan services.clock services.platform).1,
        { services with
          platform := (task.coordinator.submit task.plan services.clock services.platform).2 }) := by
  obtain ⟨coordinator, plan, ids, _, _⟩ := task
  cases noneHeld
  cases progress
  rw [finish_step, finish_step]
  unfold Coordinator.submit
  dsimp only [step, proposal]
  cases Platform.collectSignatures ((plan.draft services.clock).sign coordinator.keys)
      services.platform with
  | mk answer collected =>
      cases answer with
      | error failure => exact finish_released rfl rfl _
      | ok signed =>
          rw [finish_step]
          dsimp only [step, verified]
          cases coordinator.contracts.verify signed with
          | error failure => exact finish_released rfl rfl _
          | ok =>
              rw [finish_step]
              exact finish_released rfl rfl _

theorem finish_locking {pending : List LockKey} (progress : task.progress = .locking pending)
    (services : Services π σ) :
    (LockStore.Grants task.ids.lock services.clock task.held.length pending services.locks ∧
      ((task.finish services).1, (task.finish services).2.platform) =
        task.coordinator.submit task.plan services.clock services.platform) ∨
    (¬ LockStore.Grants task.ids.lock services.clock task.held.length pending services.locks ∧
      ∃ failure, (task.finish services).1 = .error failure) := by
  obtain ⟨coordinator, plan, ids, held, _⟩ := task
  obtain ⟨platform, locks, clock⟩ := services
  cases progress
  induction pending generalizing held locks with
  | nil => exact .inl ⟨trivial, finish_granted rfl _⟩
  | cons key rest ih =>
      rw [finish_step]
      dsimp only [step, lock, RequestLock.create, LockStore.Grants]
      cases LockStore.insertIfAbsent ⟨ids.lock held.length, key, clock⟩ locks with
      | error failure =>
          refine .inr ⟨fun ⟨_, granted, _⟩ => (nomatch granted), ?_⟩
          exact ⟨_, congrArg Prod.fst (finish_releasing rfl _)⟩
      | ok answer =>
          obtain ⟨inserted, newLocks⟩ := answer
          cases inserted with
          | false =>
              refine .inr ⟨fun ⟨_, granted, _⟩ => (nomatch granted), ?_⟩
              exact ⟨_, congrArg Prod.fst (finish_releasing rfl _)⟩
          | true =>
              rcases ih (⟨ids.lock held.length, key, clock⟩ :: held) newLocks with
                ⟨granted, submitted⟩ | ⟨refused, failed⟩
              · exact .inl ⟨⟨newLocks, rfl, granted⟩, submitted⟩
              · refine .inr ⟨fun ⟨_, inserted, granted⟩ => ?_, failed⟩
                cases inserted
                exact refused granted

end Task

namespace Coordinator

variable {coordinator : Coordinator} {request : Request} {ids : FreshIds}
  {services : Services π σ} {plan : Plan}

theorem run_of_refused {failure : NetworkError}
    (refused : coordinator.plan request ids services.platform = .error failure) :
    coordinator.run request ids services = (.error failure, services) := by
  have unstarted : Task.start coordinator request ids services = .error failure := by
    rw [Task.start, refused]
    rfl
  rw [run, unstarted]

theorem run_of_planned (planned : coordinator.plan request ids services.platform = .ok plan) :
    coordinator.run request ids services =
      Task.finish ⟨coordinator, plan, ids, [], .locking plan.claims⟩ services := by
  have started : Task.start coordinator request ids services =
      .ok ⟨coordinator, plan, ids, [], .locking plan.claims⟩ := by
    rw [Task.start, planned]
    rfl
  rw [run, started]

/-- A request succeeds exactly if its checks pass, its locks are granted and its proposal goes
through. -/
theorem run_eq_ok_iff {outcome : Outcome} {after : π} :
    (coordinator.run request ids services).1 = .ok outcome ∧
        (coordinator.run request ids services).2.platform = after ↔
      ∃ plan, coordinator.plan request ids services.platform = .ok plan ∧
        LockStore.Grants ids.lock services.clock 0 plan.claims services.locks ∧
        coordinator.submit plan services.clock services.platform = (.ok outcome, after) := by
  cases planned : coordinator.plan request ids services.platform with
  | error failure =>
      rw [run_of_refused planned]
      refine iff_of_false (fun isOk => ?_) fun found => ?_
      · cases isOk.1
      · obtain ⟨_, isPlan, _⟩ := found
        cases isPlan
  | ok plan =>
      let task : Task := ⟨coordinator, plan, ids, [], .locking plan.claims⟩
      rw [run_of_planned planned]
      simp only [Except.ok.injEq, exists_eq_left']
      have isLocking : task.progress = .locking plan.claims := rfl
      rcases Task.finish_locking isLocking services with
        ⟨granted, submitted⟩ | ⟨refused, failure, failed⟩
      · have comesTo : coordinator.submit plan services.clock services.platform =
            ((task.finish services).1, (task.finish services).2.platform) := submitted.symm
        rw [comesTo, Prod.mk.injEq]
        exact (and_iff_right granted).symm
      · refine iff_of_false (fun isOk => ?_) fun went => refused went.1
        cases failed.symm.trans isOk.1

theorem run_isOk_iff :
    (∃ outcome, (coordinator.run request ids services).1 = .ok outcome) ↔
      ∃ plan, coordinator.plan request ids services.platform = .ok plan ∧
        LockStore.Grants ids.lock services.clock 0 plan.claims services.locks ∧
        ∃ outcome after,
          coordinator.submit plan services.clock services.platform = (.ok outcome, after) := by
  constructor
  · intro ⟨outcome, isOk⟩
    obtain ⟨plan, planned, granted, submitted⟩ := run_eq_ok_iff.1 ⟨isOk, rfl⟩
    exact ⟨plan, planned, granted, outcome, _, submitted⟩
  · intro ⟨plan, planned, granted, outcome, after, submitted⟩
    exact ⟨outcome, (run_eq_ok_iff.2 ⟨plan, planned, granted, submitted⟩).1⟩

end Coordinator

end Runs

end Consortium
