import Consortium.Network.Task
import Consortium.Proofs.Lock.Contents
import Consortium.Proofs.Network.Proposal

/-!
What a request in flight adds to a lock store, and takes away again. Beside the locks of others the
store keeps exactly those that the request holds, after every step on any platform.
-/

namespace Consortium

open LawfulLockStore RequestLock

def RequestLock.AllReturnable {σ : Type} [LockStore σ] : List RequestLock → σ → Prop
  | [], _ => True
  | taken :: rest, store => taken.Returnable store ∧ AllReturnable rest (release taken store)

namespace Task

section Keys

variable {π σ : Type} [Platform π] [LockStore σ] [LawfulLockStore σ]

/-- Until its proposal is out, a request takes the locks that its plan claims, in their order. -/
def Gathers (task : Task) : Prop :=
  match task.progress with
  | .locking pending => task.plan.claims = task.heldKeys.reverse ++ pending
  | .collecting _ => task.plan.claims = task.heldKeys.reverse
  | .verifying _ | .finalizing _ | .releasing _ => True

theorem step_gathers [Suite] {task : Task} (gathers : task.Gathers)
    (waits : task.isCollecting = false) (services : Services π σ) :
    (task.step services).1.Gathers := by
  obtain ⟨coordinator, plan, ids, held, progress⟩ := task
  cases progress with
  | locking pending =>
      cases pending with
      | nil => exact gathers.trans (List.append_nil _)
      | cons key pending =>
          unfold step lock
          dsimp only
          split
          · rename_i taken _ locks created
            obtain ⟨rfl, _, _⟩ := occupied_of_create_ok created
            change plan.claims = (taken :: held |>.map RequestLock.key).reverse ++ pending
            rw [List.map_cons, List.reverse_cons, List.append_assoc]
            exact gathers
          · trivial
  | collecting tx => cases waits
  | verifying tx =>
      unfold step verified
      dsimp only
      split <;> trivial
  | finalizing tx => trivial
  | releasing result => cases held <;> trivial

omit [LockStore σ] [LawfulLockStore σ] in
theorem gathers_of_start {coordinator : Coordinator} {request : Request} {ids : FreshIds}
    {services : Services π σ} {task : Task}
    (started : start coordinator request ids services = .ok task) :
    coordinator.plan request ids services.platform = .ok task.plan ∧ task.held = [] ∧
      task.Gathers := by
  obtain ⟨plan, planned, checked⟩ := bind_eq_ok_iff.1 started
  cases checked
  exact ⟨planned, rfl, rfl⟩

theorem Gathers.claims {task : Task} (gathers : task.Gathers) (waits : task.isCollecting = true) :
    task.plan.claims = task.heldKeys.reverse := by
  obtain ⟨coordinator, plan, ids, held, progress⟩ := task
  cases progress with
  | collecting tx => exact gathers
  | locking pending => cases waits
  | verifying tx => cases waits
  | finalizing tx => cases waits
  | releasing result => cases waits

/-- A request that comes to wait for signatures holds all that its plan claims. -/
theorem claims_of_runFor [Suite] {task : Task} (gathers : task.Gathers)
    (services : Services π σ) {count : Nat}
    (waits : (runFor isCollecting count task services).1.isCollecting = true) :
    task.plan.claims = (runFor isCollecting count task services).1.heldKeys.reverse := by
  let holds (current : Task) (_ : Services π σ) : Prop :=
    current.Gathers ∧ current.plan = task.plan
  have step (current : Task) (reached : Services π σ) (waits : current.isCollecting = false)
      (before : holds current reached) :
      holds (current.step reached).1 (current.step reached).2 :=
    ⟨step_gathers before.1 waits reached, (step_plan current reached).1.trans before.2⟩
  have start : holds task services := ⟨gathers, rfl⟩
  obtain ⟨gathers, samePlan⟩ := runFor_induction step count start
  rw [← samePlan]
  exact gathers.claims waits

end Keys

/-! ### Ends of runs -/

theorem result?_eq_some_iff {task : Task} {result : Except NetworkError Outcome} :
    task.result? = some result ↔ task.progress = .releasing result ∧ task.held = [] := by
  obtain ⟨coordinator, plan, ids, held, progress⟩ := task
  cases progress <;> cases held <;> simp [result?]

theorem held_of_result {task : Task} (through : task.result?.isSome) : task.held = [] := by
  obtain ⟨result, isResult⟩ := Option.isSome_iff_exists.1 through
  exact (result?_eq_some_iff.1 isResult).2

section Runs

variable {π σ : Type} [Platform π] [LockStore σ] [Suite]

/-- A run with enough steps only ends where it is held, or when the request is through. -/
theorem runFor_ends (hold : Task → Bool) {count : Nat} {task : Task} (services : Services π σ)
    (enough : task.stepsLeft ≤ count) :
    hold (runFor hold count task services).1 = true ∨
      (runFor hold count task services).1.held = [] := by
  induction count generalizing task services with
  | zero => exact .inr (held_of_result (isSome_result?_iff.2 (Nat.le_zero.1 enough)))
  | succ count ih =>
      unfold runFor
      cases stopped : hold task with
      | true => exact .inl stopped
      | false =>
          have nearer := task.stepsLeft_step services
          have enough : (task.step services).1.stepsLeft ≤ count := by omega
          exact ih (task.step services).2 enough

end Runs

/-! ### What the store keeps -/

section Store

variable {π σ : Type} [LockStore σ] [LawfulLockStore σ] [ListedLockStore σ]
  {others : List RequestLock}

/-- If the next step gives a lock back, the store does not fail to remove it. -/
def GivesBack (task : Task) (services : Services π σ) : Prop :=
  match task.progress, task.held with
  | .releasing _, taken :: _ => taken.Returnable services.locks
  | _, _ => True

def GivesBackFor [Platform π] [Suite] (hold : Task → Bool) :
    (count : Nat) → Task → Services π σ → Prop
  | 0, _, _ => True
  | count + 1, task, services =>
      hold task = false → task.GivesBack services ∧
        GivesBackFor hold count (task.step services).1 (task.step services).2

instance : (task : Task) → (services : Services π σ) → Decidable (task.GivesBack services)
  | ⟨_, _, _, taken :: _, .releasing _⟩, services =>
      inferInstanceAs (Decidable (taken.Returnable services.locks))
  | ⟨_, _, _, [], .releasing _⟩, _ => .isTrue trivial
  | ⟨_, _, _, _, .locking _⟩, _ => .isTrue trivial
  | ⟨_, _, _, _, .collecting _⟩, _ => .isTrue trivial
  | ⟨_, _, _, _, .verifying _⟩, _ => .isTrue trivial
  | ⟨_, _, _, _, .finalizing _⟩, _ => .isTrue trivial

instance decidableGivesBackFor [Platform π] [Suite] (hold : Task → Bool) :
    (count : Nat) → (task : Task) → (services : Services π σ) →
      Decidable (GivesBackFor hold count task services)
  | 0, _, _ => .isTrue trivial
  | count + 1, task, services =>
      have := decidableGivesBackFor hold count (task.step services).1 (task.step services).2
      inferInstanceAs (Decidable (hold task = false → task.GivesBack services ∧
        GivesBackFor hold count (task.step services).1 (task.step services).2))

theorem lock_kept {task : Task} {services : Services π σ}
    (kept : Kept (task.held ++ others) services.locks) (key : LockKey) (pending : List LockKey) :
    Kept ((task.lock key pending services).1.held ++ others)
      (task.lock key pending services).2.locks := by
  unfold lock
  dsimp only
  split
  · rename_i created
    exact (kept_of_create_ok kept created).2
  · rename_i created
    rw [occupied_of_create_error created]
    exact kept

variable [Platform π] [Suite]

theorem step_kept {task : Task} {services : Services π σ}
    (kept : Kept (task.held ++ others) services.locks) (gives : task.GivesBack services) :
    Kept ((task.step services).1.held ++ others) (task.step services).2.locks := by
  obtain ⟨coordinator, plan, ids, held, progress⟩ := task
  cases progress with
  | locking pending =>
      cases pending with
      | nil => exact kept
      | cons key pending => exact lock_kept kept key pending
  | collecting tx => exact kept
  | verifying tx => exact kept
  | finalizing tx => exact kept
  | releasing result =>
      cases held with
      | nil => exact kept
      | cons taken rest => exact Kept.release kept gives

omit [LawfulLockStore σ] [ListedLockStore σ] in
/-- What a step preserves that gives back what it is to give back, a run does that always gives back
what it is to give back. -/
theorem runFor_induction_of_givesBack {holds : Task → Services π σ → Prop} {hold : Task → Bool}
    (step : ∀ task services, task.GivesBack services → holds task services →
      holds (task.step services).1 (task.step services).2)
    {count : Nat} {task : Task} {services : Services π σ} (start : holds task services)
    (gives : GivesBackFor hold count task services) :
    holds (runFor hold count task services).1 (runFor hold count task services).2 := by
  induction count generalizing task services with
  | zero => exact start
  | succ count ih =>
      unfold runFor
      cases stopped : hold task with
      | true => exact start
      | false =>
          obtain ⟨now, later⟩ := gives stopped
          exact ih (step task services now start) later

theorem runFor_kept {hold : Task → Bool} {count : Nat} {task : Task} {services : Services π σ}
    (kept : Kept (task.held ++ others) services.locks)
    (gives : GivesBackFor hold count task services) :
    Kept ((runFor hold count task services).1.held ++ others)
      (runFor hold count task services).2.locks := by
  let holds (current : Task) (reached : Services π σ) : Prop :=
    Kept (current.held ++ others) reached.locks
  have step (current : Task) (reached : Services π σ) (gives : current.GivesBack reached)
      (before : holds current reached) :
      holds (current.step reached).1 (current.step reached).2 := step_kept before gives
  exact runFor_induction_of_givesBack step kept gives

omit [Platform π] [Suite] [LawfulLockStore σ] in
theorem cancel_kept {task : Task} {services : Services π σ}
    (kept : Kept (task.held ++ others) services.locks)
    (returnable : AllReturnable task.held services.locks) :
    Kept others (task.cancel services).locks := by
  obtain ⟨coordinator, plan, ids, held, progress⟩ := task
  obtain ⟨platform, locks, clock⟩ := services
  induction held generalizing locks with
  | nil => exact kept
  | cons taken rest ih => exact ih _ (kept.release returnable.1) returnable.2

end Store

end Task

/-! ### A store in memory whose deletions do not fail -/

section Table

theorem RequestLock.allReturnable_of_failDeletes (locks : List RequestLock) {table : LockTable}
    (deletes : table.failDeletes = false) : AllReturnable locks table := by
  induction locks generalizing table with
  | nil => trivial
  | cons lock rest ih =>
      refine ⟨returnable_of_failDeletes lock deletes, ih ?_⟩
      simpa using deletes

namespace Task

variable {π : Type} [Platform π] [Suite]

theorem step_failDeletes (task : Task) (services : Services π LockTable) :
    (task.step services).2.locks.failDeletes = services.locks.failDeletes := by
  obtain ⟨coordinator, plan, ids, held, progress⟩ := task
  cases progress with
  | locking pending =>
      cases pending with
      | nil => rfl
      | cons key pending =>
          unfold step lock
          dsimp only
          split
          · rename_i created
            exact failDeletes_of_create created
          · rename_i created
            exact failDeletes_of_create created
  | collecting tx => rfl
  | verifying tx => rfl
  | finalizing tx => rfl
  | releasing result =>
      cases held with
      | nil => rfl
      | cons taken rest => exact failDeletes_release taken services.locks

theorem runFor_failDeletes (hold : Task → Bool) (count : Nat) (task : Task)
    (services : Services π LockTable) :
    (runFor hold count task services).2.locks.failDeletes = services.locks.failDeletes := by
  let holds (_ : Task) (reached : Services π LockTable) : Prop :=
    reached.locks.failDeletes = services.locks.failDeletes
  have step (current : Task) (reached : Services π LockTable) (_ : hold current = false)
      (before : holds current reached) :
      holds (current.step reached).1 (current.step reached).2 :=
    (step_failDeletes current reached).trans before
  exact runFor_induction step count rfl

omit [Platform π] [Suite] in
theorem givesBack_of_failDeletes (task : Task) {services : Services π LockTable}
    (deletes : services.locks.failDeletes = false) : task.GivesBack services := by
  unfold GivesBack
  split
  · exact returnable_of_failDeletes _ deletes
  · trivial

theorem givesBackFor_of_failDeletes (hold : Task → Bool) (count : Nat) (task : Task)
    {services : Services π LockTable} (deletes : services.locks.failDeletes = false) :
    GivesBackFor hold count task services := by
  induction count generalizing task services with
  | zero => trivial
  | succ count ih =>
      intro _
      refine ⟨task.givesBack_of_failDeletes deletes, ih _ ?_⟩
      exact (step_failDeletes task services).trans deletes

omit [Platform π] [Suite] in
theorem cancel_failDeletes (task : Task) (services : Services π LockTable) :
    (task.cancel services).locks.failDeletes = services.locks.failDeletes := by
  obtain ⟨coordinator, plan, ids, held, progress⟩ := task
  obtain ⟨platform, locks, clock⟩ := services
  induction held generalizing locks with
  | nil => rfl
  | cons taken rest ih => exact (ih _).trans (failDeletes_release taken locks)

end Task

end Table

end Consortium
