import Consortium.Network.Request

/-!
Requests in flight. A request whose checks have passed goes on in single steps: it takes its locks,
builds its proposal, has it signed, verifies it, has it finalized, and gives its locks back. Between
two steps anything else may happen to the platform, to the locks and to the clock. However a request
ends, it gives back every lock it has taken.
-/

namespace Consortium

structure Services (π σ : Type) where
  platform : π
  locks : σ
  clock : Timestamp

inductive Progress where
  | locking (pending : List LockKey)
  | collecting (proposal : Transaction)
  | verifying (proposal : Transaction)
  | finalizing (proposal : Transaction)
  | releasing (result : Except NetworkError Outcome)

structure Task where
  coordinator : Coordinator
  plan : Plan
  ids : FreshIds
  /-- The locks taken and not yet given back, the last one first. -/
  held : List RequestLock
  progress : Progress

namespace Task

def result? (task : Task) : Option (Except NetworkError Outcome) :=
  match task.progress, task.held with
  | .releasing result, [] => some result
  | _, _ => none

/-- Whether the proposal is about to be sent out for signatures. -/
def isCollecting (task : Task) : Bool :=
  match task.progress with
  | .collecting _ => true
  | _ => false

/-- Whether the signed proposal is about to be finalized. -/
def isFinalizing (task : Task) : Bool :=
  match task.progress with
  | .finalizing _ => true
  | _ => false

section Running

variable {π σ : Type} [Platform π] [LockStore σ]

/-- Checks a request. It is in flight from here on if the checks pass. -/
def start (coordinator : Coordinator) (request : Request) (ids : FreshIds)
    (services : Services π σ) : Except NetworkError Task := do
  let plan ← coordinator.plan request ids services.platform
  .ok ⟨coordinator, plan, ids, [], .locking plan.claims⟩

def lock (task : Task) (key : LockKey) (pending : List LockKey) (services : Services π σ) :
    Task × Services π σ :=
  let id := task.ids.lock task.held.length
  match RequestLock.create key id services.clock (fun _ => ()) () services.locks with
  | (.ok taken, _, locks) =>
      ({ task with held := taken :: task.held, progress := .locking pending },
        { services with locks })
  | (.error failure, _, locks) =>
      ({ task with progress := .releasing (.error (.ofLock failure)) }, { services with locks })

def release (task : Task) (services : Services π σ) : Task × Services π σ :=
  match task.held with
  | [] => (task, services)
  | taken :: rest =>
      ({ task with held := rest },
        { services with locks := RequestLock.release taken services.locks })

variable [Suite]

def proposal (task : Task) (now : Timestamp) : Transaction :=
  (task.plan.draft now).sign task.coordinator.keys

def verified (task : Task) (signed : Transaction) : Progress :=
  match task.coordinator.contracts.verify signed with
  | .ok () => .finalizing signed
  | .error failure => .releasing (.error (.rejected failure))

/-- The next step of a request. A request that is through stays as it is. -/
def step (task : Task) (services : Services π σ) : Task × Services π σ :=
  match task.progress with
  | .locking (key :: pending) => task.lock key pending services
  | .locking [] => ({ task with progress := .collecting (task.proposal services.clock) }, services)
  | .collecting unsigned =>
      let (answer, platform) := Platform.collectSignatures unsigned services.platform
      let progress : Progress :=
        match answer with
        | .ok signed => .verifying signed
        | .error failure => .releasing (.error failure)
      ({ task with progress }, { services with platform })
  | .verifying signed => ({ task with progress := task.verified signed }, services)
  | .finalizing signed =>
      let (answer, platform) := Platform.finalize signed services.platform
      ({ task with progress := .releasing (answer.bind task.plan.outcome) },
        { services with platform })
  | .releasing _ => task.release services

def stepsLeft (task : Task) : Nat :=
  match task.progress with
  | .locking pending => 2 * pending.length + task.held.length + 4
  | .collecting _ => task.held.length + 3
  | .verifying _ => task.held.length + 2
  | .finalizing _ => task.held.length + 1
  | .releasing _ => task.held.length

/-- Takes `count` steps, but stops before a step on a task that `hold` holds. -/
def runFor (hold : Task → Bool) : (count : Nat) → Task → Services π σ → Task × Services π σ
  | 0, task, services => (task, services)
  | count + 1, task, services =>
      if hold task then (task, services)
      else
        let (next, services) := task.step services
        runFor hold count next services

def runUntil (hold : Task → Bool) (task : Task) (services : Services π σ) :
    Task × Services π σ :=
  runFor hold task.stepsLeft task services

def resume (hold : Task → Bool) (task : Task) (services : Services π σ) : Task × Services π σ :=
  let (next, services) := task.step services
  next.runUntil hold services

omit [Suite] in
/-- A task is through exactly when it has no steps left. -/
theorem isSome_result?_iff {task : Task} : task.result?.isSome ↔ task.stepsLeft = 0 := by
  obtain ⟨coordinator, plan, ids, held, progress⟩ := task
  cases progress <;> cases held <;> simp [result?, stepsLeft]

/-- Each step of a task that is not through brings it nearer to its end. -/
theorem stepsLeft_step (task : Task) (services : Services π σ) :
    (task.step services).1.stepsLeft ≤ task.stepsLeft - 1 := by
  obtain ⟨coordinator, plan, ids, held, progress⟩ := task
  cases progress with
  | locking pending =>
      cases pending with
      | nil =>
          simp only [step, stepsLeft, List.length_nil]
          omega
      | cons key pending =>
          simp only [step, lock]
          split <;> simp only [stepsLeft, List.length_cons] <;> omega
  | collecting proposal =>
      simp only [step]
      split <;> simp [stepsLeft]
  | verifying proposal =>
      simp only [step, verified]
      split <;> simp [stepsLeft]
  | finalizing proposal => simp [step, stepsLeft]
  | releasing result => cases held <;> simp [step, release, stepsLeft]

theorem isSome_result?_runFor (count : Nat) (task : Task) (services : Services π σ)
    (enough : task.stepsLeft ≤ count) :
    (runFor (fun _ => false) count task services).1.result?.isSome := by
  induction count generalizing task services with
  | zero => exact isSome_result?_iff.2 (Nat.le_zero.1 enough)
  | succ count ih =>
      have := task.stepsLeft_step services
      exact ih (task.step services).1 (task.step services).2 (by omega)

def finish (task : Task) (services : Services π σ) :
    Except NetworkError Outcome × Services π σ :=
  let done := task.runUntil (fun _ => false) services
  (done.1.result?.get (isSome_result?_runFor task.stepsLeft task services (Nat.le_refl _)), done.2)

def cancel (task : Task) (services : Services π σ) : Services π σ :=
  { services with
    locks := task.held.foldl (fun locks taken => RequestLock.release taken locks) services.locks }

end Running

end Task

namespace Coordinator

variable {π σ : Type} [Platform π] [LockStore σ] [Suite]

def run (coordinator : Coordinator) (request : Request) (ids : FreshIds)
    (services : Services π σ) : Except NetworkError Outcome × Services π σ :=
  match Task.start coordinator request ids services with
  | .error failure => (.error failure, services)
  | .ok task => task.finish services

end Coordinator

end Consortium
