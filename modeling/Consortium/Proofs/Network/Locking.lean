import Consortium.Network.Task
import Consortium.Proofs.Lock.Occupancy

/-!
What a request in flight does to the locks, one step at a time and over a whole run. It keeps hold
of what it has taken, and leaves the locks of all others in place.
-/

namespace Consortium

namespace Task

open LawfulLockStore

def heldKeys (task : Task) : List LockKey := task.held.map RequestLock.key

theorem runFor_induction {π σ : Type} [Platform π] [LockStore σ] [Suite]
    {holds : Task → Services π σ → Prop} {hold : Task → Bool}
    (step : ∀ task services, hold task = false → holds task services →
      holds (task.step services).1 (task.step services).2)
    (count : Nat) {task : Task} {services : Services π σ} (start : holds task services) :
    holds (runFor hold count task services).1 (runFor hold count task services).2 := by
  induction count generalizing task services with
  | zero => exact start
  | succ count ih =>
      unfold runFor
      cases stopped : hold task with
      | true => exact start
      | false => exact ih (step task services stopped start)

section Locks

variable {σ : Type} [LockStore σ] [LawfulLockStore σ] {held after : List LockKey}
  {locks newLocks : σ}

/-- All that one step can do about locks: nothing, take one more, or give the last one back. -/
inductive MovesLocks (held : List LockKey) (locks : σ) : List LockKey → σ → Prop
  | keeps : MovesLocks held locks held locks
  | takes {key : LockKey} {newLocks : σ} (free : ¬ Occupied key locks)
      (occupies : ∀ other, Occupied other newLocks ↔ other = key ∨ Occupied other locks) :
      MovesLocks held locks (key :: held) newLocks
  | gives {key : LockKey} {rest : List LockKey} {newLocks : σ} (last : held = key :: rest)
      (spares : ∀ other, other ≠ key → (Occupied other newLocks ↔ Occupied other locks)) :
      MovesLocks held locks rest newLocks

theorem lock_movesLocks {π : Type} (task : Task) (key : LockKey) (pending : List LockKey)
    (services : Services π σ) :
    MovesLocks task.heldKeys services.locks (task.lock key pending services).1.heldKeys
      (task.lock key pending services).2.locks := by
  unfold lock
  dsimp only
  split
  · rename_i taken _ locks created
    obtain ⟨rfl, free, occupies⟩ := RequestLock.occupied_of_create_ok created
    exact .takes free occupies
  · rename_i created
    rw [RequestLock.occupied_of_create_error created]
    exact .keeps

theorem release_movesLocks {π : Type} (task : Task) (services : Services π σ) :
    MovesLocks task.heldKeys services.locks (task.release services).1.heldKeys
      (task.release services).2.locks := by
  obtain ⟨coordinator, plan, ids, held, progress⟩ := task
  cases held with
  | nil => exact .keeps
  | cons taken rest => exact .gives rfl fun _ => RequestLock.occupied_release

theorem step_movesLocks {π : Type} [Platform π] [Suite] (task : Task) (services : Services π σ) :
    MovesLocks task.heldKeys services.locks (task.step services).1.heldKeys
      (task.step services).2.locks := by
  unfold step
  split
  · exact lock_movesLocks task _ _ services
  · exact .keeps
  · exact .keeps
  · exact .keeps
  · exact .keeps
  · exact release_movesLocks task services

/-- The locks that a request holds are on different keys, and still in place. -/
structure Secured (held : List LockKey) (locks : σ) : Prop where
  distinct : held.Nodup
  occupied : ∀ key ∈ held, Occupied key locks

/-- A key that the request does not hold is occupied: somebody else holds it. -/
structure Foreign (key : LockKey) (held : List LockKey) (locks : σ) : Prop where
  notHeld : key ∉ held
  occupied : Occupied key locks

theorem MovesLocks.secured (moves : MovesLocks held locks after newLocks)
    (secured : Secured held locks) : Secured after newLocks := by
  cases moves with
  | keeps => exact secured
  | @takes key _ free occupies =>
      refine ⟨List.nodup_cons.2 ⟨fun again => free (secured.occupied key again),
        secured.distinct⟩, ?_⟩
      intro other isHeld
      apply (occupies other).2
      rcases List.mem_cons.1 isHeld with isNew | before
      · exact .inl isNew
      · exact .inr (secured.occupied other before)
  | @gives key rest _ last spares =>
      subst last
      have ⟨notInRest, distinct⟩ := List.nodup_cons.1 secured.distinct
      refine ⟨distinct, fun other isHeld => ?_⟩
      apply (spares other fun same => notInRest (same ▸ isHeld)).2
      exact secured.occupied other (List.mem_cons_of_mem _ isHeld)

theorem MovesLocks.foreign {key : LockKey} (moves : MovesLocks held locks after newLocks)
    (foreign : Foreign key held locks) : Foreign key after newLocks := by
  cases moves with
  | keeps => exact foreign
  | @takes taken _ free occupies =>
      refine ⟨fun isHeld => ?_, (occupies key).2 (.inr foreign.occupied)⟩
      rcases List.mem_cons.1 isHeld with isNew | before
      · exact free (isNew ▸ foreign.occupied)
      · exact foreign.notHeld before
  | @gives given rest _ last spares =>
      subst last
      have ⟨different, notInRest⟩ := not_or.1 (mt List.mem_cons.2 foreign.notHeld)
      exact ⟨notInRest, (spares key different).2 foreign.occupied⟩

variable {π : Type} [Platform π] [Suite]

theorem runFor_of_movesLocks {holds : List LockKey → σ → Prop}
    (preserved : ∀ {held after : List LockKey} {locks newLocks : σ},
      MovesLocks held locks after newLocks → holds held locks → holds after newLocks)
    (hold : Task → Bool) (count : Nat) (task : Task) (services : Services π σ)
    (start : holds task.heldKeys services.locks) :
    holds (runFor hold count task services).1.heldKeys
      (runFor hold count task services).2.locks := by
  let holdsAt (current : Task) (reached : Services π σ) : Prop :=
    holds current.heldKeys reached.locks
  have step (current : Task) (reached : Services π σ) (_ : hold current = false)
      (before : holdsAt current reached) :
      holdsAt (current.step reached).1 (current.step reached).2 :=
    preserved (step_movesLocks current reached) before
  exact runFor_induction step count start

/-- A request that goes on leaves the locks of all others in place. -/
theorem resume_foreign {key : LockKey} {task : Task} {services : Services π σ}
    (foreign : Foreign key task.heldKeys services.locks) (hold : Task → Bool) :
    Foreign key (task.resume hold services).1.heldKeys (task.resume hold services).2.locks :=
  runFor_of_movesLocks MovesLocks.foreign hold _ _ _
    ((step_movesLocks task services).foreign foreign)

omit [Suite] [Platform π] in
theorem cancel_spares {key : LockKey} {task : Task} {services : Services π σ}
    (foreign : Foreign key task.heldKeys services.locks) :
    Occupied key (task.cancel services).locks := by
  obtain ⟨coordinator, plan, ids, held, progress⟩ := task
  obtain ⟨platform, locks, clock⟩ := services
  induction held generalizing locks with
  | nil => exact foreign.occupied
  | cons taken rest ih =>
      have ⟨different, notInRest⟩ := not_or.1 (mt List.mem_cons.2 foreign.notHeld)
      exact ih _ ⟨notInRest, (RequestLock.occupied_release different).2 foreign.occupied⟩

end Locks

end Task

end Consortium
