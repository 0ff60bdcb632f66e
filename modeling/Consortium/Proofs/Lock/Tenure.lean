import Consortium.Proofs.Lock.Contents

/-!
How long a guard keeps its lock. Clients share a store in memory, and each operation of a client is
one step. A guard loses its lock only to a reconciliation that returns it; the key may then go to a
successor, whom the late guard leaves in place. For this the ids of locks have to differ: they are
all that tells a lock from its successor.
-/

namespace Consortium

namespace RequestLock

variable {table : LockTable}

/-! ### Operations on a store in memory -/

/-- A key is taken if it is free; else the store stays as it was. -/
theorem create_cases {κ : Type} (key : LockKey) (id : Uuid) (now : Timestamp)
    (onDuplicate : κ → κ) (caller : κ) (table : LockTable) :
    (table.locks.find? key = none ∧
      create key id now onDuplicate caller table =
        (.ok ⟨id, key, now⟩, caller, table.seed ⟨id, key, now⟩)) ∨
    ∃ failure after,
      create key id now onDuplicate caller table = (.error failure, after, table) := by
  rw [create_inMemory_eq]
  by_cases fails : table.failInserts = true
  · exact .inr ⟨_, _, if_pos fails⟩
  · rw [if_neg fails]
    by_cases held : table.locks.contains key = true
    · exact .inr ⟨_, _, if_pos held⟩
    · exact .inl ⟨Option.not_isSome_iff_eq_none.1 held, if_neg held⟩

theorem find?_of_release {lock held : RequestLock} {key : LockKey}
    (found : (release lock table).locks.find? key = some held) :
    table.locks.find? key = some held := by
  rw [release_inMemory_eq] at found
  split at found
  · change (table.locks.erase lock.key).find? key = some held at found
    rw [SortedMap.find?_erase] at found
    split at found
    · cases found
    · exact found
  · exact found

/-- Under the key of the lock there may be a successor, which has another id. -/
theorem find?_release_of_ne {lock held : RequestLock} {key : LockKey}
    (found : table.locks.find? key = some held) (different : held.id ≠ lock.id) :
    (release lock table).locks.find? key = some held := by
  rw [release_inMemory_eq]
  split
  · rename_i owned
    by_cases same : key = lock.key
    · rw [← same, found] at owned
      exact absurd (of_decide_eq_true owned.2) different
    · exact (SortedMap.find?_erase_of_ne _ same).trans found
  · exact found

theorem reapAll_of_failDeletes (fails : table.failDeletes = true) (locks : List RequestLock) :
    (reapAll locks table).2 = table ∧
      ∀ removed, (reapAll locks table).1 = .ok removed → removed = [] := by
  cases locks with
  | nil => exact ⟨rfl, fun _ reaped => (Except.ok.inj reaped).symm⟩
  | cons lock rest =>
      simp [reapAll, LockStore.deleteIfOwned, LockTable.deleteIfOwned, fails]

theorem reapAll_of_held {locks : List RequestLock} (deletes : table.failDeletes = false)
    (held : ∀ lock ∈ locks, table.locks.find? lock.key = some lock)
    (distinct : (locks.map key).Nodup) :
    reapAll locks table =
      (.ok locks, { table with
        locks := locks.foldl (fun map lock => map.erase lock.key) table.locks }) := by
  induction locks generalizing table with
  | nil => rfl
  | cons lock rest ih =>
      obtain ⟨heldLock, heldRest⟩ := List.forall_mem_cons.1 held
      obtain ⟨newKey, distinctRest⟩ := List.nodup_cons.1 distinct
      have deleted : LockStore.deleteIfOwned lock.key lock.id table =
          .ok (true, { table with locks := table.locks.erase lock.key }) := by
        simp [LockStore.deleteIfOwned, LockTable.deleteIfOwned, deletes, heldLock]
      have stillHeld (other : RequestLock) (isOther : other ∈ rest) :
          (table.locks.erase lock.key).find? other.key = some other := by
        have different : other.key ≠ lock.key :=
          fun same => newKey (List.mem_map.2 ⟨other, isOther, same⟩)
        rw [SortedMap.find?_erase_of_ne _ different]
        exact heldRest other isOther
      -- No two of the locks have the same key, so each is still there when its turn comes.
      have others :=
        @ih { table with locks := table.locks.erase lock.key } deletes stillHeld distinctRest
      simp only [reapAll, deleted, others]
      rfl

/-- What a reconciliation returns, which is nothing if it fails. -/
def returned (answer : Except LockError (List RequestLock)) : List RequestLock :=
  answer.toOption.getD []

/-- A reconciliation takes away what it returns and nothing else. -/
theorem reconcile_takes_returned (keyed : table.Keyed) (maxAge : UInt64) (now : Timestamp) :
    (∀ lock ∈ returned (reconcile maxAge now table).1,
        table.locks.find? lock.key = some lock) ∧
      ∀ {key held}, (reconcile maxAge now table).2.locks.find? key = some held ↔
        table.locks.find? key = some held ∧ held ∉ returned (reconcile maxAge now table).1 := by
  let stale := table.locks.values.filter (isStale maxAge now)
  have heldStale : ∀ lock ∈ stale, table.locks.find? lock.key = some lock :=
    fun lock isStale => keyed.find?_of_mem_values (List.mem_filter.1 isStale).1
  have answer : reconcile maxAge now table =
      ((reapAll stale table).1.mapError .store, (reapAll stale table).2) := rfl
  rw [answer]
  cases deletes : table.failDeletes with
  | false =>
      have distinct : (stale.map key).Nodup :=
        keyed.nodup_keys.sublist (List.filter_sublist.map key)
      rw [reapAll_of_held deletes heldStale distinct]
      refine ⟨heldStale, fun {other held} => ?_⟩
      rw [SortedMap.find?_foldl_erase key stale table.locks]
      refine and_congr_right fun found => ⟨fun kept isStale => ?_, fun kept lock isStale same => ?_⟩
      · exact kept held isStale (keyed _ _ found)
      · have sameLock := (heldStale lock isStale).symm.trans (same ▸ found)
        cases sameLock
        exact kept isStale
  | true =>
      obtain ⟨same, nothing⟩ := reapAll_of_failDeletes deletes stale
      rw [same]
      have isNothing : returned ((reapAll stale table).1.mapError .store) = [] := by
        cases reaped : (reapAll stale table).1 with
        | ok removed => exact nothing removed reaped
        | error failure => rfl
      rw [isNothing]
      exact ⟨nofun, fun {_ _} => ⟨fun found => ⟨found, List.not_mem_nil⟩, And.left⟩⟩

end RequestLock

/-! ### Clients of one store -/

/-- A step of a client. An acquired lock is given back by its guard, a created one is not. -/
inductive LockAction where
  | acquire (key : LockKey) (id : Uuid) (now : Timestamp)
  | create (key : LockKey) (id : Uuid) (now : Timestamp)
  /-- The guard of a lock is released or dropped. -/
  | giveBack (lock : RequestLock)
  | reconcile (maxAge : UInt64) (now : Timestamp)
  | failInserts (fail : Bool)
  | failDeletes (fail : Bool)

structure SharedLocks where
  table : LockTable
  /-- The locks of the guards that live, the latest first. -/
  guards : List RequestLock
  /-- What reconciliations have returned. -/
  reaped : List RequestLock

namespace SharedLocks

def new : SharedLocks := ⟨.empty, [], []⟩

def step (shared : SharedLocks) : LockAction → SharedLocks
  | .acquire key id now =>
      match RequestLock.create key id now (fun caller => caller) () shared.table with
      | (.ok lock, _, table) => { shared with table, guards := lock :: shared.guards }
      | (.error _, _, table) => { shared with table }
  | .create key id now =>
      let (_, _, table) :=
        RequestLock.create key id now (fun caller => caller) () shared.table
      { shared with table }
  | .giveBack lock =>
      if lock ∈ shared.guards then
        { shared with
          table := RequestLock.release lock shared.table
          guards := shared.guards.erase lock }
      else shared
  | .reconcile maxAge now =>
      let (answer, table) := RequestLock.reconcile maxAge now shared.table
      { shared with table, reaped := shared.reaped ++ RequestLock.returned answer }
  | .failInserts fail => { shared with table := { shared.table with failInserts := fail } }
  | .failDeletes fail => { shared with table := { shared.table with failDeletes := fail } }

def run (actions : List LockAction) : SharedLocks := actions.foldl step new

end SharedLocks

/-- The ids that are drawn for new locks, also for those that are then refused. -/
def LockAction.drawn : LockAction → List Uuid
  | acquire _ id _ | create _ id _ => [id]
  | giveBack _ | reconcile _ _ | failInserts _ | failDeletes _ => []

namespace SharedLocks

/-- The lock is held, or a reconciliation has returned it. -/
def Accounted (shared : SharedLocks) (lock : RequestLock) : Prop :=
  shared.table.locks.find? lock.key = some lock ∨ lock ∈ shared.reaped

/-- `ids` are those that have been drawn. -/
structure Tenured (ids : List Uuid) (shared : SharedLocks) : Prop where
  keyed : shared.table.Keyed
  drawn : ∀ {lock}, shared.Accounted lock → lock.id ∈ ids
  identified : ∀ {left right}, shared.Accounted left → shared.Accounted right →
    left.id = right.id → left = right
  secured : ∀ lock ∈ shared.guards, shared.Accounted lock
  distinct : shared.guards.Nodup
  succeeded : shared.guards.Pairwise fun later earlier =>
    later.key = earlier.key → earlier ∈ shared.reaped

namespace Tenured

variable {ids : List Uuid} {shared after : SharedLocks}

theorem new : Tenured [] SharedLocks.new where
  keyed := nofun
  drawn accounted := by rcases accounted with found | reaped <;> contradiction
  identified accounted := by rcases accounted with found | reaped <;> contradiction
  secured := nofun
  distinct := .nil
  succeeded := .nil

theorem weaken (tenured : Tenured ids shared) (more : List Uuid) :
    Tenured (ids ++ more) shared :=
  { tenured with drawn := fun accounted => List.mem_append_left _ (tenured.drawn accounted) }

/-- What no step does but one that takes a lock: it leaves or loses what there is. -/
theorem of_fewer (tenured : Tenured ids shared)
    (fewer : ∀ {key held}, after.table.locks.find? key = some held →
      shared.table.locks.find? key = some held)
    (returned : ∀ lock ∈ after.reaped, shared.Accounted lock)
    (remembered : ∀ lock ∈ shared.reaped, lock ∈ after.reaped)
    (sublist : after.guards.Sublist shared.guards)
    (kept : ∀ lock ∈ after.guards, shared.table.locks.find? lock.key = some lock →
      after.Accounted lock) : Tenured ids after := by
  have before {lock : RequestLock} (accounted : after.Accounted lock) : shared.Accounted lock :=
    accounted.elim (fun found => .inl (fewer found)) (returned lock)
  exact {
    keyed := fun _ _ found => tenured.keyed _ _ (fewer found)
    drawn := fun accounted => tenured.drawn (before accounted)
    identified := fun left right => tenured.identified (before left) (before right)
    secured := fun lock isGuard =>
      (tenured.secured lock (sublist.subset isGuard)).elim (kept lock isGuard)
        fun reaped => .inr (remembered lock reaped)
    distinct := tenured.distinct.sublist sublist
    succeeded := (tenured.succeeded.sublist sublist).imp fun succeeded sameKey =>
      remembered _ (succeeded sameKey) }

section Taking

variable {lock : RequestLock}

theorem accounted_of_seed {other : RequestLock}
    (accounted : Accounted { shared with table := shared.table.seed lock } other) :
    other = lock ∨ shared.Accounted other := by
  rcases accounted with found | reaped
  · change (shared.table.locks.insert lock.key lock).find? other.key = some other at found
    by_cases same : other.key = lock.key
    · rw [same, SortedMap.find?_insert_self] at found
      exact .inl (Option.some.inj found).symm
    · rw [SortedMap.find?_insert_of_ne _ _ same] at found
      exact .inr (.inl found)
  · exact .inr (.inr reaped)

theorem create (tenured : Tenured ids shared)
    (free : shared.table.locks.find? lock.key = none) (fresh : lock.id ∉ ids) :
    Tenured (ids ++ [lock.id]) { shared with table := shared.table.seed lock } where
  keyed := tenured.keyed.seed lock
  drawn accounted := by
    rcases accounted_of_seed accounted with rfl | before
    · exact List.mem_append_right _ List.mem_cons_self
    · exact List.mem_append_left _ (tenured.drawn before)
  identified left right sameId := by
    rcases accounted_of_seed left with rfl | beforeLeft <;>
      rcases accounted_of_seed right with rfl | beforeRight
    · rfl
    · exact absurd (sameId ▸ tenured.drawn beforeRight) fresh
    · exact absurd (sameId ▸ tenured.drawn beforeLeft) fresh
    · exact tenured.identified beforeLeft beforeRight sameId
  secured guard isGuard := by
    refine (tenured.secured guard isGuard).imp (fun found => ?_) id
    have other : guard.key ≠ lock.key := fun same => by
      rw [same, free] at found
      cases found
    exact (SortedMap.find?_insert_of_ne _ _ other).trans found
  distinct := tenured.distinct
  succeeded := tenured.succeeded

theorem acquire (tenured : Tenured ids shared)
    (free : shared.table.locks.find? lock.key = none) (fresh : lock.id ∉ ids) :
    Tenured (ids ++ [lock.id])
      { shared with table := shared.table.seed lock, guards := lock :: shared.guards } :=
  { tenured.create free fresh with
    secured := List.forall_mem_cons.2
      ⟨.inl (SortedMap.find?_insert_self _ _ _), (tenured.create free fresh).secured⟩
    distinct := tenured.distinct.cons fun isGuard =>
      fresh (tenured.drawn (tenured.secured lock isGuard))
    succeeded := by
      refine List.pairwise_cons.2 ⟨fun earlier isGuard sameKey => ?_, tenured.succeeded⟩
      -- The key was free, so the earlier lock is not held any more.
      refine (tenured.secured earlier isGuard).resolve_left fun found => ?_
      rw [← sameKey, free] at found
      cases found }

end Taking

theorem kept_of_release (tenured : Tenured ids shared) {guard held : RequestLock}
    (isGuard : guard ∈ shared.guards) {key : LockKey}
    (found : shared.table.locks.find? key = some held) (different : held ≠ guard) :
    (RequestLock.release guard shared.table).locks.find? key = some held := by
  have accounted : shared.Accounted held := .inl (tenured.keyed _ _ found ▸ found)
  exact RequestLock.find?_release_of_ne found fun sameId =>
    different (tenured.identified accounted (tenured.secured guard isGuard) sameId)

theorem giveBack (tenured : Tenured ids shared) {lock : RequestLock}
    (isGuard : lock ∈ shared.guards) :
    Tenured ids
      { shared with
        table := RequestLock.release lock shared.table
        guards := shared.guards.erase lock } := by
  refine tenured.of_fewer RequestLock.find?_of_release (fun _ => .inr) (fun _ => id)
    List.erase_sublist fun other isLeft found => .inl ?_
  have different := (tenured.distinct.mem_erase_iff.1 isLeft).1
  exact tenured.kept_of_release isGuard found different

theorem reconcile (tenured : Tenured ids shared) (maxAge : UInt64) (now : Timestamp) :
    Tenured ids (shared.step (.reconcile maxAge now)) := by
  obtain ⟨wereHeld, left⟩ := RequestLock.reconcile_takes_returned tenured.keyed maxAge now
  refine tenured.of_fewer (fun found => (left.1 found).1) (fun lock reaped => ?_)
    (fun _ => List.mem_append_left _) (.refl _) fun lock isGuard found => ?_
  · exact (List.mem_append.1 reaped).elim .inr fun isReturned => .inl (wereHeld lock isReturned)
  · by_cases isReturned :
        lock ∈ RequestLock.returned (RequestLock.reconcile maxAge now shared.table).1
    · exact .inr (List.mem_append_right _ isReturned)
    · exact .inl (left.2 ⟨found, isReturned⟩)

theorem step (tenured : Tenured ids shared) (action : LockAction)
    (fresh : ∀ id ∈ action.drawn, id ∉ ids) :
    Tenured (ids ++ action.drawn) (shared.step action) := by
  cases action with
  | acquire key id now =>
      rw [SharedLocks.step]
      rcases RequestLock.create_cases key id now (fun caller => caller) () shared.table with
        ⟨free, created⟩ | ⟨failure, after, refused⟩
      · rw [created]
        exact @acquire ids shared ⟨id, key, now⟩ tenured free (fresh id List.mem_cons_self)
      · rw [refused]
        exact tenured.weaken _
  | create key id now =>
      rw [SharedLocks.step]
      rcases RequestLock.create_cases key id now (fun caller => caller) () shared.table with
        ⟨free, created⟩ | ⟨failure, after, refused⟩
      · rw [created]
        exact @create ids shared ⟨id, key, now⟩ tenured free (fresh id List.mem_cons_self)
      · rw [refused]
        exact tenured.weaken _
  | giveBack lock =>
      rw [LockAction.drawn, List.append_nil, SharedLocks.step]
      split
      · rename_i isGuard
        exact tenured.giveBack isGuard
      · exact tenured
  | reconcile maxAge now =>
      rw [LockAction.drawn, List.append_nil]
      exact tenured.reconcile maxAge now
  | failInserts fail =>
      rw [LockAction.drawn, List.append_nil]
      exact { tenured with }
  | failDeletes fail =>
      rw [LockAction.drawn, List.append_nil]
      exact { tenured with }

theorem foldl (tenured : Tenured ids shared) {actions : List LockAction}
    (fresh : (ids ++ actions.flatMap LockAction.drawn).Nodup) :
    Tenured (ids ++ actions.flatMap LockAction.drawn) (actions.foldl SharedLocks.step shared) := by
  induction actions generalizing ids shared with
  | nil => exact tenured.weaken []
  | cons action rest ih =>
      rw [List.flatMap_cons, ← List.append_assoc] at fresh ⊢
      have newIds := (List.nodup_append.1 (List.nodup_append.1 fresh).1).2.2
      exact ih (tenured.step action fun id isNew isOld => newIds id isOld id isNew rfl) fresh

end Tenured

/-- After any actions: a guard has its lock unless that was reaped, and so of two guards of one key
the older has lost its lock; giving back takes no other lock away; a key is taken if it is free and
insertions do not fail, and its holder is reported if there is one and they do not fail. -/
theorem guards_keep_their_locks {actions : List LockAction}
    (distinct : (actions.flatMap LockAction.drawn).Nodup) :
    let shared := run actions
    (∀ guard ∈ shared.guards,
      shared.table.locks.find? guard.key = some guard ∨ guard ∈ shared.reaped) ∧
    shared.guards.Pairwise (fun later earlier =>
      later.key = earlier.key → earlier ∈ shared.reaped) ∧
    (∀ guard ∈ shared.guards, ∀ key held,
      shared.table.locks.find? key = some held → held ≠ guard →
        (RequestLock.release guard shared.table).locks.find? key = some held) ∧
    ∀ {κ : Type} (key : LockKey) (id : Uuid) (now : Timestamp) (onDuplicate : κ → κ) (caller : κ),
      let (answer, after, table) := RequestLock.create key id now onDuplicate caller shared.table
      (answer.isOk = true ↔
        shared.table.locks.find? key = none ∧ shared.table.failInserts = false) ∧
      after = (if shared.table.locks.find? key ≠ none ∧ shared.table.failInserts = false then
        onDuplicate caller else caller) ∧
      (answer.isOk = false → table = shared.table) := by
  have tenured := Tenured.new.foldl distinct
  refine ⟨tenured.secured, tenured.succeeded, fun guard isGuard _ _ found different =>
    tenured.kept_of_release isGuard found different, ?_⟩
  intro κ key id now onDuplicate caller
  rw [RequestLock.create_inMemory_eq, SortedMap.contains]
  cases (run actions).table.failInserts with
  | true => simp [Except.isOk, Except.toBool]
  | false => cases (run actions).table.locks.find? key <;> simp [Except.isOk, Except.toBool]

/-- The guard of a lock that was reaped is late: the key has a new holder. -/
theorem late_guard_leaves_successor :
    let key : LockKey := ⟨.groupId, "g"⟩
    let first : RequestLock := ⟨⟨.replicate 16 1⟩, key, ⟨1000⟩⟩
    let second : RequestLock := ⟨⟨.replicate 16 2⟩, key, ⟨1100⟩⟩
    let actions : List LockAction :=
      [.acquire key first.id ⟨1000⟩, .failDeletes true, .reconcile 60 ⟨1100⟩, .failDeletes false,
        .reconcile 60 ⟨1100⟩, .acquire key second.id ⟨1100⟩]
    (actions.flatMap LockAction.drawn).Nodup ∧ (run actions).guards = [second, first] ∧
      first ∈ (run actions).reaped ∧
      (RequestLock.release first (run actions).table).locks.find? key = some second := by
  intro key first second actions
  have distinct : (actions.flatMap LockAction.drawn).Nodup := by decide
  have guards : (run actions).guards = [second, first] := by decide
  obtain ⟨_, succeeded, kept, _⟩ := guards_keep_their_locks distinct
  rw [guards] at succeeded kept
  have reaped := (List.pairwise_cons.1 succeeded).1 first List.mem_cons_self rfl
  exact ⟨distinct, guards, reaped,
    kept first (List.mem_cons_of_mem _ List.mem_cons_self) key second (by decide) (by decide)⟩

/-- While insertions fail the store is not asked whether the key is held. -/
theorem held_key_unreported_while_inserts_fail :
    let key : LockKey := ⟨.groupId, "g"⟩
    let shared := run [.create key ⟨.replicate 16 1⟩ ⟨1000⟩, .failInserts true]
    shared.table.locks.find? key = some ⟨⟨.replicate 16 1⟩, key, ⟨1000⟩⟩ ∧
      (RequestLock.create key ⟨.replicate 16 2⟩ ⟨1000⟩ Nat.succ 0 shared.table).2.1 = 0 := by
  decide

end SharedLocks

end Consortium
