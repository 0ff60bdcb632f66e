import Consortium.Lock.Environment
import Consortium.Lock.Request
import Consortium.Lock.Table

/-!
Which keys of a lock store are occupied. Taking a lock occupies a free key, giving one back concerns
no other key, and an operation that fails changes nothing. The stores in memory and on disk agree on
this, and what is proved from it holds over either.
-/

namespace Consortium

section

variable {κ ν : Type} [Ord κ] [Std.LawfulEqOrd κ] [Std.TransOrd κ] (map : SortedMap κ ν)

theorem SortedMap.contains_insert (key other : κ) (value : ν) :
    (map.insert key value).contains other = true ↔ other = key ∨ map.contains other = true := by
  by_cases same : other = key
  · subst same
    simp [SortedMap.contains]
  · simp [SortedMap.contains, map.find?_insert_of_ne value same, same]

theorem SortedMap.contains_erase_of_ne {key other : κ} (different : other ≠ key) :
    (map.erase key).contains other = map.contains other := by
  rw [SortedMap.contains, map.find?_erase_of_ne different, SortedMap.contains]

end

class LawfulLockStore (σ : Type) [LockStore σ] where
  Occupied : LockKey → σ → Prop
  of_inserted : ∀ {lock : RequestLock} {store newStore : σ},
    LockStore.insertIfAbsent lock store = .ok (true, newStore) →
      ¬ Occupied lock.key store ∧
        ∀ key, Occupied key newStore ↔ key = lock.key ∨ Occupied key store
  of_refused : ∀ {lock : RequestLock} {store newStore : σ},
    LockStore.insertIfAbsent lock store = .ok (false, newStore) →
      Occupied lock.key store ∧ newStore = store
  of_deleted : ∀ {key other : LockKey} {id : Uuid} {store newStore : σ} {removed : Bool},
    LockStore.deleteIfOwned key id store = .ok (removed, newStore) → other ≠ key →
      (Occupied other newStore ↔ Occupied other store)

namespace LockTable

instance : LawfulLockStore LockTable where
  Occupied key table := table.locks.contains key = true
  of_inserted {lock store newStore} inserted := by
    change insertIfAbsent lock store = _ at inserted
    unfold insertIfAbsent at inserted
    split at inserted
    · cases inserted
    · split at inserted
      · cases inserted
      · rename_i free
        cases inserted
        exact ⟨free, fun key => SortedMap.contains_insert _ _ _ _⟩
  of_refused {lock store newStore} refused := by
    change insertIfAbsent lock store = _ at refused
    unfold insertIfAbsent at refused
    split at refused
    · cases refused
    · split at refused
      · rename_i occupied
        cases refused
        exact ⟨occupied, rfl⟩
      · cases refused
  of_deleted {key other id store newStore removed} deleted different := by
    change deleteIfOwned key id store = _ at deleted
    unfold deleteIfOwned at deleted
    split at deleted
    · cases deleted
    · split at deleted
      · cases deleted
        simp only [SortedMap.contains_erase_of_ne _ different]
      · cases deleted
        rfl

end LockTable

namespace LockEnvironment

theorem records_of_commit {environment changed : LockEnvironment}
    {records : SortedMap (List UInt8) (List UInt8)} {change : PageTree × List PageUse}
    (committed : environment.commit records change = .ok changed) : changed.records = records := by
  unfold commit at committed
  split at committed
  · cases committed
    rfl
  · cases committed

theorem records_of_write {environment changed : LockEnvironment} {key value : List UInt8}
    (written : environment.write key value = .ok changed) :
    changed.records = environment.records.insert key value := by
  unfold write at written
  split at written
  · cases written
  · exact records_of_commit written

theorem of_remove {environment changed : LockEnvironment} {key : List UInt8} {removed : Bool}
    (erased : environment.remove key = .ok (removed, changed)) :
    removed = true ∧ changed.records = environment.records.erase key := by
  unfold remove at erased
  cases committed : environment.commit (environment.records.erase key)
      (environment.tree.erase key) with
  | error failure =>
      rw [committed] at erased
      cases erased
  | ok result =>
      rw [committed] at erased
      cases erased
      exact ⟨rfl, records_of_commit committed⟩

instance : LawfulLockStore LockEnvironment where
  Occupied key environment := environment.records.contains key.toBytes = true
  of_inserted {lock store newStore} inserted := by
    change insertIfAbsent lock store = _ at inserted
    unfold insertIfAbsent at inserted
    dsimp only at inserted
    split at inserted
    · cases inserted
    · rename_i free
      cases written : store.write lock.key.toBytes (Binary.Codec.encode lock) with
      | error failure =>
          rw [written] at inserted
          cases inserted
      | ok changed =>
          rw [written] at inserted
          cases inserted
          refine ⟨free, fun key => ?_⟩
          rw [records_of_write written, SortedMap.contains_insert]
          exact or_congr_left ⟨LockKey.toBytes_injective, congrArg LockKey.toBytes⟩
  of_refused {lock store newStore} refused := by
    change insertIfAbsent lock store = _ at refused
    unfold insertIfAbsent at refused
    dsimp only at refused
    split at refused
    · rename_i occupied
      cases refused
      exact ⟨occupied, rfl⟩
    · cases written : store.write lock.key.toBytes (Binary.Codec.encode lock) with
      | error failure =>
          rw [written] at refused
          cases refused
      | ok changed =>
          rw [written] at refused
          cases refused
  of_deleted {key other id store newStore removed} deleted different := by
    have differentBytes : other.toBytes ≠ key.toBytes :=
      fun same => different (LockKey.toBytes_injective same)
    change deleteIfOwned key id store = _ at deleted
    unfold deleteIfOwned at deleted
    split at deleted
    · cases deleted
      rfl
    · rename_i record found
      cases read : readRecord record with
      | error failure =>
          rw [read] at deleted
          cases deleted
      | ok held =>
          rw [read] at deleted
          change (if held.id = id then _ else _) = _ at deleted
          split at deleted
          · rw [(of_remove deleted).2, SortedMap.contains_erase_of_ne _ differentBytes]
          · cases deleted
            rfl

end LockEnvironment

namespace RequestLock

variable {σ κ : Type} [LockStore σ] [LawfulLockStore σ]

open LawfulLockStore

/-- A lock that was taken occupies a key that was free. -/
theorem occupied_of_create_ok {key : LockKey} {id : Uuid} {now : Timestamp} {onDuplicate : κ → κ}
    {caller after : κ} {store newStore : σ} {taken : RequestLock}
    (created : create key id now onDuplicate caller store = (.ok taken, after, newStore)) :
    taken.key = key ∧ ¬ Occupied key store ∧
      ∀ other, Occupied other newStore ↔ other = key ∨ Occupied other store := by
  unfold create at created
  dsimp only at created
  split at created
  · cases created
  · rename_i inserted
    cases created
    exact ⟨rfl, of_inserted inserted⟩
  · cases created

theorem occupied_of_create_error {key : LockKey} {id : Uuid} {now : Timestamp}
    {onDuplicate : κ → κ} {caller after : κ} {store newStore : σ} {failure : LockError}
    (created : create key id now onDuplicate caller store = (.error failure, after, newStore)) :
    newStore = store := by
  unfold create at created
  dsimp only at created
  split at created
  · cases created
    rfl
  · cases created
  · rename_i refused
    cases created
    exact (of_refused refused).2

theorem occupied_release {lock : RequestLock} {store : σ} {other : LockKey}
    (different : other ≠ lock.key) :
    Occupied other (release lock store) ↔ Occupied other store := by
  unfold release
  split
  · rename_i deleted
    exact of_deleted deleted different
  · rfl

end RequestLock

end Consortium
