import Consortium.Proofs.Lock.Contents

/-!
Giving back undoes taking. What a store keeps before a lock is taken it keeps again when the lock
has been given back, and so for any number of locks that are given back in the reverse order. Of a
store in memory this is the whole store, of an environment on disk its records: the pages that they
lie on may be others.
-/

namespace Consortium

namespace SortedMap

section

variable {κ ν : Type} [Ord κ]

theorem ext_of_entries {map other : SortedMap κ ν} (same : map.entries = other.entries) :
    map = other := by
  cases map
  cases other
  cases same
  rfl

variable [Std.TransOrd κ]

theorem ext_of_perm {map other : SortedMap κ ν} (perm : map.entries.Perm other.entries) :
    map = other := by
  refine ext_of_entries (perm.eq_of_pairwise ?_ map.increasing other.increasing)
  intro left right _ _ below above
  rw [Std.OrientedCmp.gt_of_lt below] at above
  cases above

variable [Std.LawfulEqOrd κ]

theorem erase_insert_of_free {map : SortedMap κ ν} {key : κ} (value : ν)
    (free : map.find? key = none) : (map.insert key value).erase key = map := by
  have found : (map.insert key value).find? key = some value := map.find?_insert_self key value
  have grown := perm_entries_insert value free
  exact ext_of_perm ((perm_entries_erase found).symm.trans grown).cons_inv

end

end SortedMap

/-- Stores of which it is known what they keep. -/
class ReversibleLockStore (σ : Type) (κ : outParam Type) [LockStore σ] where
  contents : σ → κ
  /-- A lock that is removed from what its insertion led to leaves what was there before. -/
  contents_of_removed : ∀ {lock : RequestLock} {store inserted reached final : σ} {removed : Bool},
    LockStore.insertIfAbsent lock store = .ok (true, inserted) →
      contents reached = contents inserted →
        LockStore.deleteIfOwned lock.key lock.id reached = .ok (removed, final) →
          contents final = contents store

instance : ReversibleLockStore LockTable LockTable where
  contents table := table
  contents_of_removed {lock store inserted reached final removed} insertion same removal := by
    subst same
    change LockTable.insertIfAbsent lock store = _ at insertion
    change LockTable.deleteIfOwned lock.key lock.id reached = _ at removal
    unfold LockTable.insertIfAbsent at insertion
    split at insertion
    · cases insertion
    · split at insertion
      · cases insertion
      · rename_i free
        cases insertion
        have vacant : store.locks.find? lock.key = none := Option.not_isSome_iff_eq_none.1 free
        have own : ((store.seed lock).locks.find? lock.key).any
            (fun held => decide (held.id = lock.id)) = true := by
          simp [LockTable.seed]
        unfold LockTable.deleteIfOwned at removal
        rw [if_pos own] at removal
        split at removal
        · cases removal
        · cases removal
          simp only [LockTable.seed, SortedMap.erase_insert_of_free lock vacant]

instance : ReversibleLockStore LockEnvironment (SortedMap (List UInt8) (List UInt8)) where
  contents := LockEnvironment.records
  contents_of_removed {lock store inserted reached final removed} insertion same removal := by
    change LockEnvironment.insertIfAbsent lock store = _ at insertion
    change LockEnvironment.deleteIfOwned lock.key lock.id reached = _ at removal
    unfold LockEnvironment.insertIfAbsent at insertion
    dsimp only at insertion
    split at insertion
    · cases insertion
    · rename_i free
      cases written : store.write lock.key.toBytes (Binary.Codec.encode lock) with
      | error failure =>
          rw [written] at insertion
          cases insertion
      | ok changed =>
          rw [written] at insertion
          cases insertion
          have vacant : store.records.find? lock.key.toBytes = none :=
            Option.not_isSome_iff_eq_none.1 free
          rw [LockEnvironment.records_of_write written] at same
          have found : reached.records.find? lock.key.toBytes =
              some (Binary.Codec.encode lock) := by
            rw [same, SortedMap.find?_insert_self]
          unfold LockEnvironment.deleteIfOwned at removal
          rw [found] at removal
          change (LockEnvironment.readRecord (Binary.Codec.encode lock) >>= _) = _ at removal
          rw [LockEnvironment.readRecord_of_write written] at removal
          change (if lock.id = lock.id then _ else _) = _ at removal
          rw [if_pos rfl] at removal
          rw [(LockEnvironment.of_remove removal).2, same,
            SortedMap.erase_insert_of_free _ vacant]

namespace RequestLock

open ReversibleLockStore

variable {σ κ : Type} [LockStore σ] [ReversibleLockStore σ κ]

/-- A store that keeps `above` keeps `below` when it has given this lock back. -/
def Uncovers (σ : Type) {κ : Type} [LockStore σ] [ReversibleLockStore σ κ] (lock : RequestLock)
    (above below : κ) : Prop :=
  ∀ {store final : σ} {removed : Bool}, contents store = above →
    LockStore.deleteIfOwned lock.key lock.id store = .ok (removed, final) → contents final = below

/-- Giving these locks back, the first one first, leads from `above` to `base`. -/
inductive Stacked (σ : Type) {κ : Type} [LockStore σ] [ReversibleLockStore σ κ] (base : κ) :
    List RequestLock → κ → Prop
  | bottom : Stacked σ base [] base
  | push {lock : RequestLock} {rest : List RequestLock} {above below : κ}
      (uncovers : lock.Uncovers σ above below) (stacked : Stacked σ base rest below) :
      Stacked σ base (lock :: rest) above

theorem Stacked.of_create_ok {base : κ} {locks : List RequestLock} {store newStore : σ}
    (stacked : Stacked σ base locks (contents store)) {α : Type} {key : LockKey} {id : Uuid}
    {now : Timestamp} {onDuplicate : α → α} {caller after : α} {taken : RequestLock}
    (created : create key id now onDuplicate caller store = (.ok taken, after, newStore)) :
    Stacked σ base (taken :: locks) (contents newStore) := by
  unfold create at created
  dsimp only at created
  split at created
  · cases created
  · rename_i inserted
    cases created
    exact .push (contents_of_removed inserted) stacked
  · cases created

theorem Stacked.release {base : κ} {taken : RequestLock} {rest : List RequestLock} {store : σ}
    (stacked : Stacked σ base (taken :: rest) (contents store))
    (returnable : taken.Returnable store) :
    Stacked σ base rest (contents (RequestLock.release taken store)) := by
  obtain ⟨removed, newStore, deleted⟩ := returnable
  cases stacked with
  | push uncovers stacked =>
      rw [RequestLock.release, deleted]
      rw [← uncovers rfl deleted] at stacked
      exact stacked

theorem Stacked.contents_eq {base above : κ} (stacked : Stacked σ base [] above) :
    above = base := by
  cases stacked
  rfl

end RequestLock

end Consortium
