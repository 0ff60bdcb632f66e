import Consortium.Proofs.Binary.Stored
import Consortium.Proofs.Lock.Occupancy
import Mathlib.Data.List.Nodup
import Mathlib.Data.List.Perm.Basic

/-!
What a lock store keeps, to the last record. Taking a lock adds one record, giving it back takes
that record away, and the store lists what it keeps. A store in memory and an environment on disk
both tabulate their locks: each entry is determined by a lock.
-/

namespace Consortium

namespace SortedMap

section

variable {κ ν : Type} [Ord κ] [Std.LawfulEqOrd κ] [Std.TransOrd κ]

omit [Std.TransOrd κ] in
theorem nodup_keys (map : SortedMap κ ν) : (map.entries.map Prod.fst).Nodup := by
  refine List.pairwise_map.2 (map.increasing.imp fun {left right} below same => ?_)
  rw [same, compare_self_eq] at below
  cases below

omit [Std.LawfulEqOrd κ] [Std.TransOrd κ] in
theorem perm_insertIntoList {key : κ} (value : ν) {list : List (κ × ν)}
    (free : findInList key list = none) :
    (insertIntoList key value list).Perm ((key, value) :: list) := by
  induction list with
  | nil => exact .refl _
  | cons first rest ih =>
      obtain ⟨other, previous⟩ := first
      unfold findInList at free
      unfold insertIntoList
      cases order : compare key other with
      | lt => exact .refl _
      | eq =>
          rw [order] at free
          cases free
      | gt =>
          rw [order] at free
          exact ((ih free).cons _).trans (.swap _ _ _)

theorem perm_entries_insert {map : SortedMap κ ν} {key : κ} (value : ν)
    (free : map.find? key = none) :
    (map.insert key value).entries.Perm ((key, value) :: map.entries) :=
  perm_insertIntoList value free

theorem perm_eraseFromList {key : κ} {value : ν} {list : List (κ × ν)}
    (increasing : list.Pairwise fun left right => compare left.1 right.1 = .lt)
    (member : (key, value) ∈ list) : list.Perm ((key, value) :: eraseFromList key list) := by
  induction list with
  | nil => cases member
  | cons first rest ih =>
      obtain ⟨above, increasing⟩ := List.pairwise_cons.1 increasing
      rw [eraseFromList, List.filter_cons]
      rcases List.mem_cons.1 member with rfl | inRest
      · -- All other keys are above this one, so nothing else is erased.
        have kept : eraseFromList key rest = rest := by
          refine List.filter_eq_self.2 fun entry isEntry => ?_
          rw [above entry isEntry]
          rfl
        rw [if_neg (by simp)]
        change List.Perm _ (_ :: eraseFromList key rest)
        rw [kept]
      · have below := Std.OrientedCmp.gt_of_lt (above _ inRest)
        rw [if_pos (by rw [below]; rfl)]
        exact ((ih increasing inRest).cons first).trans (.swap _ _ _)

theorem perm_entries_erase {map : SortedMap κ ν} {key : κ} {value : ν}
    (found : map.find? key = some value) :
    map.entries.Perm ((key, value) :: (map.erase key).entries) :=
  perm_eraseFromList map.increasing (find?_eq_some_iff.1 found)

/-! A map tabulates elements if its entries are made from them one by one. -/

variable {α : Type} (entryOf : α → κ × ν)

def Tabulates (map : SortedMap κ ν) (elements : List α) : Prop :=
  map.entries = elements.map entryOf

variable {entryOf} {map : SortedMap κ ν} {elements : List α}

theorem Tabulates.find? (tabulates : map.Tabulates entryOf elements) {element : α}
    (member : element ∈ elements) :
    map.find? (entryOf element).1 = some (entryOf element).2 := by
  rw [find?_eq_some_iff, tabulates]
  exact List.mem_map_of_mem member

omit [Std.LawfulEqOrd κ] [Std.TransOrd κ] in
theorem Tabulates.of_perm {other : SortedMap κ ν} {elements : List α}
    (perm : other.entries.Perm (elements.map entryOf)) :
    ∃ others, other.Tabulates entryOf others ∧ others.Perm elements := by
  have lift := congrFun₂ (List.eq_map_comp_perm entryOf) other.entries elements
  exact lift.mpr perm

theorem Tabulates.insert (tabulates : map.Tabulates entryOf elements) {element : α}
    (free : map.find? (entryOf element).1 = none) :
    ∃ grown, (map.insert (entryOf element).1 (entryOf element).2).Tabulates entryOf grown ∧
      grown.Perm (element :: elements) := by
  have perm := perm_entries_insert (entryOf element).2 free
  rw [tabulates] at perm
  exact Tabulates.of_perm perm

theorem Tabulates.erase (tabulates : map.Tabulates entryOf elements) {element : α}
    (member : element ∈ elements) :
    ∃ left, (map.erase (entryOf element).1).Tabulates entryOf left ∧
      elements.Perm (element :: left) := by
  obtain ⟨before, after, rfl⟩ := List.append_of_mem member
  have split := (perm_entries_erase (tabulates.find? member)).symm
  rw [tabulates, List.map_append, List.map_cons] at split
  have rest := (split.trans List.perm_middle).cons_inv
  rw [← List.map_append] at rest
  obtain ⟨left, kept, perm⟩ := Tabulates.of_perm rest
  exact ⟨left, kept, List.perm_middle.trans (perm.symm.cons element)⟩

end

end SortedMap

/-- Stores whose records are known. -/
class ListedLockStore (σ : Type) [LockStore σ] where
  /-- The store keeps exactly these locks, in the order in which it lists them. -/
  Lists : σ → List RequestLock → Prop
  list_of_lists : ∀ {store : σ} {locks : List RequestLock},
    Lists store locks → LockStore.list store = .ok locks
  lists_of_list_nil : ∀ {store : σ}, LockStore.list store = .ok [] → Lists store []
  nodup_keys : ∀ {store : σ} {locks : List RequestLock},
    Lists store locks → (locks.map RequestLock.key).Nodup
  of_inserted : ∀ {lock : RequestLock} {store newStore : σ} {locks : List RequestLock},
    Lists store locks → LockStore.insertIfAbsent lock store = .ok (true, newStore) →
      ∃ grown, Lists newStore grown ∧ grown.Perm (lock :: locks)
  of_deleted : ∀ {lock : RequestLock} {store newStore : σ} {locks : List RequestLock}
    {removed : Bool}, Lists store locks → lock ∈ locks →
      LockStore.deleteIfOwned lock.key lock.id store = .ok (removed, newStore) →
        ∃ left, Lists newStore left ∧ locks.Perm (lock :: left)

namespace LockTable

def entryOf (lock : RequestLock) : LockKey × RequestLock := (lock.key, lock)

/-- Each lock is kept under its own key. -/
def Keyed (table : LockTable) : Prop :=
  ∀ key held, table.locks.find? key = some held → held.key = key

theorem keyed_empty : empty.Keyed := by
  intro key held found
  cases found

namespace Keyed

variable {table : LockTable}

theorem seed (keyed : table.Keyed) (lock : RequestLock) : (table.seed lock).Keyed := by
  intro key held found
  change (table.locks.insert lock.key lock).find? key = some held at found
  by_cases same : key = lock.key
  · rw [same, SortedMap.find?_insert_self] at found
    rw [← Option.some.inj found, same]
  · rw [SortedMap.find?_insert_of_ne _ _ same] at found
    exact keyed key held found

theorem erase (keyed : table.Keyed) (key : LockKey) :
    Keyed { table with locks := table.locks.erase key } := by
  intro other held found
  rw [SortedMap.find?_erase] at found
  split at found
  · cases found
  · exact keyed other held found

theorem find?_of_mem_values (keyed : table.Keyed) {lock : RequestLock}
    (member : lock ∈ table.locks.values) : table.locks.find? lock.key = some lock := by
  obtain ⟨⟨key, _⟩, isEntry, rfl⟩ := List.mem_map.1 member
  have found := SortedMap.find?_eq_some_iff.2 isEntry
  rw [keyed _ _ found]
  exact found

theorem tabulates (keyed : table.Keyed) :
    table.locks.Tabulates entryOf table.locks.values := by
  rw [SortedMap.Tabulates, SortedMap.values, List.map_map]
  refine (List.map_id _).symm.trans (List.map_congr_left fun entry isEntry => ?_)
  exact Prod.ext (keyed _ _ (SortedMap.find?_eq_some_iff.2 isEntry)).symm rfl

theorem nodup_keys (keyed : table.Keyed) :
    (table.locks.values.map RequestLock.key).Nodup := by
  have distinct := table.locks.nodup_keys
  rw [keyed.tabulates, List.map_map] at distinct
  exact distinct

end Keyed

theorem values_of_tabulates {table : LockTable} {locks : List RequestLock}
    (tabulates : table.locks.Tabulates entryOf locks) : table.locks.values = locks := by
  rw [SortedMap.values, tabulates, List.map_map]
  exact List.map_id locks

theorem deleteIfOwned_eq_delete {table : LockTable} {locks : List RequestLock}
    {lock : RequestLock} (tabulates : table.locks.Tabulates entryOf locks) (member : lock ∈ locks) :
    deleteIfOwned lock.key lock.id table = delete lock.key table := by
  have found : table.locks.find? lock.key = some lock := tabulates.find? member
  unfold deleteIfOwned delete
  rw [SortedMap.contains, found, Option.any_some, decide_eq_true rfl]
  rfl

instance : ListedLockStore LockTable where
  Lists table locks := table.locks.Tabulates entryOf locks
  list_of_lists tabulates := congrArg Except.ok (values_of_tabulates tabulates)
  lists_of_list_nil listed := List.map_eq_nil_iff.1 (Except.ok.inj listed)
  nodup_keys {table locks} tabulates := by
    have distinct := table.locks.nodup_keys
    rw [tabulates, List.map_map] at distinct
    exact distinct
  of_inserted {lock store newStore locks} tabulates inserted := by
    change insertIfAbsent lock store = _ at inserted
    unfold insertIfAbsent at inserted
    split at inserted
    · cases inserted
    · split at inserted
      · cases inserted
      · rename_i free
        cases inserted
        exact tabulates.insert (Option.not_isSome_iff_eq_none.1 free)
  of_deleted {lock store newStore locks removed} tabulates member deleted := by
    change deleteIfOwned lock.key lock.id store = _ at deleted
    rw [deleteIfOwned_eq_delete tabulates member] at deleted
    unfold delete at deleted
    split at deleted <;> cases deleted
    exact tabulates.erase member

end LockTable

namespace LockEnvironment

open Binary

def entryOf (lock : RequestLock) : List UInt8 × List UInt8 :=
  (lock.key.toBytes, Codec.encode lock)

/-- The records are those of the locks, and each of them can be read back. -/
structure Records (environment : LockEnvironment) (locks : List RequestLock) : Prop where
  tabulates : environment.records.Tabulates entryOf locks
  legible : ∀ lock ∈ locks, readRecord (Codec.encode lock) = .ok lock

theorem mapM_readRecord {locks : List RequestLock}
    (legible : ∀ lock ∈ locks, readRecord (Codec.encode lock) = .ok lock) :
    (locks.map Codec.encode).mapM readRecord = .ok locks := by
  induction locks with
  | nil => rfl
  | cons lock rest ih =>
      obtain ⟨first, others⟩ := List.forall_mem_cons.1 legible
      rw [List.map_cons, List.mapM_cons, first]
      change (List.mapM readRecord (rest.map Codec.encode) >>= _) = _
      rw [ih others]
      rfl

theorem Records.list {environment : LockEnvironment} {locks : List RequestLock}
    (records : environment.Records locks) : environment.list = .ok locks := by
  obtain ⟨tabulates, legible⟩ := records
  rw [LockEnvironment.list, SortedMap.values, tabulates, List.map_map]
  exact mapM_readRecord legible

theorem short_key_of_write {environment changed : LockEnvironment} {key value : List UInt8}
    (written : environment.write key value = .ok changed) : key.length ≤ maxKeySize := by
  unfold write at written
  split at written
  · cases written
  · rename_i allowed
    exact Nat.le_of_not_lt fun long => allowed (.inr long)

theorem readRecord_encode {lock : RequestLock}
    (short : (Bytes.ofString lock.key.payload).length < UInt64.size) :
    readRecord (Codec.encode lock) = .ok lock := by
  have fits : Bounded.Fits lock := ⟨trivial, trivial, ⟨short, fun _ _ => trivial⟩, trivial⟩
  rw [readRecord, read?_of_legible (LawfulCodec.legible fits)]

theorem readRecord_of_write {environment changed : LockEnvironment} {lock : RequestLock}
    {value : List UInt8} (written : environment.write lock.key.toBytes value = .ok changed) :
    readRecord (Codec.encode lock) = .ok lock := by
  have short : (Bytes.ofString lock.key.payload).length < UInt64.size := by
    have bound := short_key_of_write written
    rw [LockKey.toBytes, List.length_cons] at bound
    exact Nat.lt_of_lt_of_le bound (by decide)
  exact readRecord_encode short

theorem mapM_readRecord_eq_nil {values : List (List UInt8)}
    (listed : values.mapM readRecord = .ok []) : values = [] := by
  cases values with
  | nil => rfl
  | cons value rest =>
      rw [List.mapM_cons] at listed
      cases first : readRecord value with
      | error failure => simp [first, bind, Except.bind] at listed
      | ok lock =>
          cases others : rest.mapM readRecord <;>
            simp [first, others, bind, Except.bind, pure, Except.pure] at listed

theorem Records.deleteIfOwned_eq_remove {environment : LockEnvironment}
    {locks : List RequestLock} {lock : RequestLock} (records : environment.Records locks)
    (member : lock ∈ locks) :
    environment.deleteIfOwned lock.key lock.id = environment.remove lock.key.toBytes := by
  have found : environment.records.find? lock.key.toBytes = some (Codec.encode lock) :=
    records.tabulates.find? member
  unfold deleteIfOwned
  rw [found]
  change readRecord (Codec.encode lock) >>= _ = _
  rw [records.legible lock member]
  exact if_pos rfl

instance : ListedLockStore LockEnvironment where
  Lists environment locks := environment.Records locks
  list_of_lists records := records.list
  lists_of_list_nil {environment} listed := by
    have empty := List.map_eq_nil_iff.1 (mapM_readRecord_eq_nil listed)
    exact ⟨empty, fun lock member => nomatch member⟩
  nodup_keys {environment locks} records := by
    have distinct := environment.records.nodup_keys
    rw [records.tabulates, List.map_map] at distinct
    refine List.Nodup.of_map LockKey.toBytes ?_
    rw [List.map_map]
    exact distinct
  of_inserted {lock store newStore locks} records inserted := by
    change insertIfAbsent lock store = _ at inserted
    unfold insertIfAbsent at inserted
    dsimp only at inserted
    split at inserted
    · cases inserted
    · rename_i free
      cases written : store.write lock.key.toBytes (Codec.encode lock) with
      | error failure =>
          rw [written] at inserted
          cases inserted
      | ok changed =>
          rw [written] at inserted
          cases inserted
          have vacant : store.records.find? (entryOf lock).1 = none :=
            Option.not_isSome_iff_eq_none.1 free
          obtain ⟨grown, tabulates, perm⟩ := records.tabulates.insert vacant
          have sameRecords : newStore.records =
              store.records.insert (entryOf lock).1 (entryOf lock).2 := records_of_write written
          rw [← sameRecords] at tabulates
          refine ⟨grown, ⟨tabulates, fun other member => ?_⟩, perm⟩
          rcases List.mem_cons.1 (perm.mem_iff.1 member) with rfl | isOld
          · exact readRecord_of_write written
          · exact records.legible other isOld
  of_deleted {lock store newStore locks removed} records member deleted := by
    change store.deleteIfOwned lock.key lock.id = _ at deleted
    rw [records.deleteIfOwned_eq_remove member] at deleted
    obtain ⟨left, tabulates, perm⟩ := records.tabulates.erase member
    have sameRecords : newStore.records = store.records.erase (entryOf lock).1 :=
      (of_remove deleted).2
    rw [← sameRecords] at tabulates
    refine ⟨left, ⟨tabulates, fun other isLeft => ?_⟩, perm⟩
    exact records.legible other (perm.mem_iff.2 (List.mem_cons_of_mem _ isLeft))

end LockEnvironment

namespace RequestLock

variable {σ κ : Type} [LockStore σ] [ListedLockStore σ] {store newStore : σ}

open ListedLockStore

/-- The store keeps these locks, in some order, and nothing else. -/
def Kept (locks : List RequestLock) (store : σ) : Prop :=
  ∃ listed, Lists store listed ∧ listed.Perm locks

def Returnable (lock : RequestLock) (store : σ) : Prop :=
  ∃ removed newStore, LockStore.deleteIfOwned lock.key lock.id store = .ok (removed, newStore)

instance (lock : RequestLock) (store : σ) : Decidable (lock.Returnable store) :=
  match answer : LockStore.deleteIfOwned lock.key lock.id store with
  | .ok (removed, newStore) => .isTrue ⟨removed, newStore, answer⟩
  | .error _ => .isFalse fun ⟨_, _, deleted⟩ => nomatch answer.symm.trans deleted

theorem Kept.of_perm {locks others : List RequestLock} (kept : Kept locks store)
    (perm : locks.Perm others) : Kept others store := by
  obtain ⟨listed, lists, isListed⟩ := kept
  exact ⟨listed, lists, isListed.trans perm⟩

theorem kept_of_create_ok {key : LockKey} {id : Uuid} {now : Timestamp} {onDuplicate : κ → κ}
    {caller after : κ} {taken : RequestLock} {locks : List RequestLock} (kept : Kept locks store)
    (created : create key id now onDuplicate caller store = (.ok taken, after, newStore)) :
    taken.key = key ∧ Kept (taken :: locks) newStore := by
  obtain ⟨listed, lists, perm⟩ := kept
  unfold create at created
  dsimp only at created
  split at created
  · cases created
  · rename_i inserted
    cases created
    obtain ⟨grown, listsGrown, isGrown⟩ := of_inserted lists inserted
    exact ⟨rfl, grown, listsGrown, isGrown.trans (perm.cons _)⟩
  · cases created

theorem Kept.release {lock : RequestLock} {rest : List RequestLock}
    (kept : Kept (lock :: rest) store) (returnable : Returnable lock store) :
    Kept rest (release lock store) := by
  obtain ⟨listed, lists, perm⟩ := kept
  obtain ⟨removed, newStore, deleted⟩ := returnable
  obtain ⟨left, listsLeft, isLeft⟩ :=
    of_deleted lists (perm.mem_iff.2 List.mem_cons_self) deleted
  rw [RequestLock.release, deleted]
  exact ⟨left, listsLeft, (isLeft.symm.trans perm).cons_inv⟩

end RequestLock

/-! ### A store in memory -/

namespace RequestLock

variable {κ : Type} {table : LockTable}

theorem create_inMemory_eq (key : LockKey) (id : Uuid) (now : Timestamp)
    (onDuplicate : κ → κ) (caller : κ) (table : LockTable) :
    create key id now onDuplicate caller table =
      if table.failInserts then
        (.error (.store (.backend "injected insert failure")), caller, table)
      else if table.locks.contains key then (.error (.duplicate key), onDuplicate caller, table)
      else (.ok ⟨id, key, now⟩, caller, table.seed ⟨id, key, now⟩) := by
  simp only [create, LockStore.insertIfAbsent, LockTable.insertIfAbsent]
  cases table.failInserts <;> cases table.locks.contains key <;> rfl

theorem failDeletes_of_create {key : LockKey} {id : Uuid} {now : Timestamp}
    {onDuplicate : κ → κ} {caller after : κ} {answer : Except LockError RequestLock}
    {changed : LockTable}
    (created : create key id now onDuplicate caller table = (answer, after, changed)) :
    changed.failDeletes = table.failDeletes := by
  rw [create_inMemory_eq] at created
  split at created
  · cases created
    rfl
  · split at created <;> cases created <;> rfl

theorem release_inMemory_eq (lock : RequestLock) (table : LockTable) :
    release lock table =
      if table.failDeletes = false ∧
          (table.locks.find? lock.key).any (fun held => decide (held.id = lock.id)) = true then
        { table with locks := table.locks.erase lock.key }
      else table := by
  simp only [release, LockStore.deleteIfOwned, LockTable.deleteIfOwned]
  cases table.failDeletes with
  | true => rfl
  | false =>
      cases (table.locks.find? lock.key).any fun held => decide (held.id = lock.id) <;> rfl

@[simp] theorem failDeletes_release (lock : RequestLock) (table : LockTable) :
    (release lock table).failDeletes = table.failDeletes := by
  rw [release_inMemory_eq]
  split <;> rfl

theorem returnable_of_failDeletes (lock : RequestLock) (deletes : table.failDeletes = false) :
    lock.Returnable table := by
  simp only [Returnable, LockStore.deleteIfOwned, LockTable.deleteIfOwned, deletes]
  cases table.locks.find? lock.key with
  | none => exact ⟨_, _, rfl⟩
  | some held => by_cases own : held.id = lock.id <;> simp [own]

end RequestLock

end Consortium
