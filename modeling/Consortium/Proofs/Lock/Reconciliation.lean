import Consortium.Proofs.Lock.Agreement
import Consortium.Proofs.Lock.Tenure
import Mathlib.Data.List.Sort

/-!
What a reconciliation removes. It goes through the outdated locks in the order of their keys, and
each removal is a change of its own. So a failure ends it, and what has been removed by then stays
removed.
-/

namespace Consortium

/-! ### Outdated locks -/

/-- The lock was taken more than `maxAge` seconds before `now`. One that bears a later time than
`now` is not outdated. -/
def RequestLock.Outdated (maxAge : UInt64) (now : Timestamp) (lock : RequestLock) : Prop :=
  lock.createdAt.seconds.toNat < now.seconds.toNat ∧
    maxAge.toNat < now.seconds.toNat - lock.createdAt.seconds.toNat

instance (maxAge : UInt64) (now : Timestamp) (lock : RequestLock) :
    Decidable (lock.Outdated maxAge now) :=
  inferInstanceAs (Decidable (_ ∧ _))

theorem Timestamp.toNat_elapsed (time now : Timestamp) :
    (time.elapsed now).toNat = now.seconds.toNat - time.seconds.toNat := by
  unfold elapsed
  split
  · rename_i past
    exact UInt64.toNat_sub_of_le _ _ past
  · rename_i ahead
    have later : now.seconds.toNat ≤ time.seconds.toNat :=
      Nat.le_of_lt (UInt64.lt_iff_toNat_lt.1 (UInt64.not_le.1 ahead))
    exact (Nat.sub_eq_zero_of_le later).symm

theorem RequestLock.isStale_eq (maxAge : UInt64) (now : Timestamp) (lock : RequestLock) :
    isStale maxAge now lock = decide (lock.Outdated maxAge now) := by
  rw [isStale, decide_eq_decide, UInt64.lt_iff_toNat_lt, Timestamp.toNat_elapsed]
  exact ⟨fun old => ⟨Nat.lt_of_sub_pos (Nat.zero_lt_of_lt old), old⟩, And.right⟩

/-! ### Stores in the order of their keys -/

/-- Stores that list their locks in the order of the keys, and from which a listed lock is removed
unless that fails. -/
class OrderedLockStore (σ : Type) [LockStore σ] extends ListedLockStore σ where
  inOrder : ∀ {store : σ} {locks : List RequestLock}, Lists store locks →
    locks.Pairwise fun earlier later => earlier.key.order later.key = .lt
  removed_of_deleted : ∀ {lock : RequestLock} {store newStore : σ} {locks : List RequestLock}
    {removed : Bool}, Lists store locks → lock ∈ locks →
      LockStore.deleteIfOwned lock.key lock.id store = .ok (removed, newStore) → removed = true

theorem SortedMap.Tabulates.inOrder {κ ν α : Type} [Ord κ] {map : SortedMap κ ν}
    {entryOf : α → κ × ν} {elements : List α} (tabulates : map.Tabulates entryOf elements) :
    elements.Pairwise fun earlier later =>
      compare (entryOf earlier).1 (entryOf later).1 = .lt := by
  have increasing := map.increasing
  rw [tabulates] at increasing
  exact List.pairwise_map.1 increasing

instance : OrderedLockStore LockTable where
  inOrder tabulates := tabulates.inOrder.imp fun {earlier later} below =>
    (LockKey.compare_toBytes earlier.key later.key).symm.trans below
  removed_of_deleted {lock store newStore locks removed} tabulates member deleted := by
    have held : store.locks.find? lock.key = some lock := tabulates.find? member
    change LockTable.deleteIfOwned lock.key lock.id store = _ at deleted
    rw [LockTable.deleteIfOwned_eq_delete tabulates member] at deleted
    unfold LockTable.delete at deleted
    split at deleted <;> cases deleted
    rw [SortedMap.contains, held]
    rfl

instance : OrderedLockStore LockEnvironment where
  inOrder records := records.tabulates.inOrder.imp fun {earlier later} below =>
    (LockKey.compare_toBytes earlier.key later.key).symm.trans below
  removed_of_deleted {lock store newStore locks removed} records member deleted := by
    change store.deleteIfOwned lock.key lock.id = _ at deleted
    rw [records.deleteIfOwned_eq_remove member] at deleted
    exact (LockEnvironment.of_remove deleted).1

namespace RequestLock

open ListedLockStore OrderedLockStore

section Ordered

variable {σ : Type} [LockStore σ] [OrderedLockStore σ] {store newStore : σ}
  {locks doomed : List RequestLock}

theorem nodup_of_lists (lists : Lists store locks) : locks.Nodup :=
  .of_map key (nodup_keys lists)

theorem eq_of_perm_inOrder {others : List RequestLock} (perm : others.Perm locks)
    (left : others.Pairwise fun earlier later => earlier.key.order later.key = .lt)
    (right : locks.Pairwise fun earlier later => earlier.key.order later.key = .lt) :
    others = locks := by
  refine perm.eq_of_pairwise (fun one other _ _ below above => ?_) left right
  rw [← LockKey.compare_toBytes] at below above
  exact absurd above (Std.OrientedCmp.not_lt_of_lt below)

theorem lists_without {lock : RequestLock} {removed : Bool} (lists : Lists store locks)
    (member : lock ∈ locks)
    (deleted : LockStore.deleteIfOwned lock.key lock.id store = .ok (removed, newStore)) :
    Lists newStore (locks.filter (· ≠ lock)) := by
  obtain ⟨left, listsLeft, perm⟩ := of_deleted lists member deleted
  have fresh : lock ∉ left := (List.nodup_cons.1 (perm.nodup_iff.1 (nodup_of_lists lists))).1
  have kept : (lock :: left).filter (· ≠ lock) = left := by
    rw [List.filter_cons_of_neg (by simp)]
    exact List.filter_eq_self.2 fun other isOther =>
      decide_eq_true fun same => fresh (same ▸ isOther)
  have permLeft : left.Perm (locks.filter (· ≠ lock)) := by
    have filtered := perm.filter (· ≠ lock)
    rw [kept] at filtered
    exact filtered.symm
  rwa [← eq_of_perm_inOrder permLeft (inOrder listsLeft) ((inOrder lists).filter _)]

/-! ### Where the removals end -/

/-- How the removal of `doomed` locks from a store that kept `locks` ends, as its answer and the
store that is left. -/
inductive Reaps (locks doomed : List RequestLock) :
    Except StoreError (List RequestLock) × σ → Prop
  | all {changed : σ} (kept : Lists changed (locks.filter (· ∉ doomed))) :
      Reaps locks doomed (.ok doomed, changed)
  | stopped {removed rest : List RequestLock} {next : RequestLock} {failure : StoreError}
      {changed : σ} (split : doomed = removed ++ next :: rest)
      (failed : LockStore.deleteIfOwned next.key next.id changed = .error failure)
      (kept : Lists changed (locks.filter (· ∉ removed))) :
      Reaps locks doomed (.error failure, changed)

theorem filter_not_mem_cons (lock : RequestLock) (rest : List RequestLock) :
    (locks.filter (· ≠ lock)).filter (· ∉ rest) = locks.filter (· ∉ lock :: rest) := by
  rw [List.filter_filter]
  refine List.filter_congr fun other _ => ?_
  rw [← Bool.decide_and, decide_eq_decide, List.mem_cons, not_or, and_comm]

theorem reaps_of_reapAll (lists : Lists store locks) (listed : doomed ⊆ locks)
    (distinct : doomed.Nodup) : Reaps locks doomed (reapAll doomed store) := by
  induction doomed generalizing locks store with
  | nil =>
      refine .all ?_
      rwa [List.filter_eq_self.2 fun _ _ => decide_eq_true List.not_mem_nil]
  | cons lock rest ih =>
      obtain ⟨isListed, listedRest⟩ := List.cons_subset.1 listed
      obtain ⟨fresh, distinctRest⟩ := List.nodup_cons.1 distinct
      unfold reapAll
      cases deletion : LockStore.deleteIfOwned lock.key lock.id store with
      | error failure =>
          have split : lock :: rest = [] ++ lock :: rest := rfl
          refine .stopped split deletion ?_
          rwa [List.filter_eq_self.2 fun _ _ => decide_eq_true List.not_mem_nil]
      | ok deleted =>
          obtain ⟨removed, between⟩ := deleted
          obtain rfl := removed_of_deleted lists isListed deletion
          have stillListed : rest ⊆ locks.filter (· ≠ lock) := fun other isOther =>
            List.mem_filter.2 ⟨listedRest isOther,
              decide_eq_true fun same => fresh (same ▸ isOther)⟩
          have others := ih (lists_without lists isListed deletion) stillListed distinctRest
          dsimp only
          generalize reapAll rest between = outcome at others ⊢
          cases others with
          | all kept =>
              rw [filter_not_mem_cons] at kept
              exact .all kept
          | stopped split failed kept =>
              rw [filter_not_mem_cons] at kept
              exact .stopped (congrArg (lock :: ·) split) failed kept

/-- How the reconciliation of a store that keeps `locks` ends. It has removed and returned the
outdated ones in the order of their keys, or the removal of one of them fails in the store that is
left, which lacks those before it and nothing else. -/
structure Reconciles (maxAge : UInt64) (now : Timestamp) (store : σ) (locks : List RequestLock) :
    Prop where
  inOrder : locks.Pairwise fun earlier later => earlier.key.order later.key = .lt
  ends :
    (∃ changed, reconcile maxAge now store = (.ok (locks.filter (Outdated maxAge now)), changed) ∧
      Lists changed (locks.filter (¬ ·.Outdated maxAge now))) ∨
    ∃ removed next rest failure changed,
      locks.filter (Outdated maxAge now) = removed ++ next :: rest ∧
        reconcile maxAge now store = (.error (.store failure), changed) ∧
        LockStore.deleteIfOwned next.key next.id changed = .error failure ∧
        Lists changed (locks.filter (· ∉ removed))

theorem reconcile_of_lists (maxAge : UInt64) (now : Timestamp) (lists : Lists store locks) :
    reconcile maxAge now store =
      ((reapAll (locks.filter (Outdated maxAge now)) store).1.mapError .store,
        (reapAll (locks.filter (Outdated maxAge now)) store).2) := by
  have sameFilter : isStale maxAge now = fun lock => decide (lock.Outdated maxAge now) :=
    funext (isStale_eq maxAge now)
  rw [reconcile, list_of_lists lists, sameFilter]

theorem reconciles_of_lists (maxAge : UInt64) (now : Timestamp) (lists : Lists store locks) :
    Reconciles maxAge now store locks := by
  refine ⟨inOrder lists, ?_⟩
  rw [reconcile_of_lists maxAge now lists]
  have reaps := reaps_of_reapAll lists (List.filter_subset_self locks)
    ((nodup_of_lists lists).filter (Outdated maxAge now))
  generalize reapAll (locks.filter (Outdated maxAge now)) store = outcome at reaps ⊢
  cases reaps with
  | all kept =>
      refine .inl ⟨_, rfl, ?_⟩
      convert kept using 1
      -- A listed lock is among the outdated ones if it is outdated.
      refine List.filter_congr fun lock member => ?_
      simp [member]
  | stopped split failed kept => exact .inr ⟨_, _, _, _, _, split, rfl, failed, kept⟩

end Ordered

/-- A reconciliation removes and returns exactly the outdated locks, unless a removal fails, which
ends it. In memory either no removal fails or all do, and then nothing is changed. An environment
in which some record cannot be read stays as it was. -/
theorem reconcile_removes_outdated (maxAge : UInt64) (now : Timestamp) :
    (∀ table : LockTable, table.Keyed →
      Reconciles maxAge now table table.locks.values ∧
      (table.failDeletes = false → (reconcile maxAge now table).1 =
        .ok (table.locks.values.filter (Outdated maxAge now))) ∧
      (table.failDeletes = true → (reconcile maxAge now table).2 = table)) ∧
    ∀ environment : LockEnvironment,
      (∀ locks, environment.Records locks → Reconciles maxAge now environment locks) ∧
      ∀ failure, environment.list = .error failure →
        reconcile maxAge now environment = (.error (.store failure), environment) := by
  refine ⟨fun table keyed => ?_, fun environment => ⟨fun locks records => ?_,
    fun failure unlisted => ?_⟩⟩
  · have lists : Lists table table.locks.values := keyed.tabulates
    have reconciled := reconcile_of_lists maxAge now lists
    refine ⟨reconciles_of_lists maxAge now lists, fun deletes => ?_, fun fails => ?_⟩
    · have held : ∀ lock ∈ table.locks.values.filter (Outdated maxAge now),
          table.locks.find? lock.key = some lock :=
        fun lock member => keyed.find?_of_mem_values (List.mem_filter.1 member).1
      have distinct : ((table.locks.values.filter (Outdated maxAge now)).map key).Nodup :=
        keyed.nodup_keys.sublist (List.filter_sublist.map key)
      rw [reconciled, reapAll_of_held deletes held distinct]
      rfl
    · rw [reconciled]
      exact (reapAll_of_failDeletes fails _).1
  · exact reconciles_of_lists maxAge now records
  · have listed : LockStore.list environment = .error failure := unlisted
    rw [reconcile, listed]

section Specimens

/-- A new environment in which locks are then put. -/
def opened (mapSize : UInt64) (locks : List RequestLock) : Except StoreError LockEnvironment := do
  let environment ← LockEnvironment.create mapSize false
  locks.foldlM (fun environment lock => (LockStore.insertIfAbsent lock environment).map Prod.snd)
    environment

theorem exists_opened {mapSize : UInt64} {locks : List RequestLock}
    {holds : LockEnvironment → Bool} (computed : (opened mapSize locks).toOption.any holds = true) :
    ∃ environment, opened mapSize locks = .ok environment ∧ holds environment = true := by
  cases isOpened : opened mapSize locks with
  | error failure =>
      rw [isOpened] at computed
      cases computed
  | ok environment =>
      rw [isOpened] at computed
      exact ⟨environment, rfl, computed⟩

theorem records_of_entries {environment : LockEnvironment} {locks : List RequestLock}
    (entries : environment.records.entries = locks.map LockEnvironment.entryOf)
    (short : ∀ lock ∈ locks, (Bytes.ofString lock.key.payload).length < UInt64.size) :
    environment.Records locks :=
  ⟨entries, fun lock member => LockEnvironment.readRecord_encode (short lock member)⟩

/-- Of three locks, one has just reached the age and one is stamped with a later time. -/
theorem reconcile_removes_one :
    let ahead : RequestLock := ⟨⟨.replicate 16 1⟩, ⟨.networkId, "ahead"⟩, ⟨200⟩⟩
    let young : RequestLock := ⟨⟨.replicate 16 2⟩, ⟨.networkId, "young"⟩, ⟨90⟩⟩
    let old : RequestLock := ⟨⟨.replicate 16 3⟩, ⟨.groupId, "old"⟩, ⟨89⟩⟩
    (reconcile 10 ⟨100⟩ (((LockTable.empty.seed old).seed young).seed ahead)).1 = .ok [old] ∧
      ∃ environment, opened 0 [young, old, ahead] = .ok environment ∧
        Reconciles 10 ⟨100⟩ environment [ahead, young, old] := by
  intro ahead young old
  obtain ⟨inMemory, onDisk⟩ := reconcile_removes_outdated 10 ⟨100⟩
  constructor
  · have keyed : (((LockTable.empty.seed old).seed young).seed ahead).Keyed :=
      ((LockTable.keyed_empty.seed old).seed young).seed ahead
    have values : (((LockTable.empty.seed old).seed young).seed ahead).locks.values =
        [ahead, young, old] := by decide +kernel
    have answer := (inMemory _ keyed).2.1 rfl
    rw [values] at answer
    exact answer
  · have computed : (opened 0 [young, old, ahead]).toOption.any (fun environment =>
        environment.records.entries = [ahead, young, old].map LockEnvironment.entryOf) = true := by
      decide +kernel
    obtain ⟨environment, isOpened, entries⟩ := exists_opened computed
    have records := records_of_entries (of_decide_eq_true entries) (by decide +kernel)
    exact ⟨environment, isOpened, (onDisk environment).1 _ records⟩

/-- A lock with a payload so long that few fit on a page. -/
def bulky (number : Nat) : RequestLock :=
  ⟨⟨.replicate 16 (.ofNat number)⟩,
    ⟨.groupId, "000" ++ toString number ++ String.ofList (List.replicate 400 'x')⟩,
    ⟨.ofNat number⟩⟩

/-- In a file of sixteen pages there is room for the first removal and not for the second. So the
reconciliation of six outdated locks fails, and one of them is gone. -/
theorem reconcile_fails_halfway :
    ∃ environment, opened 65536 ([0, 1, 2, 3, 4, 5].map bulky) = .ok environment ∧
      environment.list = .ok ([0, 1, 2, 3, 4, 5].map bulky) ∧
      (reconcile 10 ⟨1000⟩ environment).1 = .error (.store LockEnvironment.mapFull) ∧
      (reconcile 10 ⟨1000⟩ environment).2.list = .ok ([1, 2, 3, 4, 5].map bulky) := by
  have computed : (opened 65536 ([0, 1, 2, 3, 4, 5].map bulky)).toOption.any (fun environment =>
      decide (environment.records.entries =
        ([0, 1, 2, 3, 4, 5].map bulky).map LockEnvironment.entryOf) &&
      (environment.remove (bulky 0).key.toBytes).toOption.any fun deleted =>
        deleted.2.remove (bulky 1).key.toBytes = .error LockEnvironment.mapFull) = true := by
    decide +kernel
  obtain ⟨environment, isOpened, holds⟩ := exists_opened computed
  obtain ⟨entries, removals⟩ := Bool.and_eq_true_iff.1 holds
  have records := records_of_entries (of_decide_eq_true entries) (by decide +kernel)
  have lists : Lists environment ([0, 1, 2, 3, 4, 5].map bulky) := records
  cases removal : environment.remove (bulky 0).key.toBytes with
  | error failure =>
      rw [removal] at removals
      cases removals
  | ok deleted =>
      obtain ⟨removed, between⟩ := deleted
      rw [removal, Except.toOption, Option.any_some] at removals
      have firstDeleted : LockStore.deleteIfOwned (bulky 0).key (bulky 0).id environment =
          .ok (removed, between) :=
        (records.deleteIfOwned_eq_remove List.mem_cons_self).trans removal
      have left : between.Records ([1, 2, 3, 4, 5].map bulky) := by
        have others : ([0, 1, 2, 3, 4, 5].map bulky).filter (· ≠ bulky 0) =
            [1, 2, 3, 4, 5].map bulky := by decide +kernel
        rw [← others]
        exact lists_without lists List.mem_cons_self firstDeleted
      have secondFails : LockStore.deleteIfOwned (bulky 1).key (bulky 1).id between =
          .error LockEnvironment.mapFull :=
        (left.deleteIfOwned_eq_remove List.mem_cons_self).trans (of_decide_eq_true removals)
      have outdated : ([0, 1, 2, 3, 4, 5].map bulky).filter (Outdated 10 ⟨1000⟩) =
          [0, 1, 2, 3, 4, 5].map bulky := by decide +kernel
      have reconciled := reconcile_of_lists 10 ⟨1000⟩ lists
      rw [outdated] at reconciled
      simp only [List.map_cons, reapAll, firstDeleted, secondFails] at reconciled
      exact ⟨environment, isOpened, records.list, congrArg Prod.fst reconciled,
        (congrArg (fun outcome => outcome.2.list) reconciled).trans left.list⟩

end Specimens

end RequestLock

end Consortium
