import Consortium.Proofs.Lock.Contents
import Consortium.Proofs.Lock.Room

/-!
A store in memory and an environment on disk give the same answers. The one orders its locks by
their kinds and payloads, the other orders their records by the binary forms of the keys. Writing
down a key keeps this order, and a record tells its lock, so the environment mirrors the store as
long as it has room for what is written.
-/

namespace Consortium

open Binary

/-! ### Keys written down in their order -/

namespace SortedMap

variable {κ ν κ' ν' : Type} [Ord κ] [Ord κ'] {write : κ → κ'}
  (keepsOrder : ∀ left right, compare (write left) (write right) = compare left right)
  (record : ν → ν')

include keepsOrder

theorem findInList_map (key : κ) (list : List (κ × ν)) :
    findInList (write key) (list.map (Prod.map write record)) =
      (findInList key list).map record := by
  induction list with
  | nil => rfl
  | cons first rest ih =>
      simp only [List.map_cons, Prod.map, findInList, keepsOrder]
      cases compare key first.1 with
      | lt => rfl
      | eq => rfl
      | gt => exact ih

theorem insertIntoList_map (key : κ) (value : ν) (list : List (κ × ν)) :
    insertIntoList (write key) (record value) (list.map (Prod.map write record)) =
      (insertIntoList key value list).map (Prod.map write record) := by
  induction list with
  | nil => rfl
  | cons first rest ih =>
      simp only [List.map_cons, Prod.map, insertIntoList, keepsOrder]
      cases compare key first.1 with
      | lt => rfl
      | eq => rfl
      | gt => exact congrArg _ ih

theorem eraseFromList_map (key : κ) (list : List (κ × ν)) :
    eraseFromList (write key) (list.map (Prod.map write record)) =
      (eraseFromList key list).map (Prod.map write record) := by
  simp only [eraseFromList, List.filter_map, Function.comp_def, Prod.map, keepsOrder]

omit keepsOrder in
theorem eq_or_mem_of_mem_insert [Std.TransOrd κ] [Std.LawfulEqOrd κ] {map : SortedMap κ ν}
    {key : κ} {value : ν} {entry : κ × ν} (isEntry : entry ∈ (map.insert key value).entries) :
    entry = (key, value) ∨ entry ∈ map.entries := by
  have found := find?_eq_some_iff.2 isEntry
  rw [find?_insert] at found
  split at found
  · rename_i same
    cases found
    exact .inl (Prod.ext (eq_of_compare_eq same) rfl)
  · exact .inr (find?_eq_some_iff.1 found)

omit keepsOrder in
theorem erase_of_free [Std.TransOrd κ] [Std.LawfulEqOrd κ] {map : SortedMap κ ν} {key : κ}
    (free : map.find? key = none) : map.erase key = map := by
  have kept : eraseFromList key map.entries = map.entries := by
    refine List.filter_eq_self.2 fun entry isEntry => bne_iff_ne.2 fun same => ?_
    have found := find?_eq_some_iff.2 isEntry
    rw [← eq_of_compare_eq same, free] at found
    cases found
  cases map
  simp only [erase, kept]

end SortedMap

namespace LockKey

/-- Kinds in the order of their list, and keys of one kind by the bytes of their payloads. -/
def order (left right : LockKey) : Ordering :=
  (compare (LockKind.all.idxOf left.kind) (LockKind.all.idxOf right.kind)).then
    (compare (Bytes.ofString left.payload) (Bytes.ofString right.payload))

theorem compare_tag (left right : LockKind) :
    compare left.tag right.tag = compare (LockKind.all.idxOf left) (LockKind.all.idxOf right) := by
  cases left <;> cases right <;> rfl

theorem compare_toBytes (left right : LockKey) :
    compare left.toBytes right.toBytes = left.order right := by
  rw [List.compare_eq_compareLex, toBytes, toBytes, List.compareLex_cons_cons, compare_tag]
  rfl

/-- Keys are compared as they are written down. -/
theorem toBytes_keepsOrder (left right : LockKey) :
    compare left.toBytes right.toBytes = compare left right := rfl

end LockKey

/-! ### Calls of a store -/

inductive LockCall where
  | insert (lock : RequestLock)
  | delete (key : LockKey)
  | deleteIfOwned (key : LockKey) (id : Uuid)
  | get (key : LockKey)
  | list

inductive LockAnswer where
  /-- Whether the store has been changed. -/
  | changed (did : Bool)
  | found (lock : Option RequestLock)
  | listed (locks : List RequestLock)
deriving DecidableEq

namespace LockCall

def key? : LockCall → Option LockKey
  | insert lock => some lock.key
  | delete key | deleteIfOwned key _ | get key => some key
  | list => none

section Performing

variable {σ : Type} [LockStore σ]

/-- A change that fails leaves the store as it was. -/
def settle (store : σ) :
    Except StoreError (Bool × σ) → Except StoreError LockAnswer × σ
  | .ok (did, changed) => (.ok (.changed did), changed)
  | .error failure => (.error failure, store)

def perform (store : σ) : LockCall → Except StoreError LockAnswer × σ
  | insert lock => settle store (LockStore.insertIfAbsent lock store)
  | delete key => settle store (LockStore.delete key store)
  | deleteIfOwned key id => settle store (LockStore.deleteIfOwned key id store)
  | get key => ((LockStore.get key store).map .found, store)
  | list => ((LockStore.list store).map .listed, store)

def answers (store : σ) : List LockCall → List (Except StoreError LockAnswer)
  | [] => []
  | call :: rest => (call.perform store).1 :: answers (call.perform store).2 rest

end Performing

end LockCall

/-! ### Mirrors -/

namespace LockEnvironment

/-- The longest payload of a key that an environment can keep. -/
def maxPayload : Nat := 510

variable {records : SortedMap (List UInt8) (List UInt8)} {table : LockTable}

/-- The records are the locks of the table, written down. -/
structure Mirrors (records : SortedMap (List UInt8) (List UInt8)) (table : LockTable) : Prop where
  entries : records.entries = table.locks.entries.map (Prod.map LockKey.toBytes Codec.encode)
  keyed : table.Keyed
  legible : ∀ entry ∈ table.locks.entries, readRecord (Codec.encode entry.2) = .ok entry.2
  inserts : table.failInserts = false
  deletes : table.failDeletes = false

namespace Mirrors

theorem empty : Mirrors .empty .empty where
  entries := rfl
  keyed := nofun
  legible := nofun
  inserts := rfl
  deletes := rfl

theorem find? (mirrors : Mirrors records table) (key : LockKey) :
    records.find? key.toBytes = (table.locks.find? key).map Codec.encode := by
  rw [SortedMap.find?, mirrors.entries]
  exact SortedMap.findInList_map LockKey.toBytes_keepsOrder _ _ _

theorem contains (mirrors : Mirrors records table) (key : LockKey) :
    records.contains key.toBytes = table.locks.contains key := by
  rw [SortedMap.contains, mirrors.find?, Option.isSome_map, SortedMap.contains]

theorem readRecord (mirrors : Mirrors records table) {key : LockKey} {held : RequestLock}
    (found : table.locks.find? key = some held) :
    LockEnvironment.readRecord (Codec.encode held) = .ok held :=
  mirrors.legible (key, held) (SortedMap.find?_eq_some_iff.1 found)

theorem mapM_readRecord (mirrors : Mirrors records table) :
    records.values.mapM LockEnvironment.readRecord = .ok table.locks.values := by
  have written : records.values = table.locks.values.map Codec.encode := by
    rw [SortedMap.values, SortedMap.values, mirrors.entries, List.map_map, List.map_map]
    rfl
  rw [written]
  exact LockEnvironment.mapM_readRecord (List.forall_mem_map.2 mirrors.legible)

theorem sorted (mirrors : Mirrors records table) :
    table.locks.values.Pairwise fun left right => left.key.order right.key = .lt := by
  refine List.pairwise_map.2 (table.locks.increasing.imp_of_mem ?_)
  intro left right isLeft isRight below
  rw [← mirrors.keyed _ _ (SortedMap.find?_eq_some_iff.2 isLeft),
    ← mirrors.keyed _ _ (SortedMap.find?_eq_some_iff.2 isRight)] at below
  exact (LockKey.compare_toBytes _ _).symm.trans below

theorem seed (mirrors : Mirrors records table) {lock : RequestLock}
    (legible : LockEnvironment.readRecord (Codec.encode lock) = .ok lock) :
    Mirrors (records.insert lock.key.toBytes (Codec.encode lock)) (table.seed lock) where
  entries := by
    change SortedMap.insertIntoList _ _ records.entries = _
    rw [mirrors.entries]
    exact SortedMap.insertIntoList_map LockKey.toBytes_keepsOrder _ _ _ _
  keyed := mirrors.keyed.seed lock
  legible entry isEntry := by
    rcases SortedMap.eq_or_mem_of_mem_insert isEntry with rfl | isOld
    · exact legible
    · exact mirrors.legible entry isOld
  inserts := mirrors.inserts
  deletes := mirrors.deletes

theorem erase (mirrors : Mirrors records table) (key : LockKey) :
    Mirrors (records.erase key.toBytes) { table with locks := table.locks.erase key } where
  entries := by
    change SortedMap.eraseFromList _ records.entries = _
    rw [mirrors.entries]
    exact SortedMap.eraseFromList_map LockKey.toBytes_keepsOrder _ _ _
  keyed := mirrors.keyed.erase key
  legible entry isEntry := mirrors.legible entry (List.mem_filter.1 isEntry).1
  inserts := mirrors.inserts
  deletes := mirrors.deletes

end Mirrors

theorem write_of_short {key : LockKey} (short : (Bytes.ofString key.payload).length ≤ maxPayload)
    (environment : LockEnvironment) (value : List UInt8) :
    environment.write key.toBytes value =
      environment.commit (environment.records.insert key.toBytes value)
        (environment.tree.insert key.toBytes value.length) := by
  have fits : key.toBytes.length ≤ maxKeySize := Nat.succ_le_succ short
  rw [write, if_neg]
  rintro (isEmpty | long)
  · cases isEmpty
  · exact Nat.not_lt.2 fits long

/-- What a call comes to on disk and in memory. A change is settled before the file is asked for
room, and then it is the same for every file. -/
inductive Outcome (call : LockCall) (records : SortedMap (List UInt8) (List UInt8))
    (tree : PageTree) (table : LockTable) : Prop
  | kept (answer : LockAnswer)
      (onDisk : ∀ file, call.perform (⟨records, tree, file⟩ : LockEnvironment) =
        (.ok answer, ⟨records, tree, file⟩))
      (inMemory : call.perform table = (.ok answer, table))
      (sorted : ∀ locks, answer = .listed locks →
        locks.Pairwise fun left right => left.key.order right.key = .lt)
  | changed (newRecords : SortedMap (List UInt8) (List UInt8)) (change : PageTree × List PageUse)
      (newTable : LockTable)
      (onDisk : ∀ file, call.perform (⟨records, tree, file⟩ : LockEnvironment) =
        LockCall.settle ⟨records, tree, file⟩
          ((commit ⟨records, tree, file⟩ newRecords change).map fun changed => (true, changed)))
      (inMemory : call.perform table = (.ok (.changed true), newTable))
      (mirrors : Mirrors newRecords newTable)

namespace Mirrors

variable (tree : PageTree)

theorem insert (mirrors : Mirrors records table) {lock : RequestLock}
    (short : (Bytes.ofString lock.key.payload).length ≤ maxPayload) :
    Outcome (.insert lock) records tree table := by
  have inMemory : LockCall.perform table (.insert lock) =
      LockCall.settle table (if table.locks.contains lock.key then .ok (false, table)
        else .ok (true, table.seed lock)) := by
    change LockCall.settle table (table.insertIfAbsent lock) = _
    rw [LockTable.insertIfAbsent, mirrors.inserts]
    rfl
  have onDisk (file : PageFile) :
      LockCall.perform (⟨records, tree, file⟩ : LockEnvironment) (.insert lock) =
        LockCall.settle ⟨records, tree, file⟩ (if table.locks.contains lock.key then
            .ok (false, ⟨records, tree, file⟩)
          else (commit ⟨records, tree, file⟩
            (records.insert lock.key.toBytes (Codec.encode lock))
            (tree.insert lock.key.toBytes (Codec.encode lock).length)).map
              fun changed => (true, changed)) := by
    change LockCall.settle _ (insertIfAbsent lock _) = _
    unfold insertIfAbsent
    dsimp only
    rw [mirrors.contains, write_of_short short]
  cases held : table.locks.contains lock.key with
  | true =>
      rw [held] at inMemory onDisk
      exact .kept (.changed false) onDisk inMemory fun _ isListed => by cases isListed
  | false =>
      rw [held] at inMemory onDisk
      have legible := readRecord_encode (Nat.lt_of_le_of_lt short (by decide))
      exact .changed _ _ _ onDisk inMemory (mirrors.seed legible)

theorem delete (mirrors : Mirrors records table) (key : LockKey) :
    Outcome (.delete key) records tree table := by
  have inMemory : LockCall.perform table (.delete key) =
      (.ok (.changed (table.locks.contains key)),
        { table with locks := table.locks.erase key }) := by
    change LockCall.settle table (table.delete key) = _
    rw [LockTable.delete, mirrors.deletes]
    rfl
  have onDisk (file : PageFile) :
      LockCall.perform (⟨records, tree, file⟩ : LockEnvironment) (.delete key) =
        LockCall.settle ⟨records, tree, file⟩ (if table.locks.contains key then
            remove ⟨records, tree, file⟩ key.toBytes
          else .ok (false, ⟨records, tree, file⟩)) := by
    change LockCall.settle _ (LockEnvironment.delete key _) = _
    rw [LockEnvironment.delete, mirrors.contains]
  cases held : table.locks.contains key with
  | true =>
      rw [held] at inMemory onDisk
      exact .changed (records.erase key.toBytes) (tree.erase key.toBytes) _ onDisk inMemory
        (mirrors.erase key)
  | false =>
      rw [held] at inMemory onDisk
      rw [SortedMap.erase_of_free (Option.not_isSome_iff_eq_none.1 (ne_true_of_eq_false held))]
        at inMemory
      exact .kept (.changed false) onDisk inMemory fun _ isListed => by cases isListed

theorem deleteIfOwned (mirrors : Mirrors records table) (key : LockKey) (id : Uuid) :
    Outcome (.deleteIfOwned key id) records tree table := by
  have inMemory : LockCall.perform table (.deleteIfOwned key id) =
      LockCall.settle table
        (if (table.locks.find? key).any fun held => decide (held.id = id) then
          .ok (true, { table with locks := table.locks.erase key })
        else .ok (false, table)) := by
    change LockCall.settle table (table.deleteIfOwned key id) = _
    rw [LockTable.deleteIfOwned, mirrors.deletes]
    rfl
  have onDisk (file : PageFile) :
      LockCall.perform (⟨records, tree, file⟩ : LockEnvironment) (.deleteIfOwned key id) =
        LockCall.settle ⟨records, tree, file⟩
          (if (table.locks.find? key).any fun held => decide (held.id = id) then
            remove ⟨records, tree, file⟩ key.toBytes
          else .ok (false, ⟨records, tree, file⟩)) := by
    change LockCall.settle _ (LockEnvironment.deleteIfOwned key id _) = _
    rw [LockEnvironment.deleteIfOwned, mirrors.find?]
    cases found : table.locks.find? key with
    | none => rfl
    | some held =>
        simp only [Option.map_some, mirrors.readRecord found, Option.any_some, decide_eq_true_eq]
        rfl
  cases owned : (table.locks.find? key).any fun held => decide (held.id = id) with
  | true =>
      rw [owned] at inMemory onDisk
      exact .changed (records.erase key.toBytes) (tree.erase key.toBytes) _ onDisk inMemory
        (mirrors.erase key)
  | false =>
      rw [owned] at inMemory onDisk
      exact .kept (.changed false) onDisk inMemory fun _ isListed => by cases isListed

theorem get (mirrors : Mirrors records table) (key : LockKey) :
    Outcome (.get key) records tree table := by
  refine .kept (.found (table.locks.find? key)) (fun file => ?_) rfl
    fun _ isListed => by cases isListed
  change ((LockEnvironment.get key _).map LockAnswer.found, _) = _
  rw [LockEnvironment.get, mirrors.find?]
  cases found : table.locks.find? key with
  | none => rfl
  | some held =>
      rw [Option.map_some]
      dsimp only
      rw [mirrors.readRecord found]
      rfl

theorem list (mirrors : Mirrors records table) : Outcome .list records tree table := by
  refine .kept (.listed table.locks.values) (fun file => ?_) rfl fun locks isListed => ?_
  · change ((records.values.mapM LockEnvironment.readRecord).map LockAnswer.listed, _) = _
    rw [mirrors.mapM_readRecord]
    rfl
  · cases isListed
    exact mirrors.sorted

theorem outcome (mirrors : Mirrors records table) {call : LockCall}
    (short : ∀ key ∈ call.key?, (Bytes.ofString key.payload).length ≤ maxPayload) :
    Outcome call records tree table := by
  cases call with
  | insert lock => exact mirrors.insert tree (short lock.key rfl)
  | delete key => exact mirrors.delete tree key
  | deleteIfOwned key id => exact mirrors.deleteIfOwned tree key id
  | get key => exact mirrors.get tree key
  | list => exact mirrors.list tree

end Mirrors

structure Agrees (onDisk : Except StoreError LockAnswer × LockEnvironment)
    (inMemory : Except StoreError LockAnswer × LockTable) : Prop where
  answer : onDisk.1 = inMemory.1
  mirrors : Mirrors onDisk.2.records inMemory.2
  sorted : ∀ locks, onDisk.1 = .ok (.listed locks) →
    locks.Pairwise fun left right => left.key.order right.key = .lt

theorem Mirrors.agrees {call : LockCall} {environment : LockEnvironment}
    (mirrors : Mirrors environment.records table)
    (short : ∀ key ∈ call.key?, (Bytes.ofString key.payload).length ≤ maxPayload)
    (room : (call.perform environment).1 ≠ .error mapFull) :
    Agrees (call.perform environment) (call.perform table) := by
  cases mirrors.outcome environment.tree short with
  | kept answer onDisk inMemory sorted =>
      have performed : call.perform environment = (.ok answer, environment) :=
        onDisk environment.file
      rw [performed, inMemory]
      exact ⟨rfl, mirrors, fun locks isListed => sorted locks (Except.ok.inj isListed)⟩
  | changed newRecords change newTable onDisk inMemory newMirrors =>
      have performed : call.perform environment =
          LockCall.settle environment ((environment.commit newRecords change).map
            fun changed => (true, changed)) := onDisk environment.file
      rw [performed] at room ⊢
      rw [inMemory]
      cases committed : environment.commit newRecords change with
      | ok changed =>
          refine ⟨rfl, ?_, fun _ isListed => by cases isListed⟩
          change Mirrors changed.records newTable
          rw [records_of_commit committed]
          exact newMirrors
      | error failure =>
          rw [committed, error_of_commit committed] at room
          exact absurd rfl room

theorem answers_of_mirrors {calls : List LockCall} {environment : LockEnvironment}
    (mirrors : Mirrors environment.records table)
    (short : ∀ call ∈ calls, ∀ key ∈ call.key?,
      (Bytes.ofString key.payload).length ≤ maxPayload)
    (room : .error mapFull ∉ LockCall.answers environment calls) :
    LockCall.answers environment calls = LockCall.answers table calls ∧
      ∀ locks, .ok (.listed locks) ∈ LockCall.answers environment calls →
        locks.Pairwise fun left right => left.key.order right.key = .lt := by
  induction calls generalizing environment table with
  | nil => exact ⟨rfl, fun _ isListed => (List.not_mem_nil isListed).elim⟩
  | cons call rest ih =>
      obtain ⟨shortCall, shortRest⟩ := List.forall_mem_cons.1 short
      obtain ⟨roomNow, roomLater⟩ := not_or.1 (mt List.mem_cons.2 room)
      obtain ⟨sameAnswer, stillMirrors, sortedNow⟩ := mirrors.agrees shortCall (Ne.symm roomNow)
      obtain ⟨sameAnswers, sortedLater⟩ := ih stillMirrors shortRest roomLater
      refine ⟨?_, fun locks isListed => ?_⟩
      · rw [LockCall.answers, LockCall.answers, sameAnswer, sameAnswers]
      · rcases List.mem_cons.1 isListed with now | later
        · exact sortedNow locks now.symm
        · exact sortedLater locks later

/-- Any calls have room in a file that is large enough. -/
theorem exists_room {calls : List LockCall} (mirrors : Mirrors records table) (tree : PageTree)
    (short : ∀ call ∈ calls, ∀ key ∈ call.key?,
      (Bytes.ofString key.payload).length ≤ maxPayload) :
    ∃ pages, ∀ file : PageFile, file.reached + pages < file.size →
      .error mapFull ∉ LockCall.answers (⟨records, tree, file⟩ : LockEnvironment) calls := by
  induction calls generalizing records tree table with
  | nil => exact ⟨0, fun _ _ => List.not_mem_nil⟩
  | cons call rest ih =>
      obtain ⟨shortCall, shortRest⟩ := List.forall_mem_cons.1 short
      cases mirrors.outcome tree shortCall with
      | kept answer onDisk inMemory sorted =>
          obtain ⟨pages, room⟩ := ih mirrors tree shortRest
          refine ⟨pages, fun file enough => ?_⟩
          rw [LockCall.answers, onDisk]
          exact List.not_mem_cons_of_ne_of_not_mem nofun (room file enough)
      | changed newRecords change newTable onDisk inMemory newMirrors =>
          obtain ⟨pages, room⟩ := ih newMirrors change.1 shortRest
          refine ⟨PageUse.need change.2 + pages, fun file enough => ?_⟩
          have roomNow : file.reached + PageUse.need change.2 < file.size := by omega
          obtain ⟨grown, committed, size, reached⟩ :=
            commit_of_room records tree newRecords change roomNow
          have roomLater : grown.reached + pages < grown.size := by omega
          rw [LockCall.answers, onDisk, committed]
          exact List.not_mem_cons_of_ne_of_not_mem nofun (room grown roomLater)

end LockEnvironment

namespace LockCall

open LockEnvironment

/-- An environment that starts without records answers as a store in memory does, unless it runs out
of room, and any calls have room in a new environment that is large enough. -/
theorem answers_of_environment_eq {calls : List LockCall}
    (short : ∀ call ∈ calls, ∀ key ∈ call.key?, (Bytes.ofString key.payload).length ≤ 510) :
    (∀ environment : LockEnvironment, environment.records = .empty →
      .error mapFull ∉ answers environment calls →
        answers environment calls = answers LockTable.empty calls ∧
          ∀ locks, .ok (.listed locks) ∈ answers environment calls →
            locks.Pairwise fun left right => left.key.order right.key = .lt) ∧
    ∃ pages, ∀ file : PageFile, file.reached + pages < file.size →
      .error mapFull ∉ answers (⟨.empty, .empty, file⟩ : LockEnvironment) calls := by
  refine ⟨fun environment new room => ?_, exists_room .empty .empty short⟩
  have mirrors : Mirrors environment.records .empty := new ▸ Mirrors.empty
  exact answers_of_mirrors mirrors short room

theorem contested_answers_eq :
    let first : RequestLock := ⟨⟨.replicate 16 1⟩, ⟨.groupId, "g"⟩, ⟨7⟩⟩
    let second : RequestLock := ⟨⟨.replicate 16 2⟩, ⟨.groupId, "g"⟩, ⟨8⟩⟩
    let joiner : RequestLock := ⟨⟨.replicate 16 3⟩, ⟨.pendingMembership, "a"⟩, ⟨8⟩⟩
    let calls : List LockCall :=
      [.insert joiner, .insert first, .insert second, .list, .deleteIfOwned first.key second.id,
        .get first.key, .delete joiner.key, .deleteIfOwned first.key first.id, .insert second,
        .list]
    let environment : LockEnvironment := ⟨.empty, .empty, ⟨256, 3, 1, []⟩⟩
    LockEnvironment.create 0 false = .ok environment ∧ environment.records = .empty ∧
      (∀ call ∈ calls, ∀ key ∈ call.key?, (Bytes.ofString key.payload).length ≤ 510) ∧
      .error mapFull ∉ answers environment calls ∧
      answers environment calls = answers LockTable.empty calls ∧
      ∀ locks, .ok (.listed locks) ∈ answers environment calls →
        locks.Pairwise fun left right => left.key.order right.key = .lt := by
  intro first second joiner calls environment
  have short : ∀ call ∈ calls, ∀ key ∈ call.key?, (Bytes.ofString key.payload).length ≤ 510 := by
    decide +kernel
  have room : .error mapFull ∉ answers environment calls := by decide +kernel
  exact ⟨rfl, rfl, short, room, (answers_of_environment_eq short).1 environment rfl room⟩

end LockCall

end Consortium
