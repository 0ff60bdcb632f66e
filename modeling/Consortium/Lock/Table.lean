import Consortium.Lock.Store

/-!
A lock store in memory. Its insertions and deletions can be made to fail.
-/

namespace Consortium

structure LockTable where
  locks : SortedMap LockKey RequestLock
  failInserts : Bool
  failDeletes : Bool
deriving DecidableEq

namespace LockTable

def empty : LockTable := ⟨.empty, false, false⟩

instance : Inhabited LockTable := ⟨empty⟩

/-- Puts a lock in place whether or not its key is held. -/
def seed (table : LockTable) (lock : RequestLock) : LockTable :=
  { table with locks := table.locks.insert lock.key lock }

def size (table : LockTable) : Nat := table.locks.size

def isEmpty (table : LockTable) : Bool := table.size = 0

def insertIfAbsent (lock : RequestLock) (table : LockTable) :
    Except StoreError (Bool × LockTable) :=
  if table.failInserts then .error (.backend "injected insert failure")
  else if table.locks.contains lock.key then .ok (false, table)
  else .ok (true, table.seed lock)

def delete (key : LockKey) (table : LockTable) : Except StoreError (Bool × LockTable) :=
  if table.failDeletes then .error (.backend "injected delete failure")
  else .ok (table.locks.contains key, { table with locks := table.locks.erase key })

def deleteIfOwned (key : LockKey) (id : Uuid) (table : LockTable) :
    Except StoreError (Bool × LockTable) :=
  if table.failDeletes then .error (.backend "injected delete failure")
  else if (table.locks.find? key).any fun held => decide (held.id = id) then
    .ok (true, { table with locks := table.locks.erase key })
  else .ok (false, table)

instance : LockStore LockTable where
  insertIfAbsent := insertIfAbsent
  delete := delete
  deleteIfOwned := deleteIfOwned
  get key table := .ok (table.locks.find? key)
  list table := .ok table.locks.values

end LockTable

end Consortium
