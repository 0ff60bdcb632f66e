import Consortium.Lock.Store

/-!
Taking and giving back request locks. A lock is never waited for: while a key is held, a second
request for it fails at once.
-/

namespace Consortium

inductive LockError where
  | duplicate (key : LockKey)
  /-- The store failed; nothing is known about the key. -/
  | store (failure : StoreError)
deriving DecidableEq

namespace LockError

def kind : LockError → String
  | .duplicate _ => "Duplicate"
  | .store failure => "Store." ++ failure.kind

def duplicateMessage (key : LockKey) : String :=
  "duplicate request: " ++ key.kind.name ++ " lock already held for " ++ key.payload

def message : LockError → String
  | .duplicate key => duplicateMessage key
  | .store failure => "lock store failure: " ++ failure.message

def isDuplicate : LockError → Bool
  | .duplicate _ => true
  | .store _ => false

end LockError

namespace RequestLock

variable {σ κ α : Type} [LockStore σ]

/-- Takes the lock for `key`, stamped with `now` and under a new `id`. If the key is held,
`onDuplicate` is run on the state `caller` of the caller. -/
def create (key : LockKey) (id : Uuid) (now : Timestamp) (onDuplicate : κ → κ)
    (caller : κ) (store : σ) : Except LockError RequestLock × κ × σ :=
  let lock : RequestLock := ⟨id, key, now⟩
  match LockStore.insertIfAbsent lock store with
  | .error failure => (.error (.store failure), caller, store)
  | .ok (true, newStore) => (.ok lock, caller, newStore)
  | .ok (false, sameStore) => (.error (.duplicate key), onDuplicate caller, sameStore)

/-- Gives the lock for `key` back, whoever holds it. A failure of the store is let pass. -/
def delete (key : LockKey) (store : σ) : σ :=
  match LockStore.delete key store with
  | .ok (_, newStore) => newStore
  | .error _ => store

/-- Gives `lock` back, and no other lock that has taken its place. A failure of the store is let
pass. -/
def release (lock : RequestLock) (store : σ) : σ :=
  match LockStore.deleteIfOwned lock.key lock.id store with
  | .ok (_, newStore) => newStore
  | .error _ => store

/-- Runs `body` while the lock for `key` is held. The lock is given back however the body
ends. -/
def runExclusive (key : LockKey) (id : Uuid) (now : Timestamp) (onDuplicate : κ → κ)
    (body : κ → σ → α × κ × σ) (caller : κ) (store : σ) : Except LockError α × κ × σ :=
  match create key id now onDuplicate caller store with
  | (.error failure, caller, store) => (.error failure, caller, store)
  | (.ok lock, caller, store) =>
      let (result, caller, store) := body caller store
      (.ok result, caller, release lock store)

def isStale (maxAge : UInt64) (now : Timestamp) (lock : RequestLock) : Bool :=
  decide (maxAge < lock.createdAt.elapsed now)

/-- Removes the listed locks, as far as the store still holds them, until a removal fails. -/
def reapAll : List RequestLock → σ → Except StoreError (List RequestLock) × σ
  | [], store => (.ok [], store)
  | lock :: rest, store =>
      match LockStore.deleteIfOwned lock.key lock.id store with
      | .error failure => (.error failure, store)
      | .ok (removed, newStore) =>
          let (others, finalStore) := reapAll rest newStore
          (others.map fun locks => if removed then lock :: locks else locks, finalStore)

/-- Removes every lock taken more than `maxAge` seconds before `now`, and lists what it removed. -/
def reconcile (maxAge : UInt64) (now : Timestamp) (store : σ) :
    Except LockError (List RequestLock) × σ :=
  match LockStore.list store with
  | .error failure => (.error (.store failure), store)
  | .ok locks =>
      let (removed, newStore) := reapAll (locks.filter (isStale maxAge now)) store
      (removed.mapError .store, newStore)

def held (store : σ) : Except LockError (List RequestLock) :=
  (LockStore.list store).mapError .store

end RequestLock

end Consortium
