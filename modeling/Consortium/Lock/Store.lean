import Consortium.Lock.Key

/-!
Lock stores: where held locks are kept, with one lock a key. An operation that fails leaves the
store as it was.
-/

namespace Consortium

inductive StoreError where
  | backend (reason : String)
  | malformedRecord
deriving DecidableEq

namespace StoreError

def kind : StoreError → String
  | .backend _ => "Backend"
  | .malformedRecord => "Serialization"

def message : StoreError → String
  | .backend reason => "storage backend error: " ++ reason
  | .malformedRecord => "serialization error: malformed record"

end StoreError

/-- A type of stores. Each operation is one atomic step. -/
class LockStore (σ : Type) where
  /-- Keeps a lock unless its key is held; tells whether it did. -/
  insertIfAbsent : RequestLock → σ → Except StoreError (Bool × σ)
  /-- Removes the lock for a key; tells whether there was one. -/
  delete : LockKey → σ → Except StoreError (Bool × σ)
  /-- Removes the lock for a key if it is the one with this id; tells whether it was. -/
  deleteIfOwned : LockKey → Uuid → σ → Except StoreError (Bool × σ)
  get : LockKey → σ → Except StoreError (Option RequestLock)
  list : σ → Except StoreError (List RequestLock)

end Consortium
