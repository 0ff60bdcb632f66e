import Consortium.Binary.Identity

/-!
Request locks: marks that a request is in flight for a natural key. At most one lock is held for a
key at any time.
-/

namespace Consortium

open Std

inductive LockKind where
  | networkId
  | groupId
  | groupName
  | pendingMembership
deriving DecidableEq

namespace LockKind

def all : List LockKind := [.networkId, .groupId, .groupName, .pendingMembership]

def name : LockKind → String
  | .networkId => "NETWORK_ID"
  | .groupId => "GROUP_ID"
  | .groupName => "GROUP_NAME"
  | .pendingMembership => "PENDING_MEMBERSHIP"

def tag : LockKind → UInt8
  | .networkId => 1
  | .groupId => 2
  | .groupName => 3
  | .pendingMembership => 4

theorem tag_injective {left right : LockKind} (equal : left.tag = right.tag) : left = right := by
  revert equal
  cases left <;> cases right <;> decide

end LockKind

structure LockKey where
  kind : LockKind
  payload : String
deriving DecidableEq

namespace LockKey

def toBytes (key : LockKey) : List UInt8 := key.kind.tag :: Bytes.ofString key.payload

theorem toBytes_injective {left right : LockKey} (equal : left.toBytes = right.toBytes) :
    left = right := by
  cases left
  cases right
  have ⟨tagEqual, payloadEqual⟩ := List.cons.inj equal
  cases LockKind.tag_injective tagEqual
  cases Bytes.ofString_injective payloadEqual
  rfl

/-! Keys are ordered as their binary forms: by kind, then by the bytes of the payload. -/

instance : Ord LockKey := ⟨compareOn toBytes⟩

instance : TransOrd LockKey := inferInstanceAs (TransCmp (compareOn toBytes))

instance : LawfulEqOrd LockKey := lawfulEqCmp_compareOn toBytes_injective

def toText (key : LockKey) : String := key.kind.name ++ ":" ++ key.payload

end LockKey

/-- A lock that is held. Its id tells it from later locks for the same key. -/
structure RequestLock where
  id : Uuid
  key : LockKey
  createdAt : Timestamp
deriving DecidableEq

namespace Binary

instance : Codec LockKind := .ofAlternatives LockKind.all

instance : Codec RequestLock :=
  .via (fun lock => (lock.id, lock.key.kind, lock.key.payload, lock.createdAt))
    fun (id, kind, payload, createdAt) => ⟨id, ⟨kind, payload⟩, createdAt⟩

end Binary

end Consortium
