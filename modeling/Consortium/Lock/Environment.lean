import Consortium.Lock.PageTree
import Consortium.Lock.Store

/-!
A lock store on disk: an ordered map from byte strings to byte strings in a memory-mapped file. A
lock is kept under the binary form of its key, as the binary form of the lock. The records are what
the store answers from; their pages say only whether the file has room for a change.
-/

namespace Consortium

structure LockEnvironment where
  records : SortedMap (List UInt8) (List UInt8)
  tree : PageTree
  file : PageFile
deriving DecidableEq

namespace LockEnvironment

/-- The size that a mapping has to be a multiple of. -/
def pageSize : Nat := 4096

def maxKeySize : Nat := 511

/-- How large a mapping is if nothing is said about its size. -/
def usualSize : Nat := 1048576

def badKeySize : StoreError :=
  .backend ("LMDB error: MDB_BAD_VALSIZE: Unsupported size of key/DB name/data, " ++
    "or wrong DUPFIXED size")

def mapFull : StoreError :=
  .backend "LMDB error: MDB_MAP_FULL: Environment mapsize limit reached"

/-- How large the longest free stretch of addresses is. It ends where the program itself stands, at
two thirds of the 47 bits of an address. -/
def addressRoom : Nat := 0x555555554000

/-- A new environment whose mapping has `mapSize` bytes, or the usual size if that is zero. It
cannot be made where a plain file stands in the place of its directory. -/
def create (mapSize : UInt64) (directoryBlocked : Bool) : Except StoreError LockEnvironment :=
  let size := mapSize.toNat
  if directoryBlocked then .error (.backend "I/O error: Not a directory (os error 20)")
  else if size % pageSize ≠ 0 then
    .error (.backend ("LMDB error: map size (" ++ toString size ++
      ") must be a multiple of the system page size (" ++ toString pageSize ++ ")"))
  else if size > addressRoom then
    .error (.backend "LMDB error: Cannot allocate memory (os error 12)")
  else
    match PageFile.create? ((if size = 0 then usualSize else size) / pageSize) with
    | some file => .ok ⟨.empty, .empty, file⟩
    | none => .error mapFull

/-- Changes the records and their pages, if the file has room for that. -/
def commit (environment : LockEnvironment) (records : SortedMap (List UInt8) (List UInt8))
    (change : PageTree × List PageUse) : Except StoreError LockEnvironment :=
  match environment.file.write? change.2 with
  | some file => .ok ⟨records, change.1, file⟩
  | none => .error mapFull

/-- Writes a record as it is. A key may not be empty. -/
def write (environment : LockEnvironment) (key value : List UInt8) :
    Except StoreError LockEnvironment :=
  if key.isEmpty ∨ key.length > maxKeySize then .error badKeySize
  else
    environment.commit (environment.records.insert key value)
      (environment.tree.insert key value.length)

def remove (environment : LockEnvironment) (key : List UInt8) :
    Except StoreError (Bool × LockEnvironment) :=
  (environment.commit (environment.records.erase key) (environment.tree.erase key)).map
    fun changed => (true, changed)

def readRecord (record : List UInt8) : Except StoreError RequestLock :=
  match Binary.read? record with
  | some lock => .ok lock
  | none => .error .malformedRecord

def insertIfAbsent (lock : RequestLock) (environment : LockEnvironment) :
    Except StoreError (Bool × LockEnvironment) :=
  let key := lock.key.toBytes
  if environment.records.contains key then .ok (false, environment)
  else (environment.write key (Binary.Codec.encode lock)).map fun changed => (true, changed)

def delete (key : LockKey) (environment : LockEnvironment) :
    Except StoreError (Bool × LockEnvironment) :=
  if environment.records.contains key.toBytes then environment.remove key.toBytes
  else .ok (false, environment)

def deleteIfOwned (key : LockKey) (id : Uuid) (environment : LockEnvironment) :
    Except StoreError (Bool × LockEnvironment) :=
  match environment.records.find? key.toBytes with
  | none => .ok (false, environment)
  | some record => do
      let held ← readRecord record
      if held.id = id then environment.remove key.toBytes else .ok (false, environment)

def get (key : LockKey) (environment : LockEnvironment) :
    Except StoreError (Option RequestLock) :=
  match environment.records.find? key.toBytes with
  | none => .ok none
  | some record => (readRecord record).map some

/-- The locks in the order of their keys. One malformed record spoils the whole list. -/
def list (environment : LockEnvironment) : Except StoreError (List RequestLock) :=
  environment.records.values.mapM readRecord

instance : LockStore LockEnvironment where
  insertIfAbsent := insertIfAbsent
  delete := delete
  deleteIfOwned := deleteIfOwned
  get := get
  list := list

end LockEnvironment

end Consortium
