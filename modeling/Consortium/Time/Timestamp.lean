import Consortium.Ordered.Basic

/-!
Points in time, in whole seconds since the epoch.
-/

namespace Consortium

open Std

structure Timestamp where
  seconds : UInt64
deriving DecidableEq

namespace Timestamp

instance : Ord Timestamp := ⟨compareOn seconds⟩

instance : TransOrd Timestamp := inferInstanceAs (TransCmp (compareOn seconds))

instance : LawfulEqOrd Timestamp :=
  lawfulEqCmp_compareOn fun equal => by
    rename_i left right
    cases left
    cases right
    cases equal
    rfl

instance : LE Timestamp := ⟨fun left right => left.seconds ≤ right.seconds⟩

instance : LT Timestamp := ⟨fun left right => left.seconds < right.seconds⟩

instance (left right : Timestamp) : Decidable (left ≤ right) :=
  inferInstanceAs (Decidable (left.seconds ≤ right.seconds))

instance (left right : Timestamp) : Decidable (left < right) :=
  inferInstanceAs (Decidable (left.seconds < right.seconds))

def epoch : Timestamp := ⟨0⟩

instance : Inhabited Timestamp := ⟨epoch⟩

def latest (left right : Timestamp) : Timestamp := if left ≤ right then right else left

/-- Seconds from `time` to `now`, none if `time` is not in the past. -/
def elapsed (time now : Timestamp) : UInt64 :=
  if time ≤ now then now.seconds - time.seconds else 0

/-- The time `seconds` later. A clock that passes its last second starts again at the epoch. -/
def advance (time : Timestamp) (seconds : UInt64) : Timestamp := ⟨time.seconds + seconds⟩

def toText (time : Timestamp) : String := toString time.seconds.toNat ++ "s"

end Timestamp

end Consortium
