import Consortium.Bytes.Hex
import Consortium.Ordered.Basic

/-!
Transaction ids: digests of what a transaction says.
-/

namespace Consortium

open Std

structure TxHash where
  bytes : Block 32
deriving DecidableEq

namespace TxHash

instance : Ord TxHash := ⟨compareOn bytes⟩

instance : TransOrd TxHash := inferInstanceAs (TransCmp (compareOn bytes))

instance : LawfulEqOrd TxHash :=
  lawfulEqCmp_compareOn fun equal => by
    rename_i left right
    cases left
    cases right
    cases equal
    rfl

/-- The id that no transaction is expected to have. -/
def zero : TxHash := ⟨Vector.replicate 32 0⟩

def isZero (hash : TxHash) : Bool := decide (hash = zero)

def toHex (hash : TxHash) : String := Hex.encode hash.bytes.toList

/-- The first four bytes, enough to tell ids apart in a message. -/
def abbreviated (hash : TxHash) : String :=
  "TxHash(" ++ Hex.encode (hash.bytes.toList.take 4) ++ ")"

end TxHash

end Consortium
