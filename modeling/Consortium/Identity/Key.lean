import Consortium.Bytes.Hex
import Consortium.Identity.Error
import Consortium.Ordered.Basic

/-!
Keys and signatures as plain data. What they mean is up to a signature suite.
-/

namespace Consortium

open Std

/-- A public key. Parties own one; commands list those that have to sign. -/
structure PublicKey where
  bytes : Block 32
deriving DecidableEq

/-- The secret half of a key pair: the seed that the pair is derived from. -/
structure PrivateKey where
  bytes : Block 32
deriving DecidableEq

structure Signature where
  bytes : Block 64
deriving DecidableEq

structure KeyPair where
  publicKey : PublicKey
  privateKey : PrivateKey
deriving DecidableEq

namespace PublicKey

instance : Ord PublicKey := ⟨compareOn bytes⟩

instance : TransOrd PublicKey := inferInstanceAs (TransCmp (compareOn bytes))

instance : LawfulEqOrd PublicKey :=
  lawfulEqCmp_compareOn fun equal => by
    rename_i left right
    cases left
    cases right
    cases equal
    rfl

def toHex (key : PublicKey) : String := Hex.encode key.bytes.toList

/-- The first four bytes, enough to tell keys apart in a message. -/
def abbreviated (key : PublicKey) : String :=
  "PublicKey(" ++ Hex.encode (key.bytes.toList.take 4) ++ ")"

def ofHex (text : String) : Except IdentityError PublicKey :=
  match Hex.decode text with
  | .error failure => .error (.invalidKey failure.message)
  | .ok bytes =>
      match Block.ofList? bytes with
      | some block => .ok ⟨block⟩
      | none => .error (.invalidKey ("expected 32 bytes, got " ++ toString bytes.length))

end PublicKey

end Consortium
