import Consortium.Crypto.Curve
import Consortium.Crypto.Sha512
import Consortium.Identity.Key

/-!
Ed25519 signatures. Verification asks for a reduced scalar and for the very bytes of the first half
of the signature; it does not multiply by the cofactor and takes keys of small order.
-/

namespace Consortium.Ed25519

/-- The scalar that a seed stands for and the secret bytes that make its nonces. -/
structure ExpandedKey where
  scalar : Nat
  nonceSecret : List UInt8

/-- A secret scalar has bit 254 set, higher bits clear and is a multiple of eight. -/
def clamp (value : Nat) : Nat :=
  let top := Nat.pow 2 254
  top + value % top / 8 * 8

def expand (key : PrivateKey) : ExpandedKey :=
  let hash := (Sha512.digest key.bytes.toList).toList
  ⟨clamp (Bytes.toNat (hash.take 32)), hash.drop 32⟩

def hashToScalar (parts : List (List UInt8)) : Nat :=
  Bytes.toNat (Sha512.digest parts.flatten).toList % groupOrder

def publicKey (key : PrivateKey) : PublicKey :=
  ⟨(Point.base.multiple (expand key).scalar).compress⟩

def sign (key : PrivateKey) (message : List UInt8) : Signature :=
  let expanded := expand key
  let nonce := hashToScalar [expanded.nonceSecret, message]
  let commitment := (Point.base.multiple nonce).compress
  let challenge :=
    hashToScalar [commitment.toList, (publicKey key).bytes.toList, message]
  let response := (nonce + challenge * expanded.scalar) % groupOrder
  ⟨Vector.ofFn fun index =>
    if low : index.val < 32 then commitment[index.val]
    else UInt8.ofNat (response >>> (8 * (index.val - 32)))⟩

def verify (key : PublicKey) (message : List UInt8) (signature : Signature) : Bool :=
  let bytes := signature.bytes.toList
  let commitment := bytes.take 32
  let response := Bytes.toNat (bytes.drop 32)
  match Point.decompress? key.bytes with
  | none => false
  | some point =>
      if response < groupOrder then
        let challenge := hashToScalar [commitment, key.bytes.toList, message]
        let expected :=
          (Point.base.multiple response).add (point.negate.multiple challenge)
        expected.compress.toList == commitment
      else false

end Consortium.Ed25519
