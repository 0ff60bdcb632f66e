import Consortium.Identity.Key

/-!
What the ledger asks of cryptography: a digest that names transactions and signatures over it. The
rules of the ledger are stated for any suite.
-/

namespace Consortium

class Suite where
  digest : List UInt8 → Block 32
  publicKey : PrivateKey → PublicKey
  sign : PrivateKey → List UInt8 → Signature
  verify : PublicKey → List UInt8 → Signature → Bool

def KeyPair.ofSeed [Suite] (seed : PrivateKey) : KeyPair := ⟨Suite.publicKey seed, seed⟩

end Consortium
