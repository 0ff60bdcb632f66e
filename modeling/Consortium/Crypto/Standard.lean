import Consortium.Crypto.Blake2b
import Consortium.Crypto.Ed25519
import Consortium.Crypto.Suite

/-!
The suite that networks use: BLAKE2b-256 digests and Ed25519 signatures.
-/

namespace Consortium

instance standardSuite : Suite where
  digest := Blake2b.digest
  publicKey := Ed25519.publicKey
  sign := Ed25519.sign
  verify := Ed25519.verify

end Consortium
