import Consortium.Binary.Ledger
import Consortium.Crypto.Suite

/-!
Transactions: the states they consume, create and refer to, their commands, and the signatures
collected so far. The id commits to everything but the signatures, so signing does not change what
is signed.
-/

namespace Consortium

/-- A claim that the holder of `signer` has signed a transaction id. -/
structure TransactionSignature where
  signer : PublicKey
  signature : Signature
deriving DecidableEq

structure Transaction where
  inputs : List StateAndRef
  outputs : List TransactionState
  references : List StateAndRef
  commands : List Command
  signatures : List TransactionSignature
deriving DecidableEq

namespace Transaction

def empty : Transaction := ⟨[], [], [], [], []⟩

instance : Inhabited Transaction := ⟨empty⟩

def signedContents (tx : Transaction) : List UInt8 :=
  Binary.Codec.encode (tx.inputs, tx.outputs, tx.references, tx.commands)

def inputsOf (tx : Transaction) (kind : EntityKind) : List StateAndRef :=
  tx.inputs.filter fun input => decide (input.state.data.kind = kind)

def outputsOf (tx : Transaction) (kind : EntityKind) : List TransactionState :=
  tx.outputs.filter fun output => decide (output.data.kind = kind)

section Signing

variable [Suite]

def id (tx : Transaction) : TxHash := ⟨Suite.digest tx.signedContents⟩

def verifies (tx : Transaction) (signature : TransactionSignature) : Bool :=
  Suite.verify signature.signer tx.id.bytes.toList signature.signature

/-- Adds a signature over the id, in place of an earlier one of the same key. -/
def sign (tx : Transaction) (keys : KeyPair) : Transaction :=
  { tx with
    signatures :=
      tx.signatures.filter (fun signature => decide (signature.signer ≠ keys.publicKey)) ++
        [⟨keys.publicKey, Suite.sign keys.privateKey tx.id.bytes.toList⟩] }

/-- The keys with a signature that verifies. A forged or stale signature counts as none. -/
def signers (tx : Transaction) : SortedSet PublicKey :=
  .ofList ((tx.signatures.filter tx.verifies).map TransactionSignature.signer)

end Signing

end Transaction

namespace Binary

instance : Codec TransactionSignature :=
  .via (fun signature => (signature.signer, signature.signature))
    fun (signer, signature) => ⟨signer, signature⟩

instance : Codec Transaction :=
  .via (fun tx => (tx.inputs, tx.outputs, tx.references, tx.commands, tx.signatures))
    fun (inputs, outputs, references, commands, signatures) =>
      ⟨inputs, outputs, references, commands, signatures⟩

end Binary

end Consortium
