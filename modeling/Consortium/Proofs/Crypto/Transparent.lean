import Consortium.Crypto.Suite
import Consortium.Ledger.Transaction

/-!
A suite without secrets. A public key is its own seed, and a signature shows its key and a checksum
of what was signed. It protects nothing, but signing and verifying fit together, and runs under it
can be computed.
-/

namespace Consortium

namespace Transparent

def checksum (bytes : List UInt8) : Nat :=
  bytes.foldl (fun sum byte => (sum * 257 + byte.toNat + 1) % Nat.pow 256 32) 0

def digest (bytes : List UInt8) : Block 32 :=
  ⟨(Bytes.littleEndian 32 (checksum bytes)).toArray, by simp⟩

def stamp (seed : Block 32) (message : List UInt8) : Signature := ⟨seed ++ digest message⟩

@[reducible] def suite : Suite where
  digest := digest
  publicKey seed := ⟨seed.bytes⟩
  sign seed message := stamp seed.bytes message
  verify key message signature := decide (signature = stamp key.bytes message)

theorem verify_sign (seed : PrivateKey) (message : List UInt8) :
    suite.verify (suite.publicKey seed) message (suite.sign seed message) = true :=
  decide_eq_true rfl

/-! Parties that sign under this suite, each with the keys of one repeated byte, and entities that
they have just issued. -/

def keys (seed : UInt8) : KeyPair := @KeyPair.ofSeed suite ⟨Vector.replicate 32 seed⟩

def party (name : String) (seed : UInt8) : Party := ⟨name, (keys seed).publicKey⟩

def founder : Party := party "Founder" 1

def joiner : Party := party "Joiner" 2

def issuedBy (issuer : Party) (seed : UInt8) : EntityHeader where
  networkId := ⟨"net"⟩
  linearId := .ofUuid ⟨Vector.replicate 16 seed⟩
  issuer := issuer
  issued := ⟨1⟩
  modified := ⟨1⟩
  participants := .singleton issuer

def foundersMembership : MembershipState :=
  { issuedBy founder 1 with
    identity := ⟨founder, none⟩
    status := .active
    roles := .singleton .operator }

def joinersMembership : MembershipState :=
  { issuedBy joiner 1 with
    identity := ⟨joiner, none⟩
    status := .pending
    roles := .empty }

def groupOf (issuer : Party) : GroupState := { issuedBy issuer 2 with name := none }

/-! The first transaction of a network, and what it leaves on a ledger. -/

def founding : Transaction :=
  @Transaction.sign suite
    { Transaction.empty with
      outputs := [.ofMembership foundersMembership, .ofGroup (groupOf founder)]
      commands :=
        [⟨.membership .bootstrap, .singleton founder.owningKey⟩,
          ⟨.group .bootstrap, .singleton founder.owningKey⟩] } (keys 1)

def foundersRecord : StateAndRef :=
  ⟨.ofMembership foundersMembership, ⟨@Transaction.id suite founding, 0⟩⟩

end Transparent

end Consortium
