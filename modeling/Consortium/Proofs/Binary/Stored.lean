import Consortium.Lock.Key
import Consortium.Proofs.Binary.RoundTrip
import Consortium.Proofs.Crypto.Transparent

/-!
The binary forms that ids commit to and that stores keep. Each of them delimits itself: it is read
back whatever follows it, no part of it can be read, and none is the beginning of another one. So
what is hashed for the id of a transaction determines the whole transaction but its signatures.
-/

namespace Consortium.Binary

open Codec Bounded

/-! ### Identities -/

instance : Bounded PublicKey := .via PublicKey.bytes

instance : LawfulCodec PublicKey := .via fun _ => rfl

instance : Bounded Signature := .via Signature.bytes

instance : LawfulCodec Signature :=
  @LawfulCodec.via _ _ .ofMeasuredBlock _ (.ofMeasuredBlock (by decide)) _ _ fun _ => rfl

instance : Bounded Uuid := .via Uuid.bytes

instance : LawfulCodec Uuid :=
  @LawfulCodec.via _ _ .ofMeasuredBlock _ (.ofMeasuredBlock (by decide)) _ _ fun _ => rfl

instance : Bounded LinearId := .via fun id => (id.externalId, id.uuid)

instance : LawfulCodec LinearId := by
  delta instCodecLinearId
  exact .via fun _ => rfl

instance : Bounded NetworkId := .via NetworkId.text

instance : LawfulCodec NetworkId := .via fun _ => rfl

instance : Bounded Party := .via fun party => (party.name, party.owningKey)

instance : LawfulCodec Party := by
  delta instCodecParty
  exact .via fun _ => rfl

instance : Bounded BusinessIdentity := .via fun business => (business.kind, business.attributes)

instance : LawfulCodec BusinessIdentity := by
  delta instCodecBusinessIdentity
  exact .via fun _ => rfl

instance : Bounded MemberIdentity := .via fun identity => (identity.party, identity.business)

instance : LawfulCodec MemberIdentity := by
  delta instCodecMemberIdentity
  exact .via fun _ => rfl

instance : Bounded Permission := .unlimited

instance : LawfulCodec Permission :=
  .ofAlternatives (by intro permission; cases permission <;> decide) (by decide)

instance : Bounded Role := .via fun role => (role.name, role.permissions)

instance : LawfulCodec Role := by
  delta instCodecRole
  exact .via fun _ => rfl

instance : Bounded Timestamp := .via Timestamp.seconds

instance : LawfulCodec Timestamp := .via fun _ => rfl

/-! ### States, commands and signatures -/

instance : Bounded TxHash := .via TxHash.bytes

instance : LawfulCodec TxHash := .via fun _ => rfl

instance : Bounded ContractId := .via ContractId.name

instance : LawfulCodec ContractId := .via fun _ => rfl

instance : Bounded MembershipStatus := .unlimited

instance : LawfulCodec MembershipStatus :=
  .ofAlternatives (by intro status; cases status <;> decide) (by decide)

instance : Bounded GroupState :=
  .via fun state => (state.networkId, state.name, state.linearId, state.issuer, state.issued,
    state.modified, state.participants)

instance : LawfulCodec GroupState := by
  delta instCodecGroupState
  exact .via fun _ => rfl

instance : Bounded MembershipState :=
  .via fun state => (state.identity, state.networkId, state.status, state.roles, state.linearId,
    state.issuer, state.issued, state.modified, state.participants)

instance : LawfulCodec MembershipState := by
  delta instCodecMembershipState
  exact .via fun _ => rfl

instance : Bounded ContractState :=
  .via fun
    | .group state => Sum.inl state
    | .membership state => Sum.inr state

instance : LawfulCodec ContractState := by
  delta instCodecContractState
  refine .via fun state => ?_
  cases state <;> rfl

instance : Bounded TransactionState := .via fun state => (state.data, state.contract)

instance : LawfulCodec TransactionState := by
  delta instCodecTransactionState
  exact .via fun _ => rfl

instance : Bounded StateRef := .via fun reference => (reference.txId, reference.index)

instance : LawfulCodec StateRef := by
  delta instCodecStateRef
  exact .via fun _ => rfl

instance : Bounded StateAndRef := .via fun recorded => (recorded.state, recorded.reference)

instance : LawfulCodec StateAndRef := by
  delta instCodecStateAndRef
  exact .via fun _ => rfl

instance : Bounded GroupCommand := .unlimited

instance : LawfulCodec GroupCommand :=
  .ofAlternatives (by intro command; cases command <;> decide) (by decide)

instance : Bounded MembershipCommand := .unlimited

instance : LawfulCodec MembershipCommand :=
  .ofAlternatives (by intro command; cases command <;> decide) (by decide)

instance : Bounded CommandValue :=
  .via fun
    | .group command => Sum.inl command
    | .membership command => Sum.inr command

instance : LawfulCodec CommandValue := by
  delta instCodecCommandValue
  refine .via fun value => ?_
  cases value <;> rfl

instance : Bounded Command := .via fun command => (command.value, command.signers)

instance : LawfulCodec Command := by
  delta instCodecCommand
  exact .via fun _ => rfl

instance : Bounded TransactionSignature :=
  .via fun signature => (signature.signer, signature.signature)

instance : LawfulCodec TransactionSignature := by
  delta instCodecTransactionSignature
  exact .via fun _ => rfl

instance : Bounded Transaction :=
  .via fun tx => (tx.inputs, tx.outputs, tx.references, tx.commands, tx.signatures)

instance : LawfulCodec Transaction := by
  delta instCodecTransaction
  exact .via fun _ => rfl

/-! ### Locks -/

instance : Bounded LockKind := .unlimited

instance : LawfulCodec LockKind :=
  .ofAlternatives (by intro kind; cases kind <;> decide) (by decide)

instance : Bounded RequestLock :=
  .via fun lock => (lock.id, lock.key.kind, lock.key.payload, lock.createdAt)

instance : LawfulCodec RequestLock := by
  delta instCodecRequestLock
  exact .via fun _ => rfl

/-! ### What is stored or hashed -/

structure Format where
  Value : Type
  [codec : Codec Value]
  [bounded : Bounded Value]

attribute [instance] Format.codec Format.bounded

/-- What ids commit to, and all that is kept of transactions and locks, down to their fields. -/
def stored : List Format :=
  [⟨List StateAndRef × List TransactionState × List StateAndRef × List Command⟩,
    ⟨Transaction⟩, ⟨TransactionSignature⟩, ⟨Command⟩, ⟨CommandValue⟩, ⟨GroupCommand⟩,
    ⟨MembershipCommand⟩, ⟨StateAndRef⟩, ⟨StateRef⟩, ⟨TransactionState⟩, ⟨ContractState⟩,
    ⟨GroupState⟩, ⟨MembershipState⟩, ⟨ContractId⟩, ⟨TxHash⟩, ⟨MembershipStatus⟩,
    ⟨RequestLock⟩, ⟨LockKind⟩,
    ⟨MemberIdentity⟩, ⟨BusinessIdentity⟩, ⟨Party⟩, ⟨Role⟩, ⟨Permission⟩, ⟨LinearId⟩, ⟨NetworkId⟩,
    ⟨Uuid⟩, ⟨PublicKey⟩, ⟨Signature⟩, ⟨Timestamp⟩,
    ⟨List StateAndRef⟩, ⟨List TransactionState⟩, ⟨List Command⟩, ⟨List TransactionSignature⟩,
    ⟨SortedSet Party⟩, ⟨SortedSet Role⟩, ⟨SortedSet Permission⟩, ⟨SortedSet PublicKey⟩,
    ⟨SortedMap String String⟩, ⟨Option BusinessIdentity⟩, ⟨Option String⟩, ⟨String⟩, ⟨UInt32⟩,
    ⟨UInt64⟩]

theorem lawful_of_stored : ∀ format ∈ stored, LawfulCodec format.Value := by
  simp only [stored, List.forall_mem_cons]
  repeat' apply And.intro
  all_goals first | infer_instance | exact fun format impossible => nomatch impossible

theorem stored_form_delimits_itself {format : Format} (isStored : format ∈ stored)
    {value : format.Value} (fits : Fits value) :
    (∀ rest, decode (encode value ++ rest) = some (value, rest)) ∧
      (∀ part, part <+: encode value → part ≠ encode value →
        (read? part : Option format.Value) = none) ∧
      ∀ other : format.Value, Fits other → encode value <+: encode other → value = other := by
  have := lawful_of_stored format isStored
  exact ⟨LawfulCodec.legible fits, fun _ within strict => read?_of_isPrefix fits within strict,
    fun _ otherFits within => eq_of_encode_isPrefix fits otherFits within⟩

open Transparent

theorem founding_delimits_itself :
    (⟨Transaction⟩ : Format) ∈ stored ∧ Fits founding ∧
      (∀ rest, decode (encode founding ++ rest) = some (founding, rest)) ∧
      (∀ part, part <+: encode founding → part ≠ encode founding →
        (read? part : Option Transaction) = none) ∧
      ∀ other : Transaction, Fits other → encode founding <+: encode other → founding = other := by
  have isStored : (⟨Transaction⟩ : Format) ∈ stored := .tail _ (.head _)
  have fits : Fits founding := by decide +kernel
  exact ⟨isStored, fits, stored_form_delimits_itself isStored fits⟩

end Consortium.Binary

namespace Consortium.Transaction

open Binary Bounded

theorem signedContents_eq_iff {tx other : Transaction}
    (fits : Fits (tx.inputs, tx.outputs, tx.references, tx.commands))
    (otherFits : Fits (other.inputs, other.outputs, other.references, other.commands)) :
    tx.signedContents = other.signedContents ↔
      tx.inputs = other.inputs ∧ tx.outputs = other.outputs ∧ tx.references = other.references ∧
        tx.commands = other.commands := by
  rw [signedContents, signedContents, encode_eq_iff fits otherFits]
  simp only [Prod.mk.injEq]

/-- The id is the digest of the binary form of the four fields, whoever has signed, and this form
determines the fields. So transactions with other contents have other ids, unless their digests
collide. -/
theorem id_commits_to_contents [Suite] {tx other : Transaction}
    (fits : Fits (tx.inputs, tx.outputs, tx.references, tx.commands))
    (otherFits : Fits (other.inputs, other.outputs, other.references, other.commands)) :
    tx.signedContents = Codec.encode (tx.inputs, tx.outputs, tx.references, tx.commands) ∧
      (∀ signatures, { tx with signatures }.id = ⟨Suite.digest tx.signedContents⟩) ∧
      (tx.signedContents = other.signedContents ↔
        tx.inputs = other.inputs ∧ tx.outputs = other.outputs ∧ tx.references = other.references ∧
          tx.commands = other.commands) ∧
      ((Suite.digest tx.signedContents = Suite.digest other.signedContents →
          tx.signedContents = other.signedContents) →
        (tx.id = other.id ↔ tx.signedContents = other.signedContents)) := by
  refine ⟨rfl, fun _ => rfl, signedContents_eq_iff fits otherFits, fun apart => ?_⟩
  constructor
  · intro sameId
    exact apart (congrArg TxHash.bytes sameId)
  · intro sameContents
    rw [id, id, sameContents]

open Transparent

/-- Without its signatures the founding has the same id, with its commands exchanged it has another
one. -/
theorem id_of_founding :
    letI := suite
    let reversed : Transaction := { founding with commands := founding.commands.reverse }
    Fits (founding.inputs, founding.outputs, founding.references, founding.commands) ∧
      Fits (reversed.inputs, reversed.outputs, reversed.references, reversed.commands) ∧
      { founding with signatures := [] }.id = ⟨digest founding.signedContents⟩ ∧
      founding.id = ⟨digest founding.signedContents⟩ ∧
      founding.signedContents ≠ reversed.signedContents ∧ founding.id ≠ reversed.id := by
  let _ := suite
  have fits : Fits (founding.inputs, founding.outputs, founding.references, founding.commands) := by
    decide +kernel
  have reversedFits : Fits (founding.inputs, founding.outputs, founding.references,
      founding.commands.reverse) := by
    decide +kernel
  let reversed : Transaction := { founding with commands := founding.commands.reverse }
  have apart : Suite.digest founding.signedContents ≠ Suite.digest reversed.signedContents := by
    decide +kernel
  obtain ⟨_, ids, contents, distinguish⟩ := @id_commits_to_contents suite founding reversed fits
    reversedFits
  have differ : founding.signedContents ≠ reversed.signedContents := by
    intro same
    exact absurd (contents.1 same).2.2.2 (by decide +kernel)
  refine ⟨fits, reversedFits, ids [], ids founding.signatures, differ, fun sameId => ?_⟩
  exact differ ((distinguish fun same => absurd same apart).1 sameId)

end Consortium.Transaction
