import Consortium.Proofs.Contract.Perspective
import Consortium.Proofs.Crypto.Transparent
import Mathlib.Logic.Relation

/-!
What the signatures of a transaction count for. Parties collect them in different orders and pass on
whatever they received, so the list may repeat itself and carry signatures that are forged, stale or
made in another's name. A verdict depends on none of this: only on the keys that endorse the
transaction, which are those with some signature in the list that verifies.
-/

namespace Consortium

namespace Transaction

section Endorsing

variable [Suite] {tx other : Transaction}

def Endorses (tx : Transaction) (key : PublicKey) : Prop :=
  ∃ signature ∈ tx.signatures, signature.signer = key ∧ tx.verifies signature

/-- The changes that a list of signatures over `tx` may undergo on its way. Read backwards, the last
two drop a copy and drop what does not verify. -/
inductive Reshuffle (tx : Transaction) :
    List TransactionSignature → List TransactionSignature → Prop
  | reorder {signatures others : List TransactionSignature} :
      signatures.Perm others → Reshuffle tx signatures others
  | again {signatures : List TransactionSignature} {signature : TransactionSignature} :
      signature ∈ signatures → Reshuffle tx signatures (signature :: signatures)
  | rubbish {signatures : List TransactionSignature} {signature : TransactionSignature} :
      tx.verifies signature = false → Reshuffle tx signatures (signature :: signatures)

theorem Reshuffle.mem_iff {before after : List TransactionSignature}
    (reshuffled : tx.Reshuffle before after) {signature : TransactionSignature}
    (verifies : tx.verifies signature) : signature ∈ after ↔ signature ∈ before := by
  cases reshuffled with
  | reorder permuted => exact permuted.mem_iff.symm
  | again isSignature =>
      rw [List.mem_cons, or_iff_right_of_imp]
      rintro rfl
      exact isSignature
  | rubbish fails =>
      rw [List.mem_cons, or_iff_right_of_imp]
      rintro rfl
      rw [fails] at verifies
      cases verifies

/-- Any number of changes, made and unmade, leaves the signatures that verify in the list. -/
theorem mem_iff_of_reshuffled {before after : List TransactionSignature}
    (reshuffled : Relation.EqvGen tx.Reshuffle before after) {signature : TransactionSignature}
    (verifies : tx.verifies signature) : signature ∈ after ↔ signature ∈ before := by
  induction reshuffled with
  | rel _ _ step => exact step.mem_iff verifies
  | refl _ => exact Iff.rfl
  | symm _ _ _ ih => exact ih.symm
  | trans _ _ _ _ _ first second => exact second.trans first

/-- The id does not cover the signatures, so every list is checked against the same one. -/
theorem verifies_of_signatures (signatures : List TransactionSignature) :
    { tx with signatures := signatures }.verifies = tx.verifies := rfl

theorem endorses_of_reshuffled {signatures : List TransactionSignature}
    (reshuffled : Relation.EqvGen tx.Reshuffle tx.signatures signatures) (key : PublicKey) :
    { tx with signatures := signatures }.Endorses key ↔ tx.Endorses key := by
  refine exists_congr fun signature => ?_
  rw [verifies_of_signatures]
  constructor
  · intro ⟨isSignature, isSigner, verifies⟩
    exact ⟨(mem_iff_of_reshuffled reshuffled verifies).1 isSignature, isSigner, verifies⟩
  · intro ⟨isSignature, isSigner, verifies⟩
    exact ⟨(mem_iff_of_reshuffled reshuffled verifies).2 isSignature, isSigner, verifies⟩

theorem signers_eq_iff : other.signers = tx.signers ↔
    ∀ key, other.Endorses key ↔ tx.Endorses key := by
  simp only [Endorses, ← mem_signers]
  exact ⟨fun same key => by rw [same], SortedSet.ext⟩

/-- No contract can tell the two apart. -/
theorem looksAlike_of_endorses (inputs : other.inputs = tx.inputs)
    (outputs : other.outputs = tx.outputs) (references : other.references = tx.references)
    (commands : other.commands = tx.commands)
    (endorsed : ∀ key, other.Endorses key ↔ tx.Endorses key) (kind : EntityKind) :
    tx.LooksAlike kind other where
  inputs := inputs
  outputs := outputs
  references := by rw [referredMemberships, references, referredMemberships]
  commands := by rw [commandsOf, commands, commandsOf]
  signers := signers_eq_iff.2 endorsed

end Endorsing

end Transaction

namespace Registry

/-- Transactions with the same contents that the same keys endorse get the same verdict, and where
it is an error, the same error down to what it says. So it does not matter how the signatures were
collected and what else came with them. -/
theorem verdict_of_endorsements [Suite] (tx : Transaction) :
    (∀ other : Transaction, other.inputs = tx.inputs → other.outputs = tx.outputs →
      other.references = tx.references → other.commands = tx.commands →
      (∀ key, other.Endorses key ↔ tx.Endorses key) →
      standard.verify other = standard.verify tx) ∧
    ∀ signatures, Relation.EqvGen tx.Reshuffle tx.signatures signatures →
      standard.verify { tx with signatures := signatures } = standard.verify tx := by
  have sameVerdict (other : Transaction) (inputs : other.inputs = tx.inputs)
      (outputs : other.outputs = tx.outputs) (references : other.references = tx.references)
      (commands : other.commands = tx.commands)
      (endorsed : ∀ key, other.Endorses key ↔ tx.Endorses key) :
      standard.verify other = standard.verify tx :=
    standard_verify_eq inputs outputs fun kind _ =>
      Transaction.looksAlike_of_endorses inputs outputs references commands endorsed kind
  refine ⟨sameVerdict, fun signatures reshuffled => ?_⟩
  exact sameVerdict _ rfl rfl rfl rfl (Transaction.endorses_of_reshuffled reshuffled)

section Specimens

open Transparent

/-- The founder's own signature, but in the name of the joiner. -/
def borrowed : TransactionSignature :=
  ⟨joiner.owningKey, @Suite.sign suite (keys 1).privateKey []⟩

/-- A signature of the founder that does not belong to this transaction. -/
def stale : TransactionSignature :=
  ⟨founder.owningKey, @Suite.sign suite (keys 1).privateKey []⟩

set_option maxRecDepth 10000 in
/-- The founding transaction with its signature twice and two that do not verify is as good as
before, and without the one that does, the others make no difference to what is missing. -/
theorem verdict_of_rubbish :
    letI := suite
    standard.verify founding = .ok () ∧
      standard.verify { founding with signatures := borrowed :: founding.signatures ++
        stale :: founding.signatures } = .ok () ∧
      standard.verify { founding with signatures := [] } =
        .error (.signerMismatch [founder.owningKey] []) ∧
      standard.verify { founding with signatures := [stale, borrowed] } =
        .error (.signerMismatch [founder.owningKey] []) := by
  let _ := suite
  have accepted : standard.verify founding = .ok () := by decide +kernel
  have unsigned : standard.verify { founding with signatures := [] } =
      .error (.signerMismatch [founder.owningKey] []) := by decide +kernel
  have borrowedFails : founding.verifies borrowed = false := by decide +kernel
  have staleFails : founding.verifies stale = false := by decide +kernel
  refine ⟨accepted, ?_, unsigned, ?_⟩
  · refine ((verdict_of_endorsements founding).2 _ ?_).trans accepted
    obtain ⟨own, single⟩ : ∃ own, founding.signatures = [own] := ⟨_, rfl⟩
    rw [single]
    have twice : founding.Reshuffle [own] [own, own] := .again (List.mem_singleton_self own)
    have behind : founding.Reshuffle [stale, own, own] [own, stale, own] :=
      .reorder (List.Perm.swap own stale [own])
    exact ((Relation.EqvGen.rel _ _ twice).trans _ _ _ (.rel _ _ (.rubbish staleFails))).trans _ _ _
      ((Relation.EqvGen.rel _ _ behind).trans _ _ _ (.rel _ _ (.rubbish borrowedFails)))
  · refine ((verdict_of_endorsements { founding with signatures := [] }).1
      { founding with signatures := [stale, borrowed] } rfl rfl rfl rfl fun key => ?_).trans
      unsigned
    refine iff_of_false ?_ fun ⟨_, isSignature, _⟩ => List.not_mem_nil isSignature
    intro ⟨signature, isSignature, _, verifies⟩
    rw [Transaction.verifies_of_signatures] at verifies
    rcases List.mem_pair.1 isSignature with rfl | rfl
    · exact Bool.false_ne_true (staleFails.symm.trans verifies)
    · exact Bool.false_ne_true (borrowedFails.symm.trans verifies)

end Specimens

end Registry

end Consortium
