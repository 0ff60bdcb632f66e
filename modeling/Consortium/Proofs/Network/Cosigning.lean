import Consortium.Proofs.Network.Proposal

/-!
Who has signed a proposal. The signatures of a key pair verify under its public key, so a key that
has signed is a signer from then on. A proposal that comes back from the ledger has been signed by
those who had signed it before and by all whom its commands require, and by nobody else.
-/

namespace Consortium

theorem Ledger.mem_requiredSigners {tx : Transaction} {key : PublicKey} :
    key ∈ requiredSigners tx ↔ ∃ command ∈ tx.commands, key ∈ command.signers := by
  rw [requiredSigners, SortedSet.mem_ofList, List.mem_flatMap]
  rfl

section Signing

variable [Suite]

/-- What is signed with these keys verifies under the public one. -/
def KeyPair.Signs (keys : KeyPair) : Prop :=
  ∀ message, Suite.verify keys.publicKey message (Suite.sign keys.privateKey message) = true

omit [Suite] in
theorem Transparent.signs_keys (seed : UInt8) : @KeyPair.Signs suite (keys seed) :=
  verify_sign ⟨Vector.replicate 32 seed⟩

namespace Transaction

variable {tx : Transaction} {keys : KeyPair}

theorem signers_eq_empty (unsigned : tx.signatures = []) : tx.signers = .empty := by
  rw [signers, unsigned]
  rfl

theorem mem_signers_sign (signs : keys.Signs) {key : PublicKey} :
    key ∈ (tx.sign keys).signers ↔ key = keys.publicKey ∨ key ∈ tx.signers := by
  simp only [mem_signers, sign, List.mem_append, List.mem_filter, List.mem_singleton,
    decide_eq_true_eq]
  constructor
  · rintro ⟨signature, ⟨earlier, _⟩ | rfl, isSigner, verifies⟩
    · exact .inr ⟨signature, earlier, isSigner, verifies⟩
    · exact .inl isSigner.symm
  · by_cases own : key = keys.publicKey
    · intro _
      exact ⟨_, .inr rfl, own.symm, signs _⟩
    · rintro (same | ⟨signature, earlier, rfl, verifies⟩)
      · exact absurd same own
      · exact ⟨signature, .inl ⟨earlier, own⟩, rfl, verifies⟩

end Transaction

namespace Ledger

variable {ledger : Ledger} {tx signed : Transaction}

/-- The ledger signs for a key with keys of which it is the public one. -/
def KeysFit (ledger : Ledger) : Prop :=
  ∀ key keys, ledger.keyring.find? key = some keys → keys.publicKey = key ∧ keys.Signs

theorem keysFit_empty (contracts : Registry) : (empty contracts).KeysFit := by
  intro key keys found
  cases found

theorem KeysFit.register (fit : ledger.KeysFit) {keys : KeyPair} (signs : keys.Signs) :
    (ledger.register keys).KeysFit := by
  intro key found isKey
  rw [Ledger.register, SortedMap.find?_insert] at isKey
  split at isKey
  · rename_i same
    cases isKey
    exact ⟨(Std.LawfulEqCmp.eq_of_compare same).symm, signs⟩
  · exact fit key found isKey

theorem KeysFit.mem_signers_of_signAll (fit : ledger.KeysFit) {keys : List PublicKey}
    (collected : ledger.signAll tx keys = .ok signed) {key : PublicKey} :
    key ∈ signed.signers ↔ key ∈ keys ∨ key ∈ tx.signers := by
  induction keys generalizing tx with
  | nil =>
      cases collected
      rw [List.mem_nil_iff, false_or]
  | cons first rest ih =>
      unfold signAll at collected
      split at collected
      · rename_i held found
        obtain ⟨rfl, signs⟩ := fit first held found
        rw [ih collected, Transaction.mem_signers_sign signs, List.mem_cons, or_assoc,
          or_left_comm]
      · cases collected

theorem KeysFit.mem_signers_of_collectSignatures (fit : ledger.KeysFit)
    (collected : (collectSignatures tx ledger).1 = .ok signed) {key : PublicKey} :
    key ∈ signed.signers ↔ key ∈ requiredSigners tx ∨ key ∈ tx.signers := by
  rw [fit.mem_signers_of_signAll collected, SortedSet.mem_toList, SortedSet.mem_difference,
    and_or_right]
  exact and_iff_left (em' _)

end Ledger

end Signing

end Consortium
