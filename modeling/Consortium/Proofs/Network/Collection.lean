import Consortium.Proofs.Contract.Endorsement
import Consortium.Proofs.Ledger.Order
import Consortium.Proofs.Network.Settlement

/-!
The collection of signatures. The ledger goes through the keys that are required and have not
signed yet, in their order, and signs for each that it knows. Whatever else is in the list of
signatures, it succeeds if it knows all of them, and otherwise names the first that it does not
know.
-/

namespace Consortium

namespace Ledger

section Signing

variable [Suite] {ledger : Ledger} {tx signed : Transaction}

/-! ### The key that nobody signs for -/

/-- A command requires the key, it has not signed, and the ledger does not know it. -/
structure Lacks (ledger : Ledger) (tx : Transaction) (key : PublicKey) : Prop where
  required : ∃ command ∈ tx.commands, key ∈ command.signers
  unsigned : ¬ tx.Endorses key
  unknown : ledger.keyring.contains key = false

theorem mem_unsigned_iff {key : PublicKey} :
    key ∈ ((requiredSigners tx).difference tx.signers).toList ↔
      (∃ command ∈ tx.commands, key ∈ command.signers) ∧ ¬ tx.Endorses key := by
  rw [SortedSet.mem_toList, SortedSet.mem_difference, mem_requiredSigners, Transaction.mem_signers]
  rfl

theorem exists_signed_iff :
    (∃ signed, (collectSignatures tx ledger).1 = .ok signed) ↔ ∀ key, ¬ ledger.Lacks tx key := by
  refine signAll_isOk_iff.trans (forall_congr' fun key => ?_)
  rw [mem_unsigned_iff]
  constructor
  · intro known lacks
    have isKnown := known ⟨lacks.required, lacks.unsigned⟩
    exact Bool.false_ne_true (lacks.unknown.symm.trans isKnown)
  · intro supplied unsigned
    by_contra unknown
    exact supplied ⟨unsigned.1, unsigned.2, Bool.eq_false_iff.2 unknown⟩

/-- The ledger knows all keys that come before the one at which it gives up. -/
theorem split_of_signAll {keys : List PublicKey} {failure : NetworkError}
    (refused : ledger.signAll tx keys = .error failure) :
    ∃ before key after, keys = before ++ key :: after ∧
      (∀ earlier ∈ before, ledger.keyring.contains earlier = true) ∧
      ledger.keyring.contains key = false ∧ failure = .submission (.noCounterparty key) := by
  induction keys generalizing tx with
  | nil => cases refused
  | cons first rest ih =>
      unfold signAll at refused
      cases found : ledger.keyring.find? first with
      | none =>
          rw [found] at refused
          cases refused
          have unknown : ledger.keyring.contains first = false := by
            rw [SortedMap.contains, found]
            rfl
          exact ⟨[], first, rest, rfl, List.forall_mem_nil _, unknown, rfl⟩
      | some keys =>
          rw [found] at refused
          obtain ⟨before, key, after, rfl, known, unknown, isFailure⟩ := ih refused
          have knowsFirst : ledger.keyring.contains first = true := by
            rw [SortedMap.contains, found]
            rfl
          exact ⟨first :: before, key, after, rfl, List.forall_mem_cons.2 ⟨knowsFirst, known⟩,
            unknown, isFailure⟩

theorem exists_least_of_collectSignatures {failure : NetworkError}
    (refused : (collectSignatures tx ledger).1 = .error failure) :
    ∃ key, failure = .submission (.noCounterparty key) ∧ ledger.Lacks tx key ∧
      ∀ other, ledger.Lacks tx other → other = key ∨ key.bytes.toList < other.bytes.toList := by
  have increasing := ((requiredSigners tx).difference tx.signers).increasing
  have unsigned (key : PublicKey) :
      key ∈ ((requiredSigners tx).difference tx.signers).toList ↔
        (∃ command ∈ tx.commands, key ∈ command.signers) ∧ ¬ tx.Endorses key :=
    mem_unsigned_iff
  obtain ⟨before, key, after, split, known, unknown, isFailure⟩ := split_of_signAll refused
  rw [split] at increasing
  simp only [split] at unsigned
  obtain ⟨required, notSigned⟩ :=
    (unsigned key).1 (List.mem_append_right _ List.mem_cons_self)
  refine ⟨key, isFailure, ⟨required, notSigned, unknown⟩, fun other lacks => ?_⟩
  rcases List.mem_append.1 ((unsigned other).2 ⟨lacks.required, lacks.unsigned⟩) with
    isBefore | isLater
  · exact absurd (known other isBefore) (Bool.eq_false_iff.1 lacks.unknown)
  · rcases List.mem_cons.1 isLater with same | isAfter
    · exact .inl same
    · have fromKey := (List.pairwise_append.1 increasing).2.1
      exact .inr (PublicKey.compare_eq_lt_iff.1 ((List.pairwise_cons.1 fromKey).1 other isAfter))

/-! ### What comes back -/

/-- Signatures are collected from the keys that have not signed yet if the ledger knows every one of
them. Nothing but the list of signatures changes then, and no key that counted as a signer before
ceases to do so. Otherwise the least key that is lacking is named. -/
theorem required_signatures_are_collected (fit : ledger.KeysFit) (tx : Transaction) :
    ((∃ signed, (collectSignatures tx ledger).1 = .ok signed) ↔
      ∀ command ∈ tx.commands, ∀ key ∈ command.signers,
        tx.Endorses key ∨ ledger.keyring.contains key = true) ∧
    (∀ signed, (collectSignatures tx ledger).1 = .ok signed →
      signed = { tx with signatures := signed.signatures } ∧ signed.id = tx.id ∧
        (∀ key, tx.Endorses key → signed.Endorses key) ∧
        ∀ key, key ∈ signed.signers ↔
          key ∈ tx.signers ∨ ∃ command ∈ tx.commands, key ∈ command.signers) ∧
    ∀ failure, (collectSignatures tx ledger).1 = .error failure →
      ∃ key, failure = .submission (.noCounterparty key) ∧ ledger.Lacks tx key ∧
        ∀ other, ledger.Lacks tx other → other = key ∨ key.bytes.toList < other.bytes.toList := by
  refine ⟨exists_signed_iff.trans ⟨fun supplied command carried key required => ?_,
    fun supplied key lacks => ?_⟩, fun signed collected => ?_,
    fun failure => exists_least_of_collectSignatures⟩
  · by_contra neither
    obtain ⟨unsigned, unknown⟩ := not_or.1 neither
    exact supplied key ⟨⟨command, carried, required⟩, unsigned, Bool.eq_false_iff.2 unknown⟩
  · obtain ⟨command, carried, required⟩ := lacks.required
    rcases supplied command carried key required with endorsed | known
    · exact lacks.unsigned endorsed
    · exact Bool.false_ne_true (lacks.unknown.symm.trans known)
  · have same := unsigned_of_signAll collected
    have signers (key : PublicKey) : key ∈ signed.signers ↔
        key ∈ requiredSigners tx ∨ key ∈ tx.signers :=
      fit.mem_signers_of_collectSignatures collected
    refine ⟨?_, ?_, fun key endorsed => ?_, fun key => ?_⟩
    · injection same with inputs outputs references commands
      cases signed
      cases tx
      simp_all
    · have sameId : signed.unsigned.id = tx.unsigned.id := congrArg Transaction.id same
      exact sameId
    · exact Transaction.mem_signers.1 ((signers key).2 (.inr (Transaction.mem_signers.2 endorsed)))
    · rw [signers, mem_requiredSigners, or_comm]

end Signing

section Specimens

open Transparent

def ofTwo : Ledger :=
  letI := suite
  ((empty .standard).register (keys 1)).register (keys 2)

/-- A command that asks for signatures, with one that was made by another and one that is not for
this transaction. -/
def asking (parties : List Party) : Transaction :=
  { Transaction.empty with
    commands := [⟨.membership .request, .ofList (parties.map (·.owningKey))⟩]
    signatures := [Registry.borrowed, Registry.stale] }

/-- The two whom the ledger knows get signatures in place of those that do not verify. Of two whom
it does not know, it names the one with the lesser key. -/
theorem signatures_of_two :
    letI := suite
    (∃ signed, (collectSignatures (asking [joiner, founder]) ofTwo).1 = .ok signed ∧
      signed.id = (asking [joiner, founder]).id ∧ founder.owningKey ∈ signed.signers ∧
      joiner.owningKey ∈ signed.signers) ∧
    (collectSignatures (asking [party "Fourth" 4, founder, party "Third" 3]) ofTwo).1 =
      .error (.submission (.noCounterparty (party "Third" 3).owningKey)) := by
  let _ := suite
  have fit : ofTwo.KeysFit := ((keysFit_empty _).register (signs_keys 1)).register (signs_keys 2)
  constructor
  · obtain ⟨succeeds, result, _⟩ :=
      required_signatures_are_collected fit (asking [joiner, founder])
    have known : ∀ command ∈ (asking [joiner, founder]).commands, ∀ key ∈ command.signers,
        ofTwo.keyring.contains key = true := by
      decide +kernel
    obtain ⟨signed, collected⟩ := succeeds.2 fun command carried key required =>
      .inr (known command carried key required)
    obtain ⟨_, sameId, _, signers⟩ := result signed collected
    have required : ∀ party ∈ [founder, joiner], ∃ command ∈ (asking [joiner, founder]).commands,
        party.owningKey ∈ command.signers := by
      decide +kernel
    exact ⟨signed, collected, sameId, (signers _).2 (.inr (required founder (by simp))),
      (signers _).2 (.inr (required joiner (by simp)))⟩
  · let tx := asking [party "Fourth" 4, founder, party "Third" 3]
    obtain ⟨_, _, refusal⟩ := required_signatures_are_collected fit tx
    have required : ∀ command ∈ tx.commands, ∀ key ∈ command.signers,
        ofTwo.keyring.contains key = true ∨ key = (party "Fourth" 4).owningKey ∨
          key = (party "Third" 3).owningKey := by
      decide +kernel
    have third : ofTwo.Lacks tx (party "Third" 3).owningKey := by
      refine ⟨by decide +kernel, fun endorsed => ?_, by decide +kernel⟩
      exact absurd (Transaction.mem_signers.2 endorsed) (by decide +kernel)
    have isRefused : ∃ failure, (collectSignatures tx ofTwo).1 = .error failure := by
      cases outcome : (collectSignatures tx ofTwo).1 with
      | error failure => exact ⟨failure, rfl⟩
      | ok signed => exact absurd third (exists_signed_iff.1 ⟨signed, outcome⟩ _)
    obtain ⟨failure, refused⟩ := isRefused
    obtain ⟨key, isFailure, lacks, least⟩ := refusal failure refused
    obtain ⟨command, carried, isRequired⟩ := lacks.required
    have isThird : key = (party "Third" 3).owningKey := by
      rcases required command carried key isRequired with known | rfl | isThird
      · exact absurd known (Bool.eq_false_iff.1 lacks.unknown)
      · exact absurd (least _ third) (by decide +kernel)
      · exact isThird
    rw [refused, isFailure, isThird]

end Specimens

end Ledger

end Consortium
