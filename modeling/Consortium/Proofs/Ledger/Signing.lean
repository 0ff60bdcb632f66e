import Consortium.Proofs.Contract.Endorsement
import Consortium.Proofs.Network.Cosigning
import Mathlib.Data.List.Dedup

/-!
Signing again and again. A call to sign takes the earlier signatures of its key out and puts a new
one at the end, whatever else is in the list. So after any number of calls the last one for each key
is what counts, and the signatures of all other keys are left as they were.
-/

namespace Consortium

namespace Transaction

variable [Suite] {tx : Transaction}

/-- Signs with the key pairs of these seeds, one after another. -/
def signInTurn (tx : Transaction) (seeds : List PrivateKey) : Transaction :=
  seeds.foldl (fun tx seed => tx.sign (.ofSeed seed)) tx

/-- The signature that the key pair of a seed makes over the id. -/
def signatureBy (tx : Transaction) (seed : PrivateKey) : TransactionSignature :=
  ⟨Suite.publicKey seed, Suite.sign seed tx.id.bytes.toList⟩

/-- Leaves out each call that is followed by another one for the same key. -/
def lastCalls : List PrivateKey → List PrivateKey
  | [] => []
  | seed :: rest =>
      if Suite.publicKey seed ∈ rest.map Suite.publicKey then lastCalls rest
      else seed :: lastCalls rest

/-- Of several calls for one key `dedup` keeps the place of the last one, too. -/
theorem map_publicKey_lastCalls (seeds : List PrivateKey) :
    (lastCalls seeds).map Suite.publicKey = (seeds.map Suite.publicKey).dedup := by
  induction seeds with
  | nil => rfl
  | cons seed rest ih =>
      rw [lastCalls, List.map_cons]
      split
      · rename_i again
        rw [ih, List.dedup_cons_of_mem again]
      · rename_i isLast
        rw [List.map_cons, ih, List.dedup_cons_of_notMem isLast]

/-! ### One call after another -/

theorem signInTurn_eq (tx : Transaction) (seeds : List PrivateKey) :
    tx.signInTurn seeds = { tx with signatures := (tx.signInTurn seeds).signatures } := by
  induction seeds generalizing tx with
  | nil => rfl
  | cons seed rest ih => exact ih (tx.sign (.ofSeed seed))

theorem id_signInTurn (tx : Transaction) (seeds : List PrivateKey) :
    (tx.signInTurn seeds).id = tx.id := by
  rw [signInTurn_eq]
  rfl

theorem signatures_signInTurn (tx : Transaction) (seeds : List PrivateKey) :
    (tx.signInTurn seeds).signatures =
      tx.signatures.filter (fun signature => signature.signer ∉ seeds.map Suite.publicKey) ++
        (lastCalls seeds).map tx.signatureBy := by
  induction seeds generalizing tx with
  | nil => simp [signInTurn, lastCalls]
  | cons seed rest ih =>
      have sameContents : (tx.sign (.ofSeed seed)).signatureBy = tx.signatureBy := rfl
      have afterFirst : (tx.signInTurn (seed :: rest)).signatures =
          ((tx.sign (.ofSeed seed)).signInTurn rest).signatures := rfl
      have others : (tx.sign (.ofSeed seed)).signatures =
          tx.signatures.filter (fun signature => signature.signer ≠ Suite.publicKey seed) ++
            [tx.signatureBy seed] := rfl
      rw [afterFirst, ih, sameContents, others, List.filter_append, List.filter_filter,
        lastCalls, List.append_assoc]
      congr 1
      · refine List.filter_congr fun signature _ => ?_
        rw [List.map_cons, Bool.and_comm, ← Bool.decide_and]
        exact decide_eq_decide.2 (List.mem_cons.not.trans not_or).symm
      · -- The signature just made stays only if its key does not sign again.
        by_cases again : Suite.publicKey seed ∈ rest.map Suite.publicKey
        · rw [if_pos again, List.filter_cons_of_neg (by simpa [signatureBy] using again)]
          rfl
        · rw [if_neg again, List.filter_cons_of_pos (by simpa [signatureBy] using again)]
          rfl

theorem mem_signers_signInTurn {seeds : List PrivateKey}
    (signs : ∀ seed ∈ seeds, (KeyPair.ofSeed seed).Signs) {key : PublicKey} :
    key ∈ (tx.signInTurn seeds).signers ↔
      key ∈ tx.signers ∨ key ∈ seeds.map Suite.publicKey := by
  induction seeds generalizing tx with
  | nil => simp [signInTurn]
  | cons seed rest ih =>
      obtain ⟨firstSigns, othersSign⟩ := List.forall_mem_cons.1 signs
      have afterFirst : tx.signInTurn (seed :: rest) =
          (tx.sign (.ofSeed seed)).signInTurn rest := rfl
      rw [afterFirst, ih othersSign, mem_signers_sign firstSigns, List.map_cons, List.mem_cons,
        or_assoc, or_left_comm]
      rfl

/-- Each call changes the list of signatures only, so every one signs the same id. After all of them
the signatures of other keys stand in front as they did before, and behind them each key that signed
has the one of its last call. -/
theorem last_signatures_count (tx : Transaction) (seeds : List PrivateKey)
    (signs : ∀ seed ∈ seeds, (KeyPair.ofSeed seed).Signs) :
    let signed := tx.signInTurn seeds
    let keys := seeds.map Suite.publicKey
    (∀ made, made <+: seeds → (tx.signInTurn made).id = tx.id) ∧
      signed = { tx with signatures := signed.signatures } ∧
      (signed.signatures =
        tx.signatures.filter (fun signature => signature.signer ∉ keys) ++
          (lastCalls seeds).map tx.signatureBy) ∧
      (lastCalls seeds).map Suite.publicKey = keys.dedup ∧
      (∀ key ∈ keys, (signed.signatures.map TransactionSignature.signer).count key = 1) ∧
      signed.signers = tx.signers.union (.ofList keys) := by
  intro signed keys
  have signatures : signed.signatures =
      tx.signatures.filter (fun signature => signature.signer ∉ keys) ++
        (lastCalls seeds).map tx.signatureBy := signatures_signInTurn tx seeds
  refine ⟨fun made _ => id_signInTurn tx made, signInTurn_eq tx seeds, signatures,
    map_publicKey_lastCalls seeds, fun key isKey => ?_, SortedSet.ext fun key => ?_⟩
  · have others : key ∉ (tx.signatures.filter fun signature => signature.signer ∉ keys).map
        TransactionSignature.signer := by
      intro isSigner
      obtain ⟨signature, isOther, rfl⟩ := List.mem_map.1 isSigner
      exact of_decide_eq_true (List.mem_filter.1 isOther).2 isKey
    have own : ((lastCalls seeds).map tx.signatureBy).map TransactionSignature.signer =
        keys.dedup := by
      rw [← map_publicKey_lastCalls, List.map_map]
      rfl
    rw [signatures, List.map_append, List.count_append, List.count_eq_zero.2 others, own,
      List.count_dedup, if_pos isKey]
  · rw [mem_signers_signInTurn signs, SortedSet.mem_union, SortedSet.mem_ofList]

section Specimens

open Transparent

/-- A transaction with a stale signature of the founder, one in the name of the joiner and a good
one of a third party. -/
def contested : Transaction :=
  letI := suite
  let unsigned := { Transaction.empty with signatures := [Registry.stale, Registry.borrowed] }
  unsigned.sign (keys 3)

def seedOf (byte : UInt8) : PrivateKey := ⟨Vector.replicate 32 byte⟩

omit [Suite] in
/-- The founder signs, the joiner signs, and the founder signs again: the third party's signature is
left in front, and the founder's is the last one. -/
theorem last_signatures_of_founder_and_joiner :
    letI := suite
    let seeds := [seedOf 1, seedOf 2, seedOf 1]
    (∀ seed ∈ seeds, (KeyPair.ofSeed seed).Signs) ∧
      (contested.signInTurn seeds).id = contested.id ∧
      (contested.signInTurn seeds).signatures =
        contested.signatures.drop 2 ++ [contested.signatureBy (seedOf 2),
          contested.signatureBy (seedOf 1)] ∧
      contested.signers.toList = [(keys 3).publicKey] ∧
      (contested.signInTurn seeds).signers.toList =
        [(keys 1).publicKey, (keys 2).publicKey, (keys 3).publicKey] := by
  let _ := suite
  have signs : ∀ seed ∈ [seedOf 1, seedOf 2, seedOf 1], (KeyPair.ofSeed seed).Signs :=
    fun seed _ => verify_sign seed
  obtain ⟨sameId, _, signatures, _, _, signers⟩ := last_signatures_count contested _ signs
  refine ⟨signs, sameId _ (List.prefix_refl _), signatures.trans ?_, by decide +kernel, ?_⟩
  · decide +kernel
  · rw [signers]
    decide +kernel

end Specimens

end Transaction

end Consortium
