import Consortium.Proofs.Network.Conduct
import Consortium.Proofs.Network.Standoff

/-!
Proposals are not at fault. Whatever happens meanwhile and whatever the clock shows, a contract
finds nothing wrong with how a coordinator's proposal is put together. It can only refuse what the
proposal does, or find a signature too many. A founding and an application it does not refuse at
all.
-/

namespace Consortium

/-- The error is about how a transaction is put together: its commands, the number and the contracts
of its states, its references, and what a version has in common with the one before. -/
def ValidationError.faultsProposal : ValidationError → Bool
  | .missingCommand _ | .multipleCommands _ _ | .tooManyInputs _ _ | .tooManyOutputs _ _
  | .tooManyReferences _ | .referenceNotMembership | .wrongContract _ _ _
  | .issuedAfterModified _ _ _ | .immutableFieldChanged _ _ | .modifiedDecreased _ _ _
  | .initiatorUnresolved _ | .unknownContract _ => true
  | .authorization _ | .signerMismatch _ _ | .rejected _ _ => false

theorem ValidationError.IsRefusal.faultless {failure : ValidationError}
    (isRefusal : failure.IsRefusal) : failure.faultsProposal = false := by
  cases isRefusal <;> rfl

theorem Transaction.WellFormed.of_unsigned {tx draft : Transaction} {kind : EntityKind}
    {command : Command} (same : tx.unsigned = draft.unsigned)
    (wellFormed : draft.WellFormed kind command) : tx.WellFormed kind command := by
  have ofDraft : draft.unsigned.WellFormed kind command :=
    ⟨wellFormed.commands, wellFormed.family, wellFormed.touches, wellFormed.ofKind,
      wellFormed.inShape, wellFormed.oneInput, wellFormed.oneOutput, wellFormed.references,
      wellFormed.succeeds, wellFormed.ownerKept, wellFormed.initiator⟩
  rw [← same] at ofDraft
  exact ⟨ofDraft.commands, ofDraft.family, ofDraft.touches, ofDraft.ofKind, ofDraft.inShape,
    ofDraft.oneInput, ofDraft.oneOutput, ofDraft.references, ofDraft.succeeds, ofDraft.ownerKept,
    ofDraft.initiator⟩

section Signing

variable [Suite]

namespace Coordinator

variable {coordinator : Coordinator} {ids : FreshIds} {view : View Ledger} {request : Request}
  {plan : Plan} {signed : Transaction}

/-- A request for which nobody has to be asked is signed by its coordinator alone. -/
theorem Plans.accepted_of_issuance (plans : coordinator.Plans ids view request plan)
    (issues : request.needsInitiator = false) (genuine : coordinator.Genuine)
    (cosigned : plan.Cosigned coordinator signed) :
    Registry.standard.verify signed = .ok () := by
  obtain ⟨⟨now, proposes⟩, signers⟩ := cosigned
  obtain ⟨_, _, _, commands⟩ := Transaction.contents_of_unsigned proposes
  have ownSignature (isOwn : ∀ command ∈ (plan.draft now).commands,
      command.signers = .singleton coordinator.identity.owningKey) :
      signed.signers = .singleton coordinator.identity.owningKey := by
    refine SortedSet.ext fun key => ?_
    rw [signers key, SortedSet.mem_singleton, genuine.ownsKeys, commands]
    refine or_iff_left_of_imp fun ⟨command, carried, required⟩ => ?_
    rw [isOwn command carried, SortedSet.mem_singleton, genuine.ownsKeys] at required
    exact required
  cases plans with
  | found founding networkId =>
      refine standard_verify_founding proposes (ownSignature ?_)
      exact List.forall_mem_cons.2 ⟨rfl, List.forall_mem_singleton.2 rfl⟩
  | apply application =>
      exact standard_verify_application proposes (ownSignature (List.forall_mem_singleton.2 rfl))
  | change | revoke | createGroup | modifyGroup | exitGroup => cases issues

theorem Plans.wellFormed_of_cosigned (plans : coordinator.Plans ids view request plan)
    (seen : ∀ recorded, view.Shows recorded → recorded.state.InShape)
    (needs : request.needsInitiator) (cosigned : plan.Cosigned coordinator signed) :
    ∃ kind command, signed.WellFormed kind command := by
  obtain ⟨now, proposes⟩ := cosigned.drafted
  obtain ⟨kind, command, wellFormed⟩ := plans.wellFormed seen needs now
  exact ⟨kind, command, wellFormed.of_unsigned proposes⟩

end Coordinator

theorem Transaction.WellFormed.faultless {tx : Transaction} {kind : EntityKind} {command : Command}
    (wellFormed : tx.WellFormed kind command) {failure : ValidationError}
    (fails : Registry.standard.verify tx = .error failure) : failure.faultsProposal = false := by
  by_cases signed : tx.signers = command.signers
  · exact (wellFormed.isRefusal_of_verify signed fails).faultless
  · rw [wellFormed.verify_of_signers_ne signed] at fails
    cases fails
    rfl

/-- A rejection comes from a contract that has seen the signed proposal. -/
theorem Operation.Sound.exists_refused {operation : Operation Ledger} (sound : operation.Sound)
    {failure : ValidationError} (rejected : operation.failure? = some (.rejected failure)) :
    ∃ view task signed, operation.Pursues view task ∧
      task.plan.Cosigned operation.coordinator signed ∧
      Registry.standard.verify signed = .error failure := by
  obtain ⟨coordinator, request, ids, stage⟩ := operation
  obtain ⟨genuine, stands⟩ := sound
  cases stage with
  | asked => cases rejected
  | refused other =>
      cases rejected
      exact absurd rfl (stands failure)
  | running view task =>
      have releases := Operation.failure?_running.1 rejected
      have pursues : Operation.Pursues _ view task := stands
      cases pursues.sound with
      | locking progress | collecting progress | verifying progress | finalizing progress =>
          cases releases.symm.trans progress
      | @rejected signed other progress cosigned refused =>
          cases releases.symm.trans progress
          rw [pursues.coordinator] at cosigned
          exact ⟨view, task, signed, pursues, cosigned, refused⟩
      | ended progress never =>
          cases releases.symm.trans progress
          exact absurd rfl (never failure)

namespace Interleaving

variable {σ : Type} [LockStore σ]

theorem rejected_without_fault {locks : σ} {clock : Timestamp} {state : Interleaving Ledger σ}
    (reaches : Reaches KeepsOrder (opened (.empty .standard) locks clock) state)
    {operation : Operation Ledger} (member : operation ∈ state.operations)
    {failure : ValidationError} (rejected : operation.failure? = some (.rejected failure)) :
    operation.request.needsInitiator ∧ failure.faultsProposal = false := by
  have sound := reaches.sound.operations operation member
  obtain ⟨view, task, signed, pursues, cosigned, refused⟩ := sound.exists_refused rejected
  cases needs : operation.request.needsInitiator with
  | false =>
      have accepted := pursues.plans.accepted_of_issuance needs sound.genuine cosigned
      cases accepted.symm.trans refused
  | true =>
      obtain ⟨kind, command, wellFormed⟩ :=
        pursues.plans.wellFormed_of_cosigned pursues.seen needs cosigned
      exact ⟨rfl, wellFormed.faultless refused⟩

end Interleaving

end Signing

section Specimen

open Transparent

namespace Interleaving

theorem create_underStandard (name : String) (seed : UInt8)
    (named : Text.isBlank name = false) :
    letI := suite
    Coordinator.create name (keys seed) .standard = .ok (underStandard (party name seed) seed) := by
  unfold Coordinator.create Party.create
  rw [if_neg (by rw [named]; exact Bool.false_ne_true)]
  rfl

theorem reaches_attempt {state : Interleaving Ledger LockTable} {request : Request}
    {ids : FreshIds} {steps : Nat} (name : String) (seed : UInt8)
    (named : Text.isBlank name = false)
    (reaches : letI := suite; Reaches KeepsOrder blank state) :
    letI := suite
    Reaches KeepsOrder blank
      (state.attempt (underStandard (party name seed) seed) request ids steps) := by
  let _ := suite
  have created := create_underStandard name seed named
  exact reaches.attempt steps (fun _ => ⟨name, keys seed, signs_keys seed, created⟩)
    (fun _ _ _ => trivial) fun _ _ => trivial

/-- The founder founds a network with a group, and then changes nothing about the group. -/
def stagnant : Interleaving Ledger LockTable :=
  letI := suite
  (blank.attempt (underStandard founder 1)
    (.found ⟨some ⟨"net"⟩, some (.ofUuid ⟨Vector.replicate 16 7⟩), none, none⟩)
    (Session.idsOf 8) 8).attempt (underStandard founder 1)
    (.modifyGroup (.ofUuid ⟨Vector.replicate 16 7⟩) ⟨none, none⟩) (Session.idsOf 9) 3

set_option maxRecDepth 10000 in
theorem idle_change_is_rejected_without_fault :
    letI := suite
    ∃ operation failure, stagnant.operations[1]? = some operation ∧
      operation.failure? = some (.rejected failure) ∧ operation.request.needsInitiator ∧
      failure.faultsProposal = false := by
  let _ := suite
  have reached : Reaches KeepsOrder blank stagnant :=
    reaches_attempt "Founder" 1 rfl (reaches_attempt "Founder" 1 rfl .start)
  have isRejected : stagnant.operations[1]?.bind Operation.failure? =
      some (.rejected (.rejected "Group.Modify"
        "group modification must change the name or the participants")) := by decide +kernel
  obtain ⟨operation, found, rejected⟩ := Option.bind_eq_some_iff.1 isRejected
  exact ⟨operation, _, found, rejected,
    rejected_without_fault reached (List.mem_of_getElem? found) rejected⟩

end Interleaving

end Specimen

end Consortium
