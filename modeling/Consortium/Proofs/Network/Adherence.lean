import Consortium.Proofs.Network.Interleaving
import Consortium.Proofs.Network.Proposal

/-!
Operations keep to their plans. Whatever happens to the ledger, the locks and the clock meanwhile,
an operation records at most the draft of the plan that its coordinator made of the request on what
it had seen.
-/

namespace Consortium

section Signing

variable [Suite] {σ : Type} [LockStore σ]

namespace Task

/-- Whatever the request has out is what its plan has drafted. -/
def Drafted (task : Task) : Prop :=
  match task.progress with
  | .locking _ | .releasing _ => True
  | .collecting tx | .verifying tx | .finalizing tx =>
      ∃ now, tx.unsigned = (task.plan.draft now).unsigned

theorem step_drafted {task : Task} (drafted : task.Drafted) (services : Services Ledger σ) :
    (task.step services).1.Drafted := by
  obtain ⟨coordinator, plan, ids, held, progress⟩ := task
  cases progress with
  | locking pending =>
      cases pending with
      | nil => exact ⟨services.clock, rfl⟩
      | cons key pending =>
          unfold step lock
          dsimp only
          split <;> trivial
  | collecting tx =>
      obtain ⟨now, proposes⟩ := drafted
      unfold step
      dsimp only [Platform.collectSignatures, Ledger.collectSignatures]
      split
      · -- What comes back from the ledger differs from what went out in signatures only.
        rename_i signed collected
        exact ⟨now, (Ledger.unsigned_of_signAll collected).trans proposes⟩
      · trivial
  | verifying tx =>
      unfold step verified
      dsimp only
      split
      · exact drafted
      · trivial
  | finalizing tx => trivial
  | releasing result => cases held <;> trivial

end Task

namespace Operation

/-- A running operation goes by the plan that its checks have led to. -/
def GoesByPlan (operation : Operation Ledger) : Prop :=
  match operation.stage with
  | .asked | .refused _ => True
  | .running view task =>
      operation.coordinator.plan operation.request operation.ids view = .ok task.plan ∧
        task.Drafted

omit [LockStore σ] in
theorem goesByPlan_check (operation : Operation Ledger) (view : View Ledger)
    (services : Services Ledger σ) : (operation.check view services).GoesByPlan := by
  unfold check
  dsimp only
  split
  · trivial
  · rename_i task started
    obtain ⟨plan, planned, same⟩ := bind_eq_ok_iff.1 started
    cases same
    exact ⟨planned, trivial⟩

end Operation

namespace Interleaving

variable {state next : Interleaving Ledger σ}

theorem Moves.goesByPlan {turn : Turn Ledger σ} (moves : Moves state turn next)
    (before : ∀ operation ∈ state.operations, operation.GoesByPlan) :
    ∀ operation ∈ next.operations, operation.GoesByPlan := by
  cases moves with
  | asked => exact List.forall_mem_append.2 ⟨before, List.forall_mem_singleton.2 trivial⟩
  | @checked position view operation =>
      intro other member
      rcases List.mem_or_eq_of_mem_set member with earlier | rfl
      · exact before other earlier
      · exact operation.goesByPlan_check view state.services
  | @advanced position operation view task isTurn found running =>
      intro other member
      rcases List.mem_or_eq_of_mem_set member with earlier | rfl
      · exact before other earlier
      · have goesByPlan := before operation (List.mem_of_getElem? found)
        rw [Operation.GoesByPlan, running] at goesByPlan
        obtain ⟨planned, drafted⟩ := goesByPlan
        refine ⟨?_, Task.step_drafted drafted state.services⟩
        rw [(Task.step_plan task state.services).1]
        exact planned
  | dropped => exact fun other member => before other (List.mem_of_mem_eraseIdx member)
  | clocked | altered | relocked | idle => exact before

/-- Nobody has to keep to any rules for this: all turns are permitted. -/
theorem Reaches.goesByPlan {permitted : Interleaving Ledger σ → Turn Ledger σ → Prop}
    {ledger : Ledger} {locks : σ} {clock : Timestamp}
    (reaches : Reaches permitted (opened ledger locks clock) state) :
    ∀ operation ∈ state.operations, operation.GoesByPlan := by
  induction reaches with
  | start => exact fun _ member => nomatch member
  | next _ _ _ ih => exact (step_moves _ _).goesByPlan ih

/-- What a turn of an operation does to the ledger: it counts a proposal at most, or it records what
was drafted on the view that the operation was checked on. -/
theorem recorded_of_advance {position : Nat} {operation : Operation Ledger}
    (found : state.operations[position]? = some operation) (goesByPlan : operation.GoesByPlan) :
    (∃ proposals, (state.step (.advance position)).services.platform =
      { state.services.platform with proposals }) ∨
    ∃ (view : View Ledger) (plan : Plan) (now : Timestamp) (tx : Transaction),
      operation.coordinator.plan operation.request operation.ids view = .ok plan ∧
        tx.unsigned = (plan.draft now).unsigned ∧
        (state.step (.advance position)).services.platform = state.services.platform.record tx := by
  obtain ⟨coordinator, request, ids, stage⟩ := operation
  simp only [step, advance, found]
  cases stage with
  | asked | refused => exact .inl ⟨state.services.platform.proposals, rfl⟩
  | running view task =>
      obtain ⟨planned, drafted⟩ := goesByPlan
      rcases Task.step_ledger task state.services with
        ⟨proposals, _, counted⟩ | ⟨tx, finalizes, _, _, recorded⟩
      · exact .inl ⟨proposals, counted⟩
      · rw [Task.Drafted, finalizes] at drafted
        obtain ⟨now, proposes⟩ := drafted
        exact .inr ⟨view, task.plan, now, tx, planned, proposes, recorded⟩

end Interleaving

end Signing

end Consortium
