import Consortium.Network.Ledger
import Consortium.Network.Request
import Consortium.Proofs.Contract.Verdict
import Mathlib.Logic.Unique

/-!
What the checks of a request establish about the ledger that they query, and which plan they lead
to.
-/

namespace Consortium

theorem Platform.ask_eq_ok_iff {α : Type} {answer : Except StoreError α} {value : α} :
    ask answer = .ok value ↔ answer = .ok value := by
  cases answer with
  | error failure =>
      change Except.error (NetworkError.store failure) = Except.ok value ↔ _
      simp
  | ok answered =>
      change Except.ok answered = Except.ok value ↔ _
      simp

section Signing

variable [Suite] {ledger : Ledger} {networkId : NetworkId}

namespace Platform

theorem requireMembership_eq_ok_iff {party : Party} {recorded : StateAndRef} :
    requireMembership ledger networkId party = .ok recorded ↔
      ledger.membership networkId party = some recorded := by
  unfold requireMembership
  simp only [bind_eq_ok_iff, ask_eq_ok_iff, membership, Except.ok.injEq, exists_eq_left']
  cases ledger.membership networkId party <;> simp

theorem requireGroup_eq_ok_iff {id : LinearId} {recorded : StateAndRef} :
    requireGroup ledger id = .ok recorded ↔ ledger.groupById id = some recorded := by
  unfold requireGroup
  simp only [bind_eq_ok_iff, ask_eq_ok_iff, groupById, Except.ok.injEq, exists_eq_left']
  cases ledger.groupById id <;> simp

theorem requireFreeGroup_eq_ok_iff {chosen : Option LinearId} :
    requireFreeGroup ledger chosen = .ok () ↔
      ∀ id, chosen = some id → ledger.groupById id = none := by
  cases chosen with
  | none => simp [requireFreeGroup]
  | some id =>
      simp only [requireFreeGroup, bind_eq_ok_iff, ask_eq_ok_iff, groupById, Except.ok.injEq,
        exists_eq_left']
      cases found : ledger.groupById id <;> simp [found]

theorem requireFreeName_eq_ok_iff {chosen : Option String} :
    requireFreeName ledger networkId chosen = .ok () ↔
      ∀ name, chosen = some name → ledger.groupsByName networkId name = [] := by
  cases chosen with
  | none => simp [requireFreeName]
  | some name =>
      simp only [requireFreeName, bind_eq_ok_iff, ask_eq_ok_iff, groupsByName, Except.ok.injEq,
        exists_eq_left']
      cases found : ledger.groupsByName networkId name <;> simp [found]

end Platform

namespace Coordinator

open Platform

variable {coordinator : Coordinator} {ids : FreshIds} {plan : Plan}

theorem requireMembers_eq_ok_iff {parties : List Party} :
    requireMembers ledger networkId parties = .ok () ↔
      ∀ party ∈ parties, (ledger.membership networkId party).isSome := by
  induction parties with
  | nil => simp [requireMembers]
  | cons party rest ih =>
      simp only [requireMembers, bind_eq_ok_iff, requireMembership_eq_ok_iff, ih,
        List.forall_mem_cons, Option.isSome_iff_exists, exists_and_right]

theorem planBootstrap_eq_ok_iff {founding : NetworkFounding} :
    coordinator.planBootstrap founding ids ledger = .ok plan ↔
      ledger.networkExists (founding.networkId.getD (.ofUuid ids.network)) = false ∧
      (∀ id, founding.groupId = some id → ledger.groupById id = none) ∧
      coordinator.foundingPlan founding (founding.networkId.getD (.ofUuid ids.network)) ids =
        plan := by
  simp only [planBootstrap, bind_eq_ok_iff, ask_eq_ok_iff, networkExists, Except.ok.injEq,
    exists_eq_left']
  cases ledger.networkExists (founding.networkId.getD (.ofUuid ids.network)) <;>
    simp [bind_eq_ok_iff, Unique.exists_iff, requireFreeGroup_eq_ok_iff]

theorem planApplication_eq_ok_iff {application : MembershipApplication} :
    coordinator.planApplication application ids ledger = .ok plan ↔
      ledger.networkExists application.networkId = true ∧
      ledger.membership application.networkId coordinator.identity = none ∧
      (ledger.membership application.networkId application.operator).isSome ∧
      coordinator.applicationPlan application ids = plan := by
  simp only [planApplication, bind_eq_ok_iff, ask_eq_ok_iff, networkExists, membership,
    Except.ok.injEq, exists_eq_left']
  cases ledger.networkExists application.networkId <;>
    cases ledger.membership application.networkId coordinator.identity <;>
    simp [bind_eq_ok_iff, ask_eq_ok_iff, requireMembership_eq_ok_iff, Option.isSome_iff_exists]

theorem authority_eq_ok_iff {party : Party} {references : List StateAndRef} :
    coordinator.authority networkId party ledger = .ok references ↔
      party = coordinator.identity ∧ references = [] ∨
      party ≠ coordinator.identity ∧ ∃ own,
        ledger.membership networkId coordinator.identity = some own ∧ references = [own] := by
  unfold authority
  split
  · rename_i own
    simp [own, eq_comm]
  · rename_i other
    simp only [bind_eq_ok_iff, requireMembership_eq_ok_iff, Except.ok.injEq, other, false_and,
      not_false_eq_true, ne_eq, true_and, false_or, @eq_comm _ references]

theorem planTransition_eq_ok_iff {party : Party} {change : MembershipChange} :
    coordinator.planTransition networkId party change ledger = .ok plan ↔
      ∃ input current references, ledger.membership networkId party = some input ∧
        input.membership? = some current ∧
        coordinator.authority networkId party ledger = .ok references ∧
        coordinator.transitionPlan input current party change references = plan := by
  simp only [planTransition, bind_eq_ok_iff, requireMembership_eq_ok_iff]
  refine exists_congr fun input => ?_
  cases input.membership? <;> simp [bind_eq_ok_iff]

theorem planRevocation_eq_ok_iff {party : Party} :
    coordinator.planRevocation networkId party ledger = .ok plan ↔
      ∃ input references, ledger.membership networkId party = some input ∧
        coordinator.authority networkId party ledger = .ok references ∧
        coordinator.revocationPlan input party references = plan := by
  simp only [planRevocation, bind_eq_ok_iff, requireMembership_eq_ok_iff, Except.ok.injEq,
    exists_and_left]

theorem planGroup_eq_ok_iff {proposal : GroupProposal} :
    coordinator.planGroup proposal ids ledger = .ok plan ↔
      ∃ initiator, ledger.membership proposal.networkId coordinator.identity = some initiator ∧
        (∀ id, proposal.groupId = some id → ledger.groupById id = none) ∧
        (∀ name, proposal.name = some name →
          ledger.groupsByName proposal.networkId name = []) ∧
        (∀ party ∈ proposal.participants,
          (ledger.membership proposal.networkId party).isSome) ∧
        coordinator.groupPlan proposal ids initiator = plan := by
  simp only [planGroup, bind_eq_ok_iff, requireMembership_eq_ok_iff, Unique.exists_iff,
    PUnit.default_eq_unit, requireFreeGroup_eq_ok_iff, requireFreeName_eq_ok_iff,
    requireMembers_eq_ok_iff, Except.ok.injEq]

theorem requireGroupState_eq_ok_iff {id : LinearId} {input : StateAndRef} {current : GroupState} :
    requireGroupState ledger id = .ok (input, current) ↔
      ledger.groupById id = some input ∧ input.group? = some current := by
  simp only [requireGroupState, bind_eq_ok_iff, requireGroup_eq_ok_iff]
  constructor
  · intro ⟨found, isGroup, answer⟩
    cases contents : found.group? with
    | none => simp [contents] at answer
    | some state =>
        rw [contents] at answer
        cases answer
        exact ⟨isGroup, contents⟩
  · intro ⟨isGroup, contents⟩
    exact ⟨input, isGroup, by rw [contents]⟩

theorem planGroupChange_eq_ok_iff {id : LinearId} {change : GroupChange} :
    coordinator.planGroupChange id change ledger = .ok plan ↔
      ∃ input current initiator, ledger.groupById id = some input ∧
        input.group? = some current ∧
        ledger.membership current.networkId coordinator.identity = some initiator ∧
        (∀ name, change.newName current = some name →
          ledger.groupsByName current.networkId name = []) ∧
        (∀ party ∈ change.joining current,
          (ledger.membership current.networkId party).isSome) ∧
        groupChangePlan input current change initiator = plan := by
  simp only [planGroupChange, bind_eq_ok_iff, Prod.exists, requireGroupState_eq_ok_iff,
    requireMembership_eq_ok_iff, Unique.exists_iff, PUnit.default_eq_unit,
    requireFreeName_eq_ok_iff, requireMembers_eq_ok_iff, Except.ok.injEq, and_assoc, exists_and_left]

theorem planGroupExit_eq_ok_iff {id : LinearId} :
    coordinator.planGroupExit id ledger = .ok plan ↔
      ∃ input current initiator, ledger.groupById id = some input ∧
        input.group? = some current ∧
        ledger.membership current.networkId coordinator.identity = some initiator ∧
        groupExitPlan input current initiator = plan := by
  simp only [planGroupExit, bind_eq_ok_iff, Prod.exists, requireGroupState_eq_ok_iff,
    requireMembership_eq_ok_iff, Except.ok.injEq, and_assoc, exists_and_left]

end Coordinator

end Signing

end Consortium
