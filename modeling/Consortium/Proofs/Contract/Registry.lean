import Consortium.Contract.Registry
import Consortium.Crypto.Standard
import Consortium.Proofs.Contract.Group
import Consortium.Proofs.Contract.Membership
import Consortium.Proofs.Crypto.Transparent
import Mathlib.Control.Monad.Basic

/-!
Dispatch by contract id. A registry runs the contracts that the states of a transaction name, and
each contract looks at the states of its own kind: the two selections agree exactly on the states
that carry the id of the contract of their kind.
-/

namespace Consortium

namespace Registry

theorem mem_namedContracts {tx : Transaction} {id : ContractId} :
    id ∈ namedContracts tx ↔ ∃ state ∈ tx.touched, state.contract = id := by
  simp only [namedContracts, SortedSet.mem_ofList, List.mem_append, List.mem_map,
    Transaction.touched]
  constructor
  · rintro (⟨recorded, consumed, named⟩ | ⟨state, created, named⟩)
    · exact ⟨recorded.state, .inl ⟨recorded, consumed, rfl⟩, named⟩
    · exact ⟨state, .inr created, named⟩
  · rintro ⟨_, ⟨recorded, consumed, rfl⟩ | created, named⟩
    · exact .inl ⟨recorded, consumed, named⟩
    · exact .inr ⟨_, created, named⟩

theorem verify_eq_ok_iff {registry : Registry} {tx : Transaction} :
    registry.verify tx = .ok () ↔ ∀ state ∈ tx.touched,
      ∃ contract, registry.get? state.contract = some contract ∧ contract tx = .ok () := by
  rw [Registry.verify, forM_eq_ok_iff]
  constructor
  · intro accepted state touched
    have run := accepted state.contract (mem_namedContracts.2 ⟨state, touched, rfl⟩)
    cases found : registry.get? state.contract with
    | none => simp [found] at run
    | some contract => exact ⟨contract, rfl, by simpa [found] using run⟩
  · intro accepted id named
    obtain ⟨state, touched, rfl⟩ := mem_namedContracts.1 named
    obtain ⟨contract, found, run⟩ := accepted state touched
    simpa [found] using run

theorem get?_register (registry : Registry) (id other : ContractId) (contract : Contract) :
    (registry.register id contract).get? other =
      if other = id then some contract else registry.get? other := by
  by_cases same : other = id
  · subst same
    rw [if_pos rfl]
    exact SortedMap.find?_insert_self _ _ _
  · rw [if_neg same]
    exact SortedMap.find?_insert_of_ne _ _ same

end Registry

namespace EntityKind

def contractId : EntityKind → ContractId
  | .group => .group
  | .membership => .membership

def standardVerify [Suite] : EntityKind → Contract
  | .group => GroupRules.standard.verify
  | .membership => MembershipRules.standard.verify

theorem contractId_injective {left right : EntityKind}
    (same : left.contractId = right.contractId) : left = right := by
  cases left <;> cases right <;> first | rfl | exact absurd same (by decide)

theorem governed_of_standardVerify [Suite] {kind : EntityKind} {tx : Transaction}
    (approved : kind.standardVerify tx = .ok ()) {state : TransactionState}
    (touched : state ∈ tx.touched) (ofKind : state.data.kind = kind) :
    state.contract = kind.contractId := by
  have member : state ∈ tx.touchedOf kind := Transaction.mem_touchedOf.2 ⟨touched, ofKind⟩
  cases kind with
  | group =>
      obtain ⟨_, _, accepted⟩ := GroupRules.standard_verify_eq_ok_iff.1 approved
      exact accepted.sound.governed state member
  | membership =>
      obtain ⟨_, _, accepted⟩ := MembershipRules.standard_verify_eq_ok_iff.1 approved
      exact accepted.sound.governed state member

end EntityKind

namespace Registry

section Standard

variable [Suite] {tx : Transaction}

theorem standard_get?_eq_some_iff {id : ContractId} {contract : Contract} :
    standard.get? id = some contract ↔
      ∃ kind : EntityKind, id = kind.contractId ∧ contract = kind.standardVerify := by
  have distinct : ContractId.group ≠ .membership := by decide
  have unknown : empty.get? id = none := rfl
  rw [standard, get?_register, get?_register, unknown]
  constructor
  · intro found
    split at found
    · rename_i named
      exact ⟨.membership, named, (Option.some.inj found).symm⟩
    · split at found
      · rename_i named
        exact ⟨.group, named, (Option.some.inj found).symm⟩
      · cases found
  · rintro ⟨kind, rfl, rfl⟩
    cases kind with
    | group => exact (if_neg distinct).trans (if_pos rfl)
    | membership => exact if_pos rfl

theorem standard_verify_eq_ok_iff :
    standard.verify tx = .ok () ↔ ∀ state ∈ tx.touched,
      ∃ kind : EntityKind, state.contract = kind.contractId ∧ kind.standardVerify tx = .ok () := by
  rw [verify_eq_ok_iff]
  refine forall₂_congr fun state _ => ?_
  constructor
  · intro ⟨contract, found, run⟩
    obtain ⟨kind, named, rfl⟩ := standard_get?_eq_some_iff.1 found
    exact ⟨kind, named, run⟩
  · intro ⟨kind, named, run⟩
    exact ⟨kind.standardVerify, standard_get?_eq_some_iff.2 ⟨kind, named, rfl⟩, run⟩

theorem standardVerify_of_named (accepted : standard.verify tx = .ok ())
    {state : TransactionState} (touched : state ∈ tx.touched) {kind : EntityKind}
    (named : state.contract = kind.contractId) : kind.standardVerify tx = .ok () := by
  obtain ⟨other, otherNamed, run⟩ := standard_verify_eq_ok_iff.1 accepted state touched
  rw [named] at otherNamed
  rw [EntityKind.contractId_injective otherNamed]
  exact run

theorem groupAccepted_of_touched (accepted : standard.verify tx = .ok ()) {group : GroupState}
    (touched : .ofGroup group ∈ tx.touched) :
    ∃ command value, tx.GroupAccepted command value := by
  have named : ContractId.group = EntityKind.group.contractId := rfl
  exact GroupRules.standard_verify_eq_ok_iff.1 (standardVerify_of_named accepted touched named)

theorem membershipAccepted_of_touched (accepted : standard.verify tx = .ok ())
    {membership : MembershipState} (touched : .ofMembership membership ∈ tx.touched) :
    ∃ command value, tx.MembershipAccepted command value := by
  have named : ContractId.membership = EntityKind.membership.contractId := rfl
  exact MembershipRules.standard_verify_eq_ok_iff.1 (standardVerify_of_named accepted touched named)

/-- A state of an accepted transaction carries the id of a contract that has approved it. The
contract of the state's own kind has approved it exactly where the state carries that contract's
id. -/
theorem approved_by_own_kind_iff (accepted : standard.verify tx = .ok ())
    {state : TransactionState} (touched : state ∈ tx.touched) :
    (∃ kind : EntityKind,
      state.contract = kind.contractId ∧ kind.standardVerify tx = .ok ()) ∧
    (state.data.kind.standardVerify tx = .ok () ↔
      state.contract = state.data.kind.contractId) := by
  refine ⟨standard_verify_eq_ok_iff.1 accepted state touched, ?_, ?_⟩
  · intro approved
    exact EntityKind.governed_of_standardVerify approved touched rfl
  · intro named
    exact standardVerify_of_named accepted touched named

end Standard

open Transparent in
/-- Nobody signs it, and its membership carries the id of the contract of groups. -/
def unsignedFounding : Transaction :=
  { Transaction.empty with
    outputs := [⟨.membership foundersMembership, .group⟩, .ofGroup (groupOf founder)]
    commands := [⟨.group .bootstrap, .empty⟩] }

open Transparent in
/-- It asks for a membership, and brings along a group under the id of the contract of
memberships. -/
def loadedApplication : Transaction :=
  @Transaction.sign suite
    { Transaction.empty with
      outputs := [.ofMembership joinersMembership, ⟨.group (groupOf joiner), .membership⟩]
      commands := [⟨.membership .request, .singleton joiner.owningKey⟩] } (keys 2)

set_option maxRecDepth 10000 in
theorem unsignedFounding_approved_by_other_kind :
    let stray : TransactionState := ⟨.membership Transparent.foundersMembership, .group⟩
    standard.verify unsignedFounding = .ok () ∧ stray ∈ unsignedFounding.touched ∧
      (∃ kind : EntityKind, stray.contract = kind.contractId ∧
        kind.standardVerify unsignedFounding = .ok ()) ∧
      (EntityKind.membership.standardVerify unsignedFounding = .ok () ↔
        stray.contract = EntityKind.membership.contractId) := by
  have accepted : standard.verify unsignedFounding = .ok () := by decide +kernel
  have touched : (⟨.membership Transparent.foundersMembership, .group⟩ : TransactionState) ∈
      unsignedFounding.touched := by decide +kernel
  exact ⟨accepted, touched, approved_by_own_kind_iff accepted touched⟩

set_option maxRecDepth 10000 in
/-- The kind of a state does not bring in the contract of its kind: a membership passes without the
contract of memberships, and a group without the contract of groups. -/
theorem kind_without_its_contract :
    (standard.verify unsignedFounding = .ok () ∧
      (∃ state ∈ unsignedFounding.outputs, state.data.kind = .membership) ∧
      MembershipRules.standard.verify unsignedFounding =
        .error (.missingCommand .membership)) ∧
    (@standard Transparent.suite).verify loadedApplication = .ok () ∧
      (∃ state ∈ loadedApplication.outputs, state.data.kind = .group) ∧
      @GroupRules.verify Transparent.suite .standard loadedApplication =
        .error (.missingCommand .group) := by
  refine ⟨⟨?_, ?_, ?_⟩, ?_, ?_, ?_⟩ <;> decide +kernel

end Registry

end Consortium
