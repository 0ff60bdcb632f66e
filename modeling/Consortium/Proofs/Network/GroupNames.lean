import Consortium.Proofs.Network.Memberships

/-!
Names of groups. Creating a group and renaming one contend for a lock on the name, and find out
whether it is free. Founding a network does neither for the name of its first group, although groups
of an earlier network may be left over. Names are not given twice if foundings keep clear of names
that are in use.
-/

namespace Consortium

/-- The name of a group, and the network where it goes by that name. -/
def ContractState.nameIn? (data : ContractState) : Option (NetworkId × String) :=
  data.group?.bind fun group => group.name.map fun name => (group.networkId, name)

theorem ContractState.group_of_nameIn? {data : ContractState} {networkId : NetworkId}
    {name : String} (named : data.nameIn? = some (networkId, name)) :
    ∃ group, data.group? = some group ∧ group.networkId = networkId ∧ group.name = some name := by
  obtain ⟨group, isGroup, hasName⟩ := Option.bind_eq_some_iff.1 named
  obtain ⟨_, isName, same⟩ := Option.map_eq_some_iff.1 hasName
  cases same
  exact ⟨group, isGroup, rfl, isName⟩

theorem ContractState.nameIn?_of_group {data : ContractState} {group : GroupState} {name : String}
    (isGroup : data.group? = some group) (isName : group.name = some name) :
    data.nameIn? = some (group.networkId, name) := by
  rw [nameIn?, isGroup, Option.bind_some, isName, Option.map_some]

theorem Ledger.not_occupies_of_groupsByName {ledger : Ledger} {networkId : NetworkId}
    {name : String} (free : ledger.groupsByName networkId name = []) :
    ¬ ledger.Occupies ContractState.nameIn? (networkId, name) := by
  intro ⟨recorded, isRecorded, named⟩
  obtain ⟨group, isGroup, sameNetwork, sameName⟩ := ContractState.group_of_nameIn? named
  have differs := List.filter_eq_nil_iff.1 free recorded isRecorded
  change ¬ (recorded.state.data.group?.any _) = true at differs
  rw [isGroup, Option.any_some] at differs
  exact differs (decide_eq_true ⟨sameNetwork, sameName⟩)

namespace Plan

/-- The plan is to name a new group under the lock of foundings. -/
structure FoundsNamed (plan : Plan) (networkId : NetworkId) (name : String) : Prop where
  introduces : plan.Introduces ContractState.nameIn? (networkId, name)
  claims : .ofNetwork networkId ∈ plan.claims

/-- The plan is to give a name under the lock of the name. -/
structure Names (plan : Plan) (networkId : NetworkId) (name : String) : Prop where
  introduces : plan.Introduces ContractState.nameIn? (networkId, name)
  claims : .ofGroupName networkId name ∈ plan.claims

end Plan

section Signing

variable [Suite] {ledger : Ledger}

namespace Coordinator

variable {coordinator : Coordinator} {request : Request} {ids : FreshIds} {plan : Plan}

omit [Suite] in
theorem newName_of_nameIn? {current : GroupState} {change : GroupChange} {now : Timestamp}
    {networkId : NetworkId} {name : String}
    (named : (ContractState.group (evolvedGroup current change now)).nameIn? =
      some (networkId, name))
    (isNew : (ContractState.group current).nameIn? ≠ some (networkId, name)) :
    networkId = current.networkId ∧ change.newName current = some name := by
  obtain ⟨_, same, sameNetwork, hasName⟩ := ContractState.group_of_nameIn? named
  cases same
  change current.networkId = networkId at sameNetwork
  change change.name.or current.name = some name at hasName
  subst sameNetwork
  refine ⟨rfl, ?_⟩
  have differs : current.name ≠ some name := fun isOld =>
    isNew (ContractState.nameIn?_of_group rfl isOld)
  cases asked : change.name with
  | none =>
      rw [asked] at hasName
      exact absurd hasName differs
  | some other =>
      rw [asked] at hasName
      cases hasName
      rw [GroupChange.newName, asked]
      exact Option.filter_some_pos (decide_eq_true differs)

/-- A founding brings its name in unchecked, all others check it and lock it. -/
theorem names (planned : coordinator.plan request ids ledger = .ok plan) {networkId : NetworkId}
    {name : String} (introduces : plan.Introduces ContractState.nameIn? (networkId, name)) :
    plan.FoundsNamed networkId name ∨
      plan.Names networkId name ∧ ¬ ledger.Occupies ContractState.nameIn? (networkId, name) := by
  cases request with
  | found founding =>
      obtain ⟨_, _, rfl⟩ := planBootstrap_eq_ok_iff.1 planned
      obtain ⟨now, output, isOutput, named⟩ := introduces.exists_output
      rcases List.mem_cons.1 isOutput with rfl | isSecond
      · cases named
      · cases List.mem_singleton.1 isSecond
        obtain ⟨_, same, rfl, _⟩ := ContractState.group_of_nameIn? named
        cases same
        exact .inl ⟨introduces, List.mem_cons_self⟩
  | apply application =>
      obtain ⟨_, _, _, rfl⟩ := planApplication_eq_ok_iff.1 planned
      refine absurd introduces (Plan.not_introduces_of_kept ?_ _)
      intro now output isOutput key hasKey
      cases List.mem_singleton.1 isOutput
      cases hasKey
  | change otherNetwork party change =>
      obtain ⟨_, _, _, _, _, _, rfl⟩ := planTransition_eq_ok_iff.1 planned
      refine absurd introduces (Plan.not_introduces_of_kept ?_ _)
      intro now output isOutput key hasKey
      cases List.mem_singleton.1 isOutput
      cases hasKey
  | revoke otherNetwork party =>
      obtain ⟨_, _, _, _, rfl⟩ := planRevocation_eq_ok_iff.1 planned
      refine absurd introduces (Plan.not_introduces_of_kept ?_ _)
      intro now output isOutput
      cases isOutput
  | createGroup proposal =>
      obtain ⟨_, _, _, free, _, rfl⟩ := planGroup_eq_ok_iff.1 planned
      obtain ⟨now, output, isOutput, named⟩ := introduces.exists_output
      cases List.mem_singleton.1 isOutput
      obtain ⟨_, same, rfl, hasName⟩ := ContractState.group_of_nameIn? named
      cases same
      change proposal.name = some name at hasName
      refine .inr ⟨⟨introduces, ?_⟩, Ledger.not_occupies_of_groupsByName (free name hasName)⟩
      rw [groupPlan, hasName]
      exact List.mem_append_right _ (List.mem_singleton_self _)
  | modifyGroup id change =>
      obtain ⟨input, current, _, _, isGroup, _, free, _, rfl⟩ :=
        planGroupChange_eq_ok_iff.1 planned
      have ⟨now, ⟨output, isOutput, named⟩, notConsumed⟩ := introduces
      cases List.mem_singleton.1 isOutput
      have isNew : (ContractState.group current).nameIn? ≠ some (networkId, name) := by
        have differs := notConsumed input (List.mem_singleton_self _)
        change input.state.data.group? = some current at isGroup
        rw [ContractState.nameIn?, isGroup] at differs
        exact differs
      obtain ⟨rfl, asks⟩ := newName_of_nameIn? named isNew
      refine .inr ⟨⟨introduces, ?_⟩, Ledger.not_occupies_of_groupsByName (free name asks)⟩
      rw [groupChangePlan, asks]
      exact List.mem_singleton_self _
  | exitGroup id =>
      obtain ⟨_, _, _, _, _, _, rfl⟩ := planGroupExit_eq_ok_iff.1 planned
      refine absurd introduces (Plan.not_introduces_of_kept ?_ _)
      intro now output isOutput
      cases isOutput

end Coordinator

namespace Session

variable {σ : Type} [LockStore σ] [LawfulLockStore σ]

section Apart

variable {session : Session σ} {coordinator : Coordinator} {ids : FreshIds}

omit [LockStore σ] [LawfulLockStore σ]

end Apart

end Session

end Signing

namespace Session

open Transparent

def createTraders : Request := .createGroup ⟨⟨"net"⟩, none, some "traders", []⟩

def naming : Session LockTable := @step _ _ suite founded (launchAs founder 1 createTraders 2)

def namingAgain : Session LockTable := @step _ _ suite naming (launchAs founder 1 createTraders 3)

def named : Session LockTable := @step _ _ suite namingAgain (.resume 0)

end Session

end Consortium
