import Consortium.Network.Ledger
import Consortium.Proofs.Contract.Registry

/-!
What the ledger does with a transaction. It records one that every contract approves and whose
inputs and references are current, and leaves everything as it was on any other.
-/

namespace Consortium

namespace SortedMap

section

variable {κ ν α : Type} [Ord κ] [Std.LawfulEqOrd κ] [Std.TransOrd κ]

theorem find?_foldl_insert (key : α → κ) (value : α → ν) (elements : List α)
    (map : SortedMap κ ν) {other : κ} {found : ν}
    (after : (elements.foldl (fun map element => map.insert (key element) (value element))
      map).find? other = some found) :
    (∃ element ∈ elements, key element = other ∧ value element = found) ∨
      map.find? other = some found := by
  induction elements generalizing map with
  | nil => exact .inr after
  | cons first rest ih =>
      rcases ih _ after with ⟨element, member, inserted⟩ | earlier
      · exact .inl ⟨element, List.mem_cons_of_mem _ member, inserted⟩
      · by_cases same : other = key first
        · subst same
          rw [find?_insert_self] at earlier
          exact .inl ⟨first, List.mem_cons_self, rfl, Option.some.inj earlier⟩
        · rw [find?_insert_of_ne map _ same] at earlier
          exact .inr earlier

/-- Insertions under different keys do not replace one another. -/
theorem find?_foldl_insert_iff (key : α → κ) (value : α → ν) (elements : List α)
    (map : SortedMap κ ν) (distinct : (elements.map key).Nodup) {other : κ} {found : ν} :
    (elements.foldl (fun map element => map.insert (key element) (value element)) map).find?
        other = some found ↔
      (∃ element ∈ elements, key element = other ∧ value element = found) ∨
        map.find? other = some found ∧ ∀ element ∈ elements, key element ≠ other := by
  induction elements generalizing map with
  | nil => simp
  | cons first rest ih =>
      obtain ⟨notInRest, distinct⟩ := List.nodup_cons.1 distinct
      rw [List.foldl_cons, ih _ distinct]
      by_cases same : key first = other
      · subst same
        have others : ∀ element ∈ rest, key element ≠ key first :=
          fun element member equal => notInRest (List.mem_map.2 ⟨element, member, equal⟩)
        rw [find?_insert_self]
        constructor
        · rintro (⟨element, member, equal, _⟩ | ⟨isFirst, _⟩)
          · exact absurd equal (others element member)
          · exact .inl ⟨first, List.mem_cons_self, rfl, Option.some.inj isFirst⟩
        · rintro (⟨element, member, equal, isValue⟩ | ⟨_, apart⟩)
          · rcases List.mem_cons.1 member with rfl | inRest
            · exact .inr ⟨congrArg some isValue, others⟩
            · exact absurd equal (others element inRest)
          · exact absurd rfl (apart first List.mem_cons_self)
      · rw [find?_insert_of_ne map _ (Ne.symm same)]
        simp [same]

end

end SortedMap

namespace Ledger

theorem mem_states {ledger : Ledger} {recorded : StateAndRef} :
    recorded ∈ ledger.states ↔
      ledger.unconsumed.find? recorded.reference = some recorded.state := by
  rw [SortedMap.find?_eq_some_iff, states, List.mem_map]
  constructor
  · intro ⟨entry, member, same⟩
    subst same
    exact member
  · intro member
    exact ⟨(recorded.reference, recorded.state), member, rfl⟩

section Signing

variable [Suite] {ledger : Ledger} {tx : Transaction}

/-- The ledger is ready to record a transaction. -/
structure Accepts (ledger : Ledger) (tx : Transaction) : Prop where
  approved : ledger.contracts.verify tx = .ok ()
  current : ∀ recorded ∈ tx.inputs ++ tx.references, recorded ∈ ledger.states

theorem finalize_of_accepts (accepts : ledger.Accepts tx) :
    finalize tx ledger = (.ok ⟨tx.id, recordedOutputs tx⟩, ledger.record tx) := by
  have noneStale : (tx.inputs ++ tx.references).find?
      (fun recorded => !ledger.isCurrent recorded) = none := by
    rw [List.find?_eq_none]
    intro recorded member
    have current := mem_states.1 (accepts.current recorded member)
    simp [isCurrent, current]
  rw [finalize, accepts.approved]
  simp only
  rw [noneStale]

theorem finalize_of_not_accepts (refuses : ¬ ledger.Accepts tx) :
    ∃ failure, finalize tx ledger = (.error failure, ledger) := by
  unfold finalize
  cases verdict : ledger.contracts.verify tx with
  | error failure => exact ⟨_, rfl⟩
  | ok =>
      cases stale : (tx.inputs ++ tx.references).find?
          (fun recorded => !ledger.isCurrent recorded) with
      | some recorded => exact ⟨_, rfl⟩
      | none =>
          refine absurd ⟨verdict, fun recorded member => mem_states.2 ?_⟩ refuses
          have current := List.find?_eq_none.1 stale recorded member
          simpa [isCurrent] using current

theorem accepts_of_finalize {record : FinalizedRecord} {after : Ledger}
    (finalized : finalize tx ledger = (.ok record, after)) :
    ledger.Accepts tx ∧ record = ⟨tx.id, recordedOutputs tx⟩ ∧ after = ledger.record tx := by
  by_cases accepts : ledger.Accepts tx
  · rw [finalize_of_accepts accepts] at finalized
    cases finalized
    exact ⟨accepts, rfl, rfl⟩
  · obtain ⟨failure, refused⟩ := finalize_of_not_accepts accepts
    rw [refused] at finalized
    cases finalized

/-- What is current after a transaction was created by it, or was current before and is not
consumed. -/
theorem mem_states_record {recorded : StateAndRef} (member : recorded ∈ (ledger.record tx).states) :
    recorded ∈ recordedOutputs tx ∨
      recorded ∈ ledger.states ∧ ∀ input ∈ tx.inputs, input.reference ≠ recorded.reference := by
  have found := mem_states.1 member
  rcases SortedMap.find?_foldl_insert StateAndRef.reference StateAndRef.state _ _ found with
    ⟨created, isOutput, sameReference, sameState⟩ | kept
  · left
    obtain ⟨state, reference⟩ := created
    cases sameReference
    cases sameState
    exact isOutput
  · right
    have ⟨earlier, unconsumed⟩ :=
      (SortedMap.find?_foldl_erase StateAndRef.reference tx.inputs ledger.unconsumed).1 kept
    exact ⟨mem_states.2 earlier, unconsumed⟩

theorem state_of_mem_recordedOutputs {recorded : StateAndRef}
    (member : recorded ∈ recordedOutputs tx) : recorded.state ∈ tx.outputs := by
  obtain ⟨⟨state, index⟩, indexed, same⟩ := List.mem_map.1 member
  subst same
  exact List.fst_mem_of_mem_zipIdx indexed

end Signing

end Ledger

end Consortium
