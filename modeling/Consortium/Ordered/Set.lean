import Consortium.Ordered.Basic

/-!
Finite sets as strictly increasing lists. The list is determined by its elements (`SortedSet.ext`),
so sets built from the same elements in any order and with any repetitions are equal.
-/

namespace Consortium

open Std

/-- A finite set, kept as its elements in strictly increasing order. -/
structure SortedSet (α : Type) [Ord α] where
  toList : List α
  increasing : toList.Pairwise fun left right => compare left right = .lt
deriving DecidableEq

namespace SortedSet

section Basic

variable {α : Type} [Ord α]

def empty : SortedSet α := ⟨[], .nil⟩

instance : EmptyCollection (SortedSet α) := ⟨empty⟩

instance : Inhabited (SortedSet α) := ⟨empty⟩

instance : Membership α (SortedSet α) := ⟨fun set element => element ∈ set.toList⟩

instance [DecidableEq α] (element : α) (set : SortedSet α) : Decidable (element ∈ set) :=
  inferInstanceAs (Decidable (element ∈ set.toList))

def size (set : SortedSet α) : Nat := set.toList.length

def isEmpty (set : SortedSet α) : Bool := set.toList.isEmpty

/-- Puts `element` in its place in an increasing list that may already hold it. -/
def insertIntoList (element : α) : List α → List α
  | [] => [element]
  | first :: rest =>
      match compare element first with
      | .lt => element :: first :: rest
      | .eq => first :: rest
      | .gt => first :: insertIntoList element rest

def filter (keep : α → Bool) (set : SortedSet α) : SortedSet α :=
  ⟨set.toList.filter keep, set.increasing.filter keep⟩

def difference [DecidableEq α] (left right : SortedSet α) : SortedSet α :=
  left.filter fun element => decide (element ∉ right)

@[simp] theorem mem_toList {element : α} {set : SortedSet α} :
    element ∈ set.toList ↔ element ∈ set := Iff.rfl

@[simp] theorem notMem_empty (element : α) : ¬ element ∈ (empty : SortedSet α) := by
  rw [← mem_toList]
  exact List.not_mem_nil

theorem isEmpty_iff {set : SortedSet α} : set.isEmpty ↔ set = empty := by
  obtain ⟨list, increasing⟩ := set
  cases list <;> simp [isEmpty, empty]

@[simp] theorem mem_filter {keep : α → Bool} {element : α} {set : SortedSet α} :
    element ∈ set.filter keep ↔ element ∈ set ∧ keep element = true :=
  List.mem_filter

@[simp] theorem mem_difference [DecidableEq α] {element : α} {left right : SortedSet α} :
    element ∈ left.difference right ↔ element ∈ left ∧ element ∉ right := by
  simp [difference]

end Basic

section Ordered

variable {α : Type} [Ord α] [LawfulEqOrd α]

theorem mem_insertIntoList {element other : α} {list : List α} :
    other ∈ insertIntoList element list ↔ other = element ∨ other ∈ list := by
  induction list with
  | nil => simp [insertIntoList]
  | cons first rest ih =>
      unfold insertIntoList
      split
      · simp
      · rename_i equal
        have := eq_of_compare_eq equal
        subst this
        simp
      · simp only [List.mem_cons, ih]
        grind

variable [TransOrd α]

theorem increasing_insertIntoList {element : α} {list : List α}
    (increasing : list.Pairwise fun left right => compare left right = .lt) :
    (insertIntoList element list).Pairwise fun left right => compare left right = .lt := by
  induction list with
  | nil => simp [insertIntoList]
  | cons first rest ih =>
      have ⟨head, tail⟩ := List.pairwise_cons.1 increasing
      unfold insertIntoList
      split
      · rename_i below
        refine List.pairwise_cons.2 ⟨fun other member => ?_, increasing⟩
        rcases List.mem_cons.1 member with rfl | member
        · exact below
        · exact TransCmp.lt_trans below (head other member)
      · exact increasing
      · rename_i above
        refine List.pairwise_cons.2 ⟨fun other member => ?_, ih tail⟩
        rcases mem_insertIntoList.1 member with rfl | member
        · exact OrientedCmp.gt_iff_lt.1 above
        · exact head other member

def insert (element : α) (set : SortedSet α) : SortedSet α :=
  ⟨insertIntoList element set.toList, increasing_insertIntoList set.increasing⟩

def ofList (elements : List α) : SortedSet α := elements.foldr insert empty

def singleton (element : α) : SortedSet α := insert element empty

def union (left right : SortedSet α) : SortedSet α := left.toList.foldr insert right

@[simp] theorem mem_insert {element other : α} {set : SortedSet α} :
    other ∈ set.insert element ↔ other = element ∨ other ∈ set :=
  mem_insertIntoList

@[simp] theorem mem_singleton {element other : α} :
    other ∈ singleton element ↔ other = element := by
  simp [singleton]

@[simp] theorem mem_foldr_insert {elements : List α} {set : SortedSet α} {element : α} :
    element ∈ elements.foldr insert set ↔ element ∈ elements ∨ element ∈ set := by
  induction elements with
  | nil => simp
  | cons first rest ih => simp [ih, or_assoc]

@[simp] theorem mem_ofList {elements : List α} {element : α} :
    element ∈ ofList elements ↔ element ∈ elements := by
  simp [ofList]

@[simp] theorem mem_union {left right : SortedSet α} {element : α} :
    element ∈ left.union right ↔ element ∈ left ∨ element ∈ right := by
  simp [union]

theorem ext {left right : SortedSet α} (same : ∀ element, element ∈ left ↔ element ∈ right) :
    left = right := by
  obtain ⟨leftList, leftIncreasing⟩ := left
  obtain ⟨rightList, rightIncreasing⟩ := right
  have sameList : ∀ element, element ∈ leftList ↔ element ∈ rightList := same
  clear same
  have asymmetric {first second : α}
      (below : compare first second = .lt) : compare second first ≠ .lt := fun above => by
    have := TransCmp.lt_trans below above
    simp [ReflCmp.compare_self] at this
  have : leftList = rightList := by
    induction leftList generalizing rightList with
    | nil =>
        cases rightList with
        | nil => rfl
        | cons second _ => exact absurd ((sameList second).2 (by simp)) (by simp)
    | cons first rest ih =>
        cases rightList with
        | nil => exact absurd ((sameList first).1 (by simp)) (by simp)
        | cons second others =>
            have ⟨leftHead, leftTail⟩ := List.pairwise_cons.1 leftIncreasing
            have ⟨rightHead, rightTail⟩ := List.pairwise_cons.1 rightIncreasing
            have heads : first = second := by
              rcases List.mem_cons.1 ((sameList first).1 (by simp)) with equal | inOthers
              · exact equal
              · rcases List.mem_cons.1 ((sameList second).2 (by simp)) with equal | inRest
                · exact equal.symm
                · exact absurd (leftHead second inRest) (asymmetric (rightHead first inOthers))
            subst heads
            have notInRest : first ∉ rest := fun member => by
              simpa [ReflCmp.compare_self] using leftHead first member
            have notInOthers : first ∉ others := fun member => by
              simpa [ReflCmp.compare_self] using rightHead first member
            rw [ih leftTail others rightTail fun element => ?_]
            have := sameList element
            simp only [List.mem_cons] at this
            by_cases equal : element = first
            · subst equal
              simp [notInRest, notInOthers]
            · simpa [equal] using this
  subst this
  rfl

theorem ofList_toList (set : SortedSet α) : ofList set.toList = set :=
  ext fun _ => by simp

end Ordered

/-! Sets are ordered as their increasing lists. -/

instance {α : Type} [Ord α] : Ord (SortedSet α) := ⟨compareOn toList⟩

instance {α : Type} [Ord α] [TransOrd α] : TransOrd (SortedSet α) :=
  inferInstanceAs (TransCmp (compareOn toList))

instance {α : Type} [Ord α] [TransOrd α] [LawfulEqOrd α] : LawfulEqOrd (SortedSet α) :=
  lawfulEqCmp_compareOn fun equal => by
    rename_i left right
    cases left
    cases right
    cases equal
    rfl

end SortedSet

end Consortium
