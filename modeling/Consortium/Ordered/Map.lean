import Consortium.Ordered.Basic

/-!
Finite maps as lists of entries with strictly increasing keys. What a map answers
(`find?`) is exactly its entries.
-/

namespace Consortium

open Std

/-- A finite map, kept as its entries in strictly increasing order of their keys. -/
structure SortedMap (κ ν : Type) [Ord κ] where
  entries : List (κ × ν)
  increasing : entries.Pairwise fun left right => compare left.1 right.1 = .lt
deriving DecidableEq

namespace SortedMap

section Basic

variable {κ ν : Type} [Ord κ]

def empty : SortedMap κ ν := ⟨[], .nil⟩

instance : EmptyCollection (SortedMap κ ν) := ⟨empty⟩

instance : Inhabited (SortedMap κ ν) := ⟨empty⟩

def size (map : SortedMap κ ν) : Nat := map.entries.length

def keys (map : SortedMap κ ν) : List κ := map.entries.map Prod.fst

def values (map : SortedMap κ ν) : List ν := map.entries.map Prod.snd

def findInList (key : κ) : List (κ × ν) → Option ν
  | [] => none
  | (other, value) :: rest =>
      match compare key other with
      | .lt => none
      | .eq => some value
      | .gt => findInList key rest

def find? (map : SortedMap κ ν) (key : κ) : Option ν := findInList key map.entries

def contains (map : SortedMap κ ν) (key : κ) : Bool := (map.find? key).isSome

/-- Puts an entry in its place in a list with increasing keys, replacing one of the same key. -/
def insertIntoList (key : κ) (value : ν) : List (κ × ν) → List (κ × ν)
  | [] => [(key, value)]
  | (other, previous) :: rest =>
      match compare key other with
      | .lt => (key, value) :: (other, previous) :: rest
      | .eq => (key, value) :: rest
      | .gt => (other, previous) :: insertIntoList key value rest

def eraseFromList (key : κ) (entries : List (κ × ν)) : List (κ × ν) :=
  entries.filter fun entry => compare key entry.1 != .eq

def erase (map : SortedMap κ ν) (key : κ) : SortedMap κ ν :=
  ⟨eraseFromList key map.entries, map.increasing.filter _⟩

@[simp] theorem entries_empty : (empty : SortedMap κ ν).entries = [] := rfl

@[simp] theorem find?_empty (key : κ) : (empty : SortedMap κ ν).find? key = none := rfl

end Basic

section Ordered

variable {κ ν : Type} [Ord κ]

theorem fst_mem_insertIntoList {key : κ} {value : ν} {list : List (κ × ν)} {entry : κ × ν}
    (member : entry ∈ insertIntoList key value list) : entry.1 = key ∨ entry ∈ list := by
  induction list with
  | nil =>
      simp only [insertIntoList, List.mem_singleton] at member
      simp [member]
  | cons first rest ih =>
      obtain ⟨other, previous⟩ := first
      unfold insertIntoList at member
      split at member
      · grind
      · grind
      · rcases List.mem_cons.1 member with rfl | member
        · simp
        · rcases ih member with equal | inRest
          · exact .inl equal
          · exact .inr (List.mem_cons_of_mem _ inRest)

variable [LawfulEqOrd κ] [TransOrd κ]

theorem increasing_insertIntoList {key : κ} {value : ν} {list : List (κ × ν)}
    (increasing : list.Pairwise fun left right => compare left.1 right.1 = .lt) :
    (insertIntoList key value list).Pairwise fun left right =>
      compare left.1 right.1 = .lt := by
  induction list with
  | nil => simp [insertIntoList]
  | cons first rest ih =>
      obtain ⟨other, previous⟩ := first
      have ⟨head, tail⟩ := List.pairwise_cons.1 increasing
      unfold insertIntoList
      split
      · rename_i below
        refine List.pairwise_cons.2 ⟨fun entry member => ?_, increasing⟩
        rcases List.mem_cons.1 member with rfl | member
        · exact below
        · exact TransCmp.lt_trans below (head entry member)
      · rename_i equal
        have := eq_of_compare_eq equal
        subst this
        exact List.pairwise_cons.2 ⟨head, tail⟩
      · rename_i above
        refine List.pairwise_cons.2 ⟨fun entry member => ?_, ih tail⟩
        rcases fst_mem_insertIntoList member with equal | member
        · rw [equal]
          exact OrientedCmp.gt_iff_lt.1 above
        · exact head entry member

def insert (map : SortedMap κ ν) (key : κ) (value : ν) : SortedMap κ ν :=
  ⟨insertIntoList key value map.entries, increasing_insertIntoList map.increasing⟩

/-- Inserts the entries one after another, a later one replacing an earlier one of its key. -/
def ofList (entries : List (κ × ν)) : SortedMap κ ν :=
  entries.foldl (fun map entry => map.insert entry.1 entry.2) empty

theorem findInList_insertIntoList {key other : κ} {value : ν} {list : List (κ × ν)} :
    findInList other (insertIntoList key value list) =
      if compare other key = .eq then some value else findInList other list := by
  induction list with
  | nil =>
      unfold insertIntoList findInList
      cases compare other key <;> simp [findInList]
  | cons first rest ih =>
      obtain ⟨head, previous⟩ := first
      cases order : compare key head with
      | lt =>
          simp only [insertIntoList, order]
          unfold findInList
          cases other_key : compare other key with
          | lt =>
              have := TransCmp.lt_trans other_key order
              simp [this]
          | eq => simp
          | gt => simp [findInList]
      | eq =>
          have := eq_of_compare_eq order
          subst this
          simp only [insertIntoList, order]
          unfold findInList
          cases compare other key <;> simp
      | gt =>
          simp only [insertIntoList, order]
          unfold findInList
          cases other_head : compare other head with
          | lt =>
              have := TransCmp.lt_trans other_head (OrientedCmp.gt_iff_lt.1 order)
              simp [this]
          | eq =>
              have := eq_of_compare_eq other_head
              subst this
              have := OrientedCmp.gt_iff_lt.1 order
              simp [this]
          | gt => exact ih

theorem find?_insert (map : SortedMap κ ν) (key other : κ) (value : ν) :
    (map.insert key value).find? other =
      if compare other key = .eq then some value else map.find? other :=
  findInList_insertIntoList

@[simp] theorem find?_insert_self (map : SortedMap κ ν) (key : κ) (value : ν) :
    (map.insert key value).find? key = some value := by
  simp [find?_insert, ReflCmp.compare_self]

theorem find?_insert_of_ne (map : SortedMap κ ν) {key other : κ} (value : ν)
    (different : other ≠ key) : (map.insert key value).find? other = map.find? other := by
  rw [find?_insert, if_neg fun equal =>
    different (eq_of_compare_eq equal)]

theorem findInList_eq_some_iff {key : κ} {value : ν} {list : List (κ × ν)}
    (increasing : list.Pairwise fun left right => compare left.1 right.1 = .lt) :
    findInList key list = some value ↔ (key, value) ∈ list := by
  induction list with
  | nil => simp [findInList]
  | cons first rest ih =>
      obtain ⟨other, found⟩ := first
      have ⟨head, tail⟩ := List.pairwise_cons.1 increasing
      unfold findInList
      cases order : compare key other with
      | lt =>
          constructor
          · simp
          · intro member
            rcases List.mem_cons.1 member with equal | member
            · cases equal
              simp [ReflCmp.compare_self] at order
            · have := TransCmp.lt_trans order (head _ member)
              simp [ReflCmp.compare_self] at this
      | eq =>
          have := eq_of_compare_eq order
          subst this
          constructor
          · intro equal
            cases equal
            simp
          · intro member
            rcases List.mem_cons.1 member with equal | member
            · cases equal
              rfl
            · have := head _ member
              simp [ReflCmp.compare_self] at this
      | gt =>
          rw [ih tail]
          constructor
          · exact List.mem_cons_of_mem _
          · intro member
            rcases List.mem_cons.1 member with equal | member
            · cases equal
              simp [ReflCmp.compare_self] at order
            · exact member

theorem find?_eq_some_iff {map : SortedMap κ ν} {key : κ} {value : ν} :
    map.find? key = some value ↔ (key, value) ∈ map.entries :=
  findInList_eq_some_iff map.increasing

theorem find?_erase (map : SortedMap κ ν) (key other : κ) :
    (map.erase key).find? other =
      if compare other key = .eq then none else map.find? other := by
  apply Option.ext
  intro value
  rw [find?_eq_some_iff]
  simp only [erase, eraseFromList, List.mem_filter, bne_iff_ne, ne_eq,
    LawfulEqCmp.compare_eq_iff_eq]
  split
  · rename_i equal
    have := eq_of_compare_eq equal
    simp [this]
  · rename_i different
    have : key ≠ other := fun equal => different (by rw [equal, compare_self_eq])
    simp [find?_eq_some_iff, this]

@[simp] theorem find?_erase_self (map : SortedMap κ ν) (key : κ) :
    (map.erase key).find? key = none := by
  simp [find?_erase, ReflCmp.compare_self]

theorem find?_erase_of_ne (map : SortedMap κ ν) {key other : κ}
    (different : other ≠ key) : (map.erase key).find? other = map.find? other := by
  rw [find?_erase, if_neg fun equal =>
    different (eq_of_compare_eq equal)]

theorem find?_foldl_erase {α : Type} (key : α → κ) (elements : List α)
    (map : SortedMap κ ν) {other : κ} {value : ν} :
    (elements.foldl (fun map element => map.erase (key element)) map).find? other = some value ↔
      map.find? other = some value ∧ ∀ element ∈ elements, key element ≠ other := by
  induction elements generalizing map with
  | nil => simp
  | cons first rest ih =>
      rw [List.foldl_cons, ih, List.forall_mem_cons]
      by_cases same : key first = other
      · subst same
        simp
      · rw [find?_erase_of_ne map (Ne.symm same)]
        constructor
        · intro ⟨found, kept⟩
          exact ⟨found, same, kept⟩
        · intro ⟨found, _, kept⟩
          exact ⟨found, kept⟩

omit [LawfulEqOrd κ] in
theorem insertIntoList_of_above {key : κ} {value : ν} {list : List (κ × ν)}
    (above : ∀ entry ∈ list, compare entry.1 key = .lt) :
    insertIntoList key value list = list ++ [(key, value)] := by
  induction list with
  | nil => rfl
  | cons first rest ih =>
      obtain ⟨head, others⟩ := List.forall_mem_cons.1 above
      simp only [insertIntoList, OrientedCmp.gt_of_lt head, ih others, List.cons_append]

theorem entries_foldl_insert {map : SortedMap κ ν} {list : List (κ × ν)}
    (increasing : (map.entries ++ list).Pairwise fun left right =>
      compare left.1 right.1 = .lt) :
    (list.foldl (fun map entry => map.insert entry.1 entry.2) map).entries =
      map.entries ++ list := by
  induction list generalizing map with
  | nil => simp
  | cons first rest ih =>
      have ⟨_, _, across⟩ := List.pairwise_append.1 increasing
      have grown : (map.insert first.1 first.2).entries = map.entries ++ [first] :=
        insertIntoList_of_above fun entry member => across entry member first List.mem_cons_self
      rw [List.foldl_cons, ih, grown, List.append_assoc, List.singleton_append]
      rw [grown, List.append_assoc, List.singleton_append]
      exact increasing

theorem ofList_entries (map : SortedMap κ ν) : ofList map.entries = map := by
  have same : (ofList map.entries).entries = map.entries := entries_foldl_insert map.increasing
  revert same
  cases ofList map.entries
  cases map
  rintro ⟨⟩
  rfl

end Ordered

end SortedMap

end Consortium
