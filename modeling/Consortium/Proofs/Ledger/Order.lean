import Consortium.Ledger.State
import Consortium.Lock.Key
import Consortium.Proofs.Bytes.Hex
import Mathlib.Data.String.Basic
import Mathlib.Tactic.SplitIfs

/-!
The orders in which sets and maps keep their elements. Each compares one field after another: texts
by their characters, which is the order of their bytes in UTF-8, numbers and blocks by value, and
sets as their increasing lists.
-/

namespace Consortium

open Std

/-! ### One field after another -/

/-- Values are compared by `less`, which is a linear order, and only equal values come out equal. -/
structure IsOrderedBy {α : Type} [Ord α] (less : α → α → Prop) : Prop where
  lt_iff (left right : α) : compare left right = .lt ↔ less left right
  eq_iff (left right : α) : compare left right = .eq ↔ left = right
  swap (left right : α) : compare right left = (compare left right).swap
  trans {first second third : α} : compare first second ≠ .gt → compare second third ≠ .gt →
    compare first third ≠ .gt

theorem isOrderedBy {α : Type} [Ord α] [TransOrd α] [LawfulEqOrd α] {less : α → α → Prop}
    (lt_iff : ∀ {left right : α}, compare left right = .lt ↔ less left right) :
    IsOrderedBy less where
  lt_iff _ _ := lt_iff
  eq_iff _ _ := LawfulEqCmp.compare_eq_iff_eq
  swap _ _ := OrientedCmp.eq_swap
  trans below above := by
    simp only [← Ordering.isLE_iff_ne_gt] at below above ⊢
    exact TransCmp.isLE_trans below above

theorem compareLex_eq_lt_iff {α β γ : Type} [Ord β] [LawfulEqOrd β] [Ord γ]
    {first : α → β} {second : α → γ} {left right : α} :
    compareLex (compareOn first) (compareOn second) left right = .lt ↔
      compare (first left) (first right) = .lt ∨
        first left = first right ∧ compare (second left) (second right) = .lt := by
  have sameFirst : compare (first left) (first right) = .eq ↔ first left = first right :=
    LawfulEqCmp.compare_eq_iff_eq
  rw [compareLex, Ordering.then_eq_lt, ← sameFirst]
  rfl

theorem compare_list_eq_lt_iff {α β : Type} [LT β] {cmp : α → α → Ordering} {key : α → β}
    (eq_iff : ∀ {left right}, cmp left right = .eq ↔ key left = key right)
    (lt_iff : ∀ {left right}, cmp left right = .lt ↔ key left < key right) {left right : List α} :
    List.compareLex cmp left right = .lt ↔ left.map key < right.map key := by
  induction left generalizing right with
  | nil => cases right <;> simp [List.compareLex]
  | cons first rest ih =>
      cases right with
      | nil => simp [List.compareLex]
      | cons other others =>
          rw [List.compareLex_cons_cons, List.map_cons, List.map_cons, List.cons_lt_cons_iff,
            Ordering.then_eq_lt, ih, eq_iff, lt_iff]

/-! ### Texts and blocks -/

namespace Bytes

theorem compare_eq_lt_iff {left right : List UInt8} :
    List.compareLex compare left right = .lt ↔ left < right := by
  have mapped : List.compareLex compare left right = .lt ↔ left.map id < right.map id :=
    compare_list_eq_lt_iff Std.compare_eq_iff_eq Std.compare_eq_lt
  rwa [List.map_id, List.map_id] at mapped

/-- The bytes of two characters differ before one of the two ends, and in the order of the
characters. -/
theorem utf8EncodeChar_append_lt {left right : Char} (less : left < right)
    (leftRest rightRest : List UInt8) :
    String.utf8EncodeChar left ++ leftRest < String.utf8EncodeChar right ++ rightRest := by
  have less : left.val.toNat < right.val.toNat := UInt32.lt_iff_toNat_lt.1 less
  have bound : right.val.toNat < 1114112 := by
    have valid := right.valid
    simp only [UInt32.isValidChar, Nat.isValidChar] at valid
    omega
  have third (code : Nat) : code / 4096 = code / 64 / 64 := by omega
  have fourth (code : Nat) : code / 262144 = code / 64 / 64 / 64 := by omega
  simp only [String.utf8EncodeChar, third, fourth]
  generalize left.val.toNat = leftCode at *
  generalize right.val.toNat = rightCode at *
  clear third fourth
  split_ifs <;>
    simp only [List.cons_append, List.nil_append, List.cons_lt_cons_iff, UInt8.lt_iff_toNat_lt,
      ← UInt8.toNat_inj, UInt8.toNat_ofNat'] <;>
    omega

theorem flatMap_utf8EncodeChar_lt {left right : List Char} (less : left < right) :
    left.flatMap String.utf8EncodeChar < right.flatMap String.utf8EncodeChar := by
  induction left generalizing right with
  | nil =>
      cases right with
      | nil => exact absurd less (List.lt_irrefl _)
      | cons char rest =>
          have notEmpty := String.utf8EncodeChar_ne_nil (c := char)
          rw [List.flatMap_nil, List.flatMap_cons]
          cases bytes : String.utf8EncodeChar char with
          | nil => exact absurd bytes notEmpty
          | cons byte others => exact List.nil_lt_cons byte _
  | cons char rest ih =>
      cases right with
      | nil => exact absurd less (List.not_lt_nil _)
      | cons other others =>
          rw [List.flatMap_cons, List.flatMap_cons]
          rcases List.cons_lt_cons_iff.1 less with smaller | ⟨rfl, restLess⟩
          · exact utf8EncodeChar_append_lt smaller _ _
          · exact List.append_left_lt (ih restLess)

theorem ofString_lt_iff {left right : String} : ofString left < ofString right ↔ left < right := by
  have increases {left right : String} (less : left < right) : ofString left < ofString right := by
    rw [← String.ofList_toList (s := left), ← String.ofList_toList (s := right), ofString_ofList,
      ofString_ofList]
    exact flatMap_utf8EncodeChar_lt (String.lt_iff.1 less)
  refine ⟨fun less => ?_, increases⟩
  rcases Std.lt_trichotomy left right with isLess | rfl | isGreater
  · exact isLess
  · exact absurd less (List.lt_irrefl _)
  · exact absurd less (List.lt_asymm (increases isGreater))

end Bytes

theorem Block.compare_eq_lt_iff {size : Nat} {left right : Block size} :
    compare left right = .lt ↔ left.toList < right.toList := by
  rw [← Bytes.compare_eq_lt_iff, ← Vector.compareLex_eq_compareLex_toList]
  rfl

theorem Text.compare_eq_lt_iff {left right : String} : compare left right = .lt ↔ left < right :=
  compare_lt_iff_lt

/-! ### What sets and maps keep -/

theorem PublicKey.compare_eq_lt_iff {left right : PublicKey} :
    compare left right = .lt ↔ left.bytes.toList < right.bytes.toList :=
  Block.compare_eq_lt_iff

theorem Party.compare_eq_lt_iff {left right : Party} :
    compare left right = .lt ↔ left.name < right.name ∨
      left.name = right.name ∧ left.owningKey.bytes.toList < right.owningKey.bytes.toList :=
  compareLex_eq_lt_iff.trans
    (or_congr Text.compare_eq_lt_iff (and_congr_right fun _ => PublicKey.compare_eq_lt_iff))

theorem LinearId.compare_eq_lt_iff {left right : LinearId} :
    compare left right = .lt ↔ left.externalId < right.externalId ∨
      left.externalId = right.externalId ∧ left.uuid.bytes.toList < right.uuid.bytes.toList := by
  refine compareLex_eq_lt_iff.trans
    (or_congr ?_ (and_congr_right fun _ => Block.compare_eq_lt_iff))
  rcases left.externalId with _ | label <;> rcases right.externalId with _ | other
  · simp
  · exact iff_of_true rfl trivial
  · simp
  · exact Text.compare_eq_lt_iff

theorem Permission.compare_set_eq_lt_iff {left right : SortedSet Permission} :
    compare left right = .lt ↔
      left.toList.map Permission.rank < right.toList.map Permission.rank :=
  @compare_list_eq_lt_iff Permission Nat _ compare Permission.rank Nat.compare_eq_eq
    Nat.compare_eq_lt left.toList right.toList

theorem Role.compare_eq_lt_iff {left right : Role} :
    compare left right = .lt ↔ left.name < right.name ∨ left.name = right.name ∧
      left.permissions.toList.map Permission.rank < right.permissions.toList.map Permission.rank :=
  compareLex_eq_lt_iff.trans
    (or_congr Text.compare_eq_lt_iff (and_congr_right fun _ => Permission.compare_set_eq_lt_iff))

theorem ContractId.compare_eq_lt_iff {left right : ContractId} :
    compare left right = .lt ↔ left.name < right.name :=
  Text.compare_eq_lt_iff

theorem LockKey.compare_eq_lt_iff {left right : LockKey} :
    compare left right = .lt ↔ left.kind.tag < right.kind.tag ∨
      left.kind = right.kind ∧ left.payload < right.payload := by
  have sameTag : left.kind.tag = right.kind.tag ↔ left.kind = right.kind :=
    ⟨LockKind.tag_injective, congrArg LockKind.tag⟩
  rw [← Bytes.ofString_lt_iff, ← sameTag, ← List.cons_lt_cons_iff]
  exact Bytes.compare_eq_lt_iff

theorem StateRef.compare_eq_lt_iff {left right : StateRef} :
    compare left right = .lt ↔ left.txId.bytes.toList < right.txId.bytes.toList ∨
      left.txId = right.txId ∧ left.index < right.index :=
  compareLex_eq_lt_iff.trans
    (or_congr Block.compare_eq_lt_iff (and_congr_right fun _ => Std.compare_eq_lt))

end Consortium
