/-!
Total orders. A type whose values are kept in a set or used as keys has an `Ord` instance that is
lawful: transitive (`Std.TransOrd`), and equal only on equal values (`Std.LawfulEqOrd`). The orders
of this library compare one field after another.
-/

namespace Consortium

open Std

theorem eq_of_compare_eq {α : Type} [Ord α] [LawfulEqOrd α] {left right : α}
    (equal : compare left right = .eq) : left = right :=
  LawfulEqCmp.eq_of_compare equal

theorem compare_self_eq {α : Type} [Ord α] [LawfulEqOrd α] (value : α) :
    compare value value = .eq :=
  ReflCmp.compare_self

/-- An oriented comparison that is `.eq` only on equal values is lawful. -/
theorem lawfulEqCmp_of_eq {α : Type} {cmp : α → α → Ordering} [OrientedCmp cmp]
    (eq_of_cmp : ∀ {left right}, cmp left right = .eq → left = right) :
    LawfulEqCmp cmp where
  eq_of_compare := eq_of_cmp

theorem lawfulEqCmp_compareOn {α β : Type} [Ord β] [TransOrd β] [LawfulEqOrd β]
    {key : α → β} (injective : ∀ {left right}, key left = key right → left = right) :
    LawfulEqCmp (compareOn key) :=
  lawfulEqCmp_of_eq fun equal => injective (eq_of_compare_eq equal)

/-- Comparing by two keys in turn is lawful when the two together determine the value. -/
theorem lawfulEqCmp_compareLex {α β γ : Type}
    [Ord β] [TransOrd β] [LawfulEqOrd β] [Ord γ] [TransOrd γ] [LawfulEqOrd γ]
    {first : α → β} {second : α → γ}
    (injective : ∀ {left right},
      first left = first right → second left = second right → left = right) :
    LawfulEqCmp (compareLex (compareOn first) (compareOn second)) :=
  lawfulEqCmp_of_eq fun equal =>
    have ⟨firstEqual, secondEqual⟩ := Ordering.then_eq_eq.1 equal
    injective (eq_of_compare_eq firstEqual) (eq_of_compare_eq secondEqual)

end Consortium
