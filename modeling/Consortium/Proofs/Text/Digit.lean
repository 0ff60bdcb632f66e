import Consortium.Text.Digit
import Mathlib.Data.List.Basic

/-!
Digits as characters. The digit that is written for a value is read as that value, and a letter is
read in either case. Numbers are written without zeros in front.
-/

namespace Consortium.Text

/-! ### Hexadecimal digits -/

theorem toNat_hexDigit_lt (value : Nat) (isDigit : value < 16) : (hexDigit value).toNat < 128 := by
  revert value
  decide

theorem toNat_lt_of_toLower {char : Char} (ascii : char.toLower.toNat < 128) :
    char.toNat < 128 := by
  delta Char.toLower at ascii
  split at ascii
  · rename_i isUpper
    have : char.val.toNat ≤ 90 := UInt32.le_iff_toNat_le.1 isUpper.2
    exact Nat.lt_of_le_of_lt this (by decide)
  · exact ascii

theorem toNat_lt_of_hexValue? {char : Char} {value : Nat} (isDigit : hexValue? char = some value) :
    char.toNat < 128 := by
  by_contra large
  have above (greatest : Char) (ascii : greatest.toNat < 128) : ¬ char ≤ greatest := fun within =>
    large (Nat.lt_of_le_of_lt (UInt32.le_iff_toNat_le.1 (Char.le_def.1 within)) ascii)
  simp [hexValue?, Text.isDigit, above '9' (by decide), above 'f' (by decide),
    above 'F' (by decide)] at isDigit

theorem hexValue?_hexDigit {value : Nat} (isDigit : value < 16) :
    hexValue? (hexDigit value) = some value := by
  revert value
  decide

theorem hexValue?_upperHexDigit {value : Nat} (isDigit : value < 16) :
    hexValue? (upperHexDigit value) = some value := by
  revert value
  decide

theorem hexDigit_injective {left right : Nat} (leftIsDigit : left < 16) (rightIsDigit : right < 16)
    (same : hexDigit left = hexDigit right) : left = right := by
  have read := congrArg hexValue? same
  rw [hexValue?_hexDigit leftIsDigit, hexValue?_hexDigit rightIsDigit] at read
  exact Option.some.inj read

/-- Letters count as digits in either case. -/
theorem hexValue?_eq_some_iff {char : Char} {value : Nat} :
    hexValue? char = some value ↔ value < 16 ∧ char.toLower = hexDigit value := by
  have table : ∀ code < 128, (∀ value ∈ hexValue? (Char.ofNat code), value < 16) ∧
      ∀ value < 16, hexValue? (Char.ofNat code) = some value ↔
        (Char.ofNat code).toLower = hexDigit value := by
    decide +kernel
  have ofChar {char : Char} (ascii : char.toNat < 128) := table char.toNat ascii
  simp only [Char.ofNat_toNat] at ofChar
  constructor
  · intro isDigit
    obtain ⟨bound, same⟩ := ofChar (toNat_lt_of_hexValue? isDigit)
    exact ⟨bound value isDigit, (same value (bound value isDigit)).1 isDigit⟩
  · intro ⟨small, same⟩
    have ascii := toNat_lt_of_toLower (same ▸ toNat_hexDigit_lt value small)
    exact ((ofChar ascii).2 value small).2 same

/-! ### Numbers in decimal -/

theorem isDigit_of_mem_toDigits {number : Nat} {char : Char}
    (member : char ∈ Nat.toDigits 10 number) : isDigit char = true := by
  have digit := Nat.isDigit_of_mem_toDigits (by decide) (by decide) member
  simpa [isDigit, Char.isDigit, Char.le_def, UInt32.le_iff_toNat_le] using digit

/-- Only the number zero is spelled with a zero in front. -/
theorem tail_of_toDigits_eq_zero_cons {number : Nat} {rest : List Char}
    (spelled : Nat.toDigits 10 number = '0' :: rest) : rest = [] := by
  induction number using Nat.strongRecOn generalizing rest with
  | ind number ih =>
      rw [Nat.toDigits_eq_if (by decide)] at spelled
      split at spelled
      · exact (List.cons.inj spelled).2.symm
      · rename_i large
        cases front : Nat.toDigits 10 (number / 10) with
        | nil => exact absurd front Nat.toDigits_ne_nil
        | cons first others =>
            rw [front, List.cons_append] at spelled
            obtain ⟨rfl, rfl⟩ := List.cons.inj spelled
            obtain rfl := ih _ (by omega) front
            have quotient : number / 10 = 0 := by
              rw [← Nat.ofDigitChars_ten_toDigits (n := number / 10), front]
              rfl
            omega

end Consortium.Text
