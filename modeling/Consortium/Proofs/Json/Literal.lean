import Consortium.Json.Reader
import Consortium.Proofs.Identity.Spelling
import Mathlib.Tactic.SplitIfs

/-!
What is written between quotes is read again. The escape of a character is read as one piece,
whatever follows it, and no such piece is half of a surrogate pair, so the pieces of a text join to
the text. Nor does an escape hold a bare quote, so the reader of tokens finds the end of a literal.
-/

namespace Consortium.Json.Literal

open Text

def isPlain (char : Char) : Bool := char ≠ '"' && char ≠ '\\' && !isControl char

/-- What the escape of a character is read as. -/
def pieceOf (char : Char) : Piece := if isPlain char then .raw char else .unit char.toNat

/-! ### Escapes -/

/-- A character stands for itself, for a letter after a backslash, or for the last two of four
digits. -/
theorem escape_cases (char : Char) :
    (isPlain char ∧ escape char = [char]) ∨
    (¬ isPlain char ∧ ∃ letter, letter ≠ 'u' ∧ letterValue? letter = some char.toNat ∧
      escape char = ['\\', letter]) ∨
    (¬ isPlain char ∧ char.toNat < 32 ∧
      escape char =
        ['\\', 'u', '0', '0', hexDigit (char.toNat / 16), hexDigit (char.toNat % 16)]) := by
  unfold escape
  split_ifs with quote backslash feed carriage tab back form control
  · subst quote
    exact .inr (.inl ⟨by decide, '"', by decide, by decide, rfl⟩)
  · subst backslash
    exact .inr (.inl ⟨by decide, '\\', by decide, by decide, rfl⟩)
  · subst feed
    exact .inr (.inl ⟨by decide, 'n', by decide, by decide, rfl⟩)
  · subst carriage
    exact .inr (.inl ⟨by decide, 'r', by decide, by decide, rfl⟩)
  · subst tab
    exact .inr (.inl ⟨by decide, 't', by decide, by decide, rfl⟩)
  · refine .inr (.inl ⟨?_, 'b', by decide, by rw [back]; decide, rfl⟩)
    simp [isPlain, isControl, back]
  · refine .inr (.inl ⟨?_, 'f', by decide, by rw [form]; decide, rfl⟩)
    simp [isPlain, isControl, form]
  · refine .inr (.inr ⟨?_, of_decide_eq_true control, rfl⟩)
    simp [isPlain, control]
  · refine .inl ⟨?_, rfl⟩
    simp [isPlain, quote, backslash, control]

theorem unitValue?_of_lt {value : Nat} (isByte : value < 256) :
    unitValue? '0' '0' (hexDigit (value / 16)) (hexDigit (value % 16)) = some value := by
  have high : hexValue? (hexDigit (value / 16)) = some (value / 16) :=
    hexValue?_hexDigit (by omega)
  have low : hexValue? (hexDigit (value % 16)) = some (value % 16) :=
    hexValue?_hexDigit (by omega)
  have zero : hexValue? '0' = some 0 := by decide
  simp only [unitValue?, high, low, zero, Option.bind_eq_bind, Option.bind_some]
  congr 1
  omega

theorem pieces?_escape_append (char : Char) (rest : List Char) :
    pieces? (escape char ++ rest) = (pieces? rest).map (pieceOf char :: ·) := by
  rcases escape_cases char with
    ⟨plain, escaped⟩ | ⟨special, letter, notUnit, value, escaped⟩ | ⟨special, small, escaped⟩
  · have notBackslash : char ≠ '\\' := by
      rintro rfl
      exact absurd plain (by decide)
    rw [escaped, pieceOf, if_pos plain]
    simp [pieces?, notBackslash]
  · rw [escaped, pieceOf, if_neg special]
    simp [pieces?, notUnit, value]
    cases pieces? rest <;> rfl
  · rw [escaped, pieceOf, if_neg special]
    simp [pieces?, unitValue?_of_lt (Nat.lt_trans small (by decide))]
    cases pieces? rest <;> rfl

theorem pieces?_write (text : List Char) : pieces? (write text) = some (text.map pieceOf) := by
  induction text with
  | nil => rfl
  | cons char rest ih =>
      rw [write, List.flatMap_cons, pieces?_escape_append, ← write, ih]
      rfl

/-! ### Pieces -/

theorem toNat_lt_of_not_isPlain {char : Char} (special : ¬ isPlain char) : char.toNat < 128 := by
  by_cases quote : char = '"'
  · subst quote
    decide
  by_cases backslash : char = '\\'
  · subst backslash
    decide
  have control : char.toNat < 32 := by
    simpa [isPlain, quote, backslash, isControl] using special
  omega

theorem textOfPieces?_unit_cons {value : Nat} (isAscii : value < 128) (rest : List Piece) :
    textOfPieces? (.unit value :: rest) = (textOfPieces? rest).map (Char.ofNat value :: ·) := by
  have notHigh : isHighSurrogate value = false := by
    simp only [isHighSurrogate, Bool.and_eq_false_iff, decide_eq_false_iff_not]
    omega
  have notLow : isLowSurrogate value = false := by
    simp only [isLowSurrogate, Bool.and_eq_false_iff, decide_eq_false_iff_not]
    omega
  rcases rest with _ | ⟨_ | low, rest⟩ <;> simp [textOfPieces?, notHigh, notLow]

theorem textOfPieces?_pieceOf_cons (char : Char) (rest : List Piece) :
    textOfPieces? (pieceOf char :: rest) = (textOfPieces? rest).map (char :: ·) := by
  by_cases plain : isPlain char
  · have printable : isControl char = false := by
      simp only [isPlain, Bool.and_eq_true, Bool.not_eq_true'] at plain
      exact plain.2
    rw [pieceOf, if_pos plain]
    simp [textOfPieces?, printable]
  · rw [pieceOf, if_neg plain, textOfPieces?_unit_cons (toNat_lt_of_not_isPlain plain),
      Char.ofNat_toNat]

theorem textOfPieces?_map_pieceOf (text : List Char) :
    textOfPieces? (text.map pieceOf) = some text := by
  induction text with
  | nil => rfl
  | cons char rest ih => rw [List.map_cons, textOfPieces?_pieceOf_cons, ih]; rfl

theorem read?_write (text : List Char) : read? (write text) = some text := by
  rw [read?, pieces?_write, Option.bind_some, textOfPieces?_map_pieceOf]

end Consortium.Json.Literal

namespace Consortium.Json.Reader

open Literal Text

/-! ### Literals as tokens -/

theorem hexDigit_ne_special (value : Nat) (isDigit : value < 16) :
    hexDigit value ≠ '"' ∧ hexDigit value ≠ '\\' := by
  revert value
  decide

theorem literal?_cons {char : Char} (notQuote : char ≠ '"') (notBackslash : char ≠ '\\')
    (rest : List Char) :
    literal? (char :: rest) = (literal? rest).map fun found => (char :: found.1, found.2) := by
  simp [literal?, notBackslash]
  cases literal? rest <;> rfl

theorem literal?_escape_append (char : Char) (rest : List Char) :
    literal? (escape char ++ rest) =
      (literal? rest).map fun found => (escape char ++ found.1, found.2) := by
  rcases escape_cases char with
    ⟨plain, escaped⟩ | ⟨_, letter, _, _, escaped⟩ | ⟨_, small, escaped⟩
  · have special : char ≠ '"' ∧ char ≠ '\\' := by
      constructor <;> (rintro rfl; exact absurd plain (by decide))
    rw [escaped]
    exact literal?_cons special.1 special.2 rest
  · rw [escaped]
    simp [literal?]
    cases literal? rest <;> rfl
  · obtain ⟨high, high'⟩ := hexDigit_ne_special (char.toNat / 16) (by omega)
    obtain ⟨low, low'⟩ := hexDigit_ne_special (char.toNat % 16) (by omega)
    rw [escaped]
    simp [literal?, literal?_cons, high, high', low, low']
    cases literal? rest <;> rfl

theorem literal?_write (text rest : List Char) :
    literal? (write text ++ '"' :: rest) = some (write text, rest) := by
  induction text with
  | nil => simp [write, literal?]
  | cons char others ih =>
      rw [write, List.flatMap_cons, List.append_assoc, literal?_escape_append, ← write, ih]
      rfl

end Consortium.Json.Reader
