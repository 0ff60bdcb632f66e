import Consortium.Proofs.Text.Digit
import Consortium.Toml.Literal
import Consortium.Toml.Style
import Mathlib.Tactic.SplitIfs

/-!
Strings are read back in whatever style they are written. An escape is read as its character,
whatever follows it, and the other characters stand for themselves; only quotes depend on what is
around them. A reader of several lines looks for three in a row, and takes up to two before them to
belong to the string, so a writer has to keep the string itself from holding three.
-/

namespace Consortium.Toml

open Text

namespace Literal

/-- What a reader finds when there is one character more to be found. -/
def prepend (char : Char) (found : List Char × List Char) : List Char × List Char :=
  (char :: found.1, found.2)

@[simp] theorem bind_prepend (read? : Option (List Char × List Char)) (char : Char) :
    (read?.bind fun found => some (char :: found.1, found.2)) = read?.map (prepend char) :=
  (Option.map_eq_bind (f := prepend char)).symm

theorem mem_of_prepend {read? : Option (List Char × List Char)} {char : Char}
    {text rest : List Char} (found : read?.map (prepend char) = some (text, rest)) :
    char ∈ text := by
  obtain ⟨later, -, same⟩ := Option.map_eq_some_iff.1 found
  cases same
  exact List.mem_cons_self

/-! ### Characters that stand for themselves -/

theorem ne_lineEnd_of_isPrintable {char : Char} (printable : isPrintable char = true) :
    char ≠ '\n' ∧ char ≠ '\r' := by
  constructor <;> rintro rfl <;> exact absurd printable (by decide)

theorem basic?_cons {char : Char} (printable : isPrintable char = true) (notQuote : char ≠ '"')
    (notBackslash : char ≠ '\\') (rest : List Char) :
    basic? (char :: rest) = (basic? rest).map (prepend char) := by
  simp [basic?, notBackslash, printable]

theorem multilineBasic?_lineEnd (rest : List Char) :
    multilineBasic? false ('\n' :: rest) = (multilineBasic? false rest).map (prepend '\n') := by
  simp [multilineBasic?]

theorem multilineBasic?_carriageReturn (rest : List Char) :
    multilineBasic? false ('\r' :: '\n' :: rest) =
      (multilineBasic? false rest).map (prepend '\n') := by
  simp [multilineBasic?]

theorem multilineBasic?_cons {char : Char} {rest : List Char} (printable : isPrintable char = true)
    (notBackslash : char ≠ '\\') (noClosing : ∀ others, char = '"' → rest ≠ '"' :: '"' :: others) :
    multilineBasic? false (char :: rest) = (multilineBasic? false rest).map (prepend char) := by
  obtain ⟨notLineEnd, notReturn⟩ := ne_lineEnd_of_isPrintable printable
  rw [multilineBasic?]
  · simp [printable]
  all_goals simp_all

theorem literal?_cons {char : Char} (printable : isPrintable char = true) (notQuote : char ≠ '\'')
    (rest : List Char) : literal? (char :: rest) = (literal? rest).map (prepend char) := by
  simp [literal?, printable]

theorem multilineLiteral?_lineEnd (rest : List Char) :
    multilineLiteral? ('\n' :: rest) = (multilineLiteral? rest).map (prepend '\n') := by
  simp [multilineLiteral?]

theorem multilineLiteral?_carriageReturn (rest : List Char) :
    multilineLiteral? ('\r' :: '\n' :: rest) = (multilineLiteral? rest).map (prepend '\n') := by
  simp [multilineLiteral?]

theorem multilineLiteral?_cons {char : Char} {rest : List Char}
    (printable : isPrintable char = true)
    (noClosing : ∀ others, char = '\'' → rest ≠ '\'' :: '\'' :: others) :
    multilineLiteral? (char :: rest) = (multilineLiteral? rest).map (prepend char) := by
  obtain ⟨notLineEnd, notReturn⟩ := ne_lineEnd_of_isPrintable printable
  rw [multilineLiteral?]
  · simp [printable]
  all_goals simp_all

/-! ### Opening quotes -/

/-- The two quotes of an empty string do not open a text of several lines. -/
theorem read?_of_basic? {text string rest : List Char}
    (read : basic? text = some (string, '\n' :: rest)) :
    read? ('"' :: text) = some (string, '\n' :: rest) := by
  unfold read?
  split
  · rename_i opens
    obtain ⟨-, rfl⟩ := List.cons.inj opens
    simp [basic?] at read
  · rename_i opens
    exact absurd (List.cons.inj opens).1 (by decide)
  · exact read

theorem read?_of_literal? {text string rest : List Char}
    (read : literal? text = some (string, '\n' :: rest)) :
    read? ('\'' :: text) = some (string, '\n' :: rest) := by
  unfold read?
  split
  · rename_i opens
    exact absurd (List.cons.inj opens).1 (by decide)
  · rename_i opens
    obtain ⟨-, rfl⟩ := List.cons.inj opens
    simp [literal?] at read
  · exact read

theorem skipLineEnd_eq_self {reader : List Char → Option (List Char × List Char)}
    (lineEnd : ∀ rest, reader ('\n' :: rest) = (reader rest).map (prepend '\n'))
    (carriageReturn : ∀ rest, reader ('\r' :: '\n' :: rest) = (reader rest).map (prepend '\n'))
    {more text rest : List Char} (read : reader more = some (text, rest))
    (oneLine : '\n' ∉ text) : skipLineEnd more = more := by
  unfold skipLineEnd
  split
  · rw [lineEnd] at read
    exact absurd (mem_of_prepend read) oneLine
  · rw [carriageReturn] at read
    exact absurd (mem_of_prepend read) oneLine
  · rfl

/-! ### Escapes -/

/-- A spelling is read as one character, whatever follows it. -/
structure StandsFor (spelling : List Char) (char : Char) : Prop where
  basic (rest : List Char) : basic? (spelling ++ rest) = (basic? rest).map (prepend char)
  multiline (rest : List Char) :
    multilineBasic? false (spelling ++ rest) = (multilineBasic? false rest).map (prepend char)

theorem letter_of_escaped? {letter char : Char} (escaped : escaped? letter = some char) :
    letter ≠ 'u' ∧ letter ≠ 'U' ∧ ∀ rest, endsLine (letter :: rest) = false := by
  have letters : letter ∈ ['b', 't', 'n', 'f', 'r', '"', '\\'] := by
    unfold escaped? at escaped
    split_ifs at escaped <;> simp [*]
  clear escaped
  revert letter
  simp [endsLine, isSpace]

theorem standsFor_letter {letter char : Char} (escaped : escaped? letter = some char) :
    StandsFor ['\\', letter] char := by
  obtain ⟨notShort, notLong, notBlank⟩ := letter_of_escaped? escaped
  constructor
  · intro rest
    simp [basic?, notShort, notLong, escaped]
  · intro rest
    simp [multilineBasic?, notShort, notLong, notBlank, escaped]

theorem standsFor_hex {char : Char} (isByte : char.toNat < 256) :
    StandsFor
      ['\\', 'u', '0', '0', upperHexDigit (char.toNat / 16), upperHexDigit (char.toNat % 16)]
      char := by
  have high : hexValue? (upperHexDigit (char.toNat / 16)) = some (char.toNat / 16) :=
    hexValue?_upperHexDigit (by omega)
  have low : hexValue? (upperHexDigit (char.toNat % 16)) = some (char.toNat % 16) :=
    hexValue?_upperHexDigit (by omega)
  have zero : hexValue? '0' = some 0 := by decide
  have value : char.toNat / 16 * 16 + char.toNat % 16 = char.toNat := by omega
  have scalar : scalar?
      ['0', '0', upperHexDigit (char.toNat / 16), upperHexDigit (char.toNat % 16)] = some char := by
    have valid : char.toNat.isValidChar := .inl (by omega)
    simp [scalar?, hexNumber?, high, low, zero, value, valid]
  constructor
  · intro rest
    simp [basic?, scalar]
  · intro rest
    simp [multilineBasic?, scalar]

end Literal

namespace StringStyle

open Literal

theorem standsFor_of_escape? {char : Char} {spelling : List Char}
    (escaped : escape? char = some spelling) : StandsFor spelling char := by
  unfold escape? at escaped
  split_ifs at escaped with tab backslash carriage back form control <;> cases escaped
  · subst tab
    exact standsFor_letter (by decide)
  · subst backslash
    exact standsFor_letter (by decide)
  · subst carriage
    exact standsFor_letter (by decide)
  · refine standsFor_letter ?_
    rw [← Char.ofNat_toNat char, back]
    decide
  · refine standsFor_letter ?_
    rw [← Char.ofNat_toNat char, form]
    decide
  · refine standsFor_hex ?_
    simp only [needsEscape, Bool.or_eq_true, Bool.and_eq_true, decide_eq_true_eq] at control
    omega

theorem isPrintable_or_eq_lineEnd {char : Char} (raw : needsEscape char = false) :
    isPrintable char = true ∨ char = '\n' := by
  by_cases tab : char = '\t'
  · exact .inl (by rw [tab]; decide)
  by_cases lineEnd : char = '\n'
  · exact .inr lineEnd
  · simp [needsEscape, tab, lineEnd] at raw
    simp [isPrintable, raw]

theorem of_escape?_eq_none {char : Char} (bare : escape? char = none) :
    char ≠ '\\' ∧ (isPrintable char = true ∨ char = '\n') := by
  unfold escape? at bare
  split_ifs at bare with tab backslash carriage back form control
  exact ⟨backslash, isPrintable_or_eq_lineEnd (by simpa using control)⟩

theorem opens_escape? {char : Char} {spelling : List Char}
    (escaped : escape? char = some spelling) : ∃ rest, spelling = '\\' :: rest := by
  unfold escape? at escaped
  split_ifs at escaped <;> cases escaped <;> exact ⟨_, rfl⟩

/-! ### Texts with escapes -/

/-- How one character of a text is written: a quote in a text of several lines that is neither the
third in a row nor escaped, an escape, a character for itself, or the end of a line. -/
inductive Written (multiline : Bool) (run : Nat) (char : Char) (rest : List Char) : Prop
  | quote (isMultiline : multiline = true) (isQuote : char = '"') (spare : run < 2)
      (written : writeEscaped multiline run (char :: rest) =
        '"' :: writeEscaped multiline (run + 1) rest)
  | escape (spelling : List Char) (stands : StandsFor ('\\' :: spelling) char)
      (written : writeEscaped multiline run (char :: rest) =
        '\\' :: spelling ++ writeEscaped multiline 0 rest)
  | plain (printable : isPrintable char = true) (notQuote : char ≠ '"') (notBackslash : char ≠ '\\')
      (written : writeEscaped multiline run (char :: rest) = char :: writeEscaped multiline 0 rest)
  | lineEnd (isMultiline : multiline = true) (isLineEnd : char = '\n')
      (written : writeEscaped multiline run (char :: rest) = '\n' :: writeEscaped multiline 0 rest)

theorem written (multiline : Bool) (run : Nat) (char : Char) (rest : List Char) :
    Written multiline run char rest := by
  by_cases quote : char = '"'
  · subst quote
    by_cases spare : multiline = true ∧ run < 2
    · exact .quote spare.1 rfl spare.2 (by simp [writeEscaped, spare])
    · refine .escape ['"'] (standsFor_letter (by decide)) ?_
      rw [writeEscaped, if_pos rfl, if_neg (by simpa using spare)]
      rfl
  by_cases escapedEnd : char = '\n' ∧ multiline = false
  · obtain ⟨rfl, rfl⟩ := escapedEnd
    exact .escape ['n'] (standsFor_letter (by decide)) (by simp [writeEscaped])
  have step : writeEscaped multiline run (char :: rest) =
      (escape? char).getD [char] ++ writeEscaped multiline 0 rest := by
    rw [writeEscaped, if_neg quote, if_neg (by simpa using escapedEnd)]
    cases escape? char <;> rfl
  cases escaped : escape? char with
  | some spelling =>
      obtain ⟨more, rfl⟩ := opens_escape? escaped
      exact .escape more (standsFor_of_escape? escaped) (by rw [step, escaped]; rfl)
  | none =>
      obtain ⟨notBackslash, printable | isLineEnd⟩ := of_escape?_eq_none escaped
      · exact .plain printable quote notBackslash (by rw [step, escaped]; rfl)
      · subst isLineEnd
        exact .lineEnd (by simpa using escapedEnd) rfl (by rw [step, escaped]; rfl)

theorem basic?_writeEscaped (run : Nat) (text rest : List Char) :
    basic? (writeEscaped false run text ++ '"' :: rest) = some (text, rest) := by
  induction text generalizing run with
  | nil => simp [writeEscaped, basic?]
  | cons char others ih =>
      cases written false run char others with
      | quote isMultiline => exact absurd isMultiline Bool.false_ne_true
      | escape spelling stands written =>
          rw [written, List.append_assoc, stands.basic, ih]
          rfl
      | plain printable notQuote notBackslash written =>
          rw [written, List.cons_append, basic?_cons printable notQuote notBackslash, ih]
          rfl
      | lineEnd isMultiline => exact absurd isMultiline Bool.false_ne_true

/-- A text is written with an open quote at its start only if it starts with a quote, and only if
that is at most the second one in a row. -/
theorem of_writeEscaped_eq_quote_cons {run : Nat} {text rest others : List Char}
    (notEmpty : text ≠ []) (opens : writeEscaped true run text ++ rest = '"' :: others) :
    run < 2 ∧ ∃ more, text = '"' :: more ∧ writeEscaped true (run + 1) more ++ rest = others := by
  cases text with
  | nil => exact absurd rfl notEmpty
  | cons char more =>
      cases written true run char more with
      | quote _ isQuote spare written =>
          rw [written] at opens
          exact ⟨spare, more, by rw [isQuote], (List.cons.inj opens).2⟩
      | escape _ _ written =>
          rw [written] at opens
          exact absurd (List.cons.inj opens).1 (by decide)
      | plain _ notQuote _ written =>
          rw [written] at opens
          exact absurd (List.cons.inj opens).1 notQuote
      | lineEnd _ _ written =>
          rw [written] at opens
          exact absurd (List.cons.inj opens).1 (by decide)

/-- The closing quotes are found behind up to two quotes that belong to the text. -/
theorem multilineBasic?_writeEscaped (run : Nat) (text rest : List Char) :
    multilineBasic? false (writeEscaped true run text ++ '"' :: '"' :: '"' :: '\n' :: rest) =
      some (text, '\n' :: rest) := by
  induction text generalizing run with
  | nil => simp [writeEscaped, multilineBasic?]
  | cons char others ih =>
      cases written true run char others with
      | quote _ isQuote spare written =>
          subst isQuote
          rw [written, List.cons_append]
          by_cases single : others = []
          · subst single
            simp [writeEscaped, multilineBasic?]
          by_cases double : run = 0 ∧ others = ['"']
          · obtain ⟨rfl, rfl⟩ := double
            simp [writeEscaped, multilineBasic?]
          rw [multilineBasic?_cons (by decide) (by decide), ih]
          · rfl
          · intro more _ closes
            obtain ⟨isSecond, later, rfl, closes'⟩ := of_writeEscaped_eq_quote_cons single closes
            by_cases last : later = []
            · exact double ⟨by omega, by rw [last]⟩
            · have isThird := (of_writeEscaped_eq_quote_cons last closes').1
              omega
      | escape spelling stands written =>
          rw [written, List.append_assoc, stands.multiline, ih]
          rfl
      | plain printable notQuote notBackslash written =>
          rw [written, List.cons_append, multilineBasic?_cons printable notBackslash
            fun _ isQuote => absurd isQuote notQuote, ih]
          rfl
      | lineEnd _ isLineEnd written =>
          rw [written, List.cons_append, multilineBasic?_lineEnd, ih, isLineEnd]
          rfl

/-! ### Texts without escapes -/

theorem literal?_append {text : List Char} (plain : ∀ char ∈ text, isPrintable char = true)
    (noQuote : '\'' ∉ text) (rest : List Char) :
    literal? (text ++ '\'' :: rest) = some (text, rest) := by
  induction text with
  | nil => simp [literal?]
  | cons char others ih =>
      have ⟨notQuote, noQuote⟩ := not_or.1 (List.mem_cons.not.1 noQuote)
      have ⟨printable, plain⟩ := List.forall_mem_cons.1 plain
      rw [List.cons_append, literal?_cons printable (Ne.symm notQuote), ih plain noQuote]
      rfl

theorem hasTriple_of_cons {quote char : Char} {text : List Char}
    (noTriple : hasTriple quote (char :: text) = false) : hasTriple quote text = false := by
  match text with
  | [] | [_] => rfl
  | second :: third :: rest =>
      rw [hasTriple, Bool.or_eq_false_iff] at noTriple
      exact noTriple.2

theorem multilineLiteral?_append {text : List Char}
    (plain : ∀ char ∈ text, isPrintable char = true ∨ char = '\n')
    (noTriple : hasTriple '\'' text = false) (rest : List Char) :
    multilineLiteral? (text ++ '\'' :: '\'' :: '\'' :: '\n' :: rest) =
      some (text, '\n' :: rest) := by
  induction text with
  | nil => simp [multilineLiteral?]
  | cons char others ih =>
      have ⟨printable, plain⟩ := List.forall_mem_cons.1 plain
      have read := ih plain (hasTriple_of_cons noTriple)
      rw [List.cons_append]
      rcases printable with printable | rfl
      · by_cases single : char = '\'' ∧ others = []
        · obtain ⟨rfl, rfl⟩ := single
          simp [multilineLiteral?]
        by_cases double : char = '\'' ∧ others = ['\'']
        · obtain ⟨rfl, rfl⟩ := double
          simp [multilineLiteral?]
        rw [multilineLiteral?_cons printable, read]
        · rfl
        · rintro more rfl closes
          match others with
          | [] => exact single ⟨rfl, rfl⟩
          | [second] =>
              obtain rfl : second = '\'' := (List.cons.inj closes).1
              exact double ⟨rfl, rfl⟩
          | second :: third :: _ =>
              obtain ⟨rfl, closesThird⟩ := List.cons.inj closes
              obtain ⟨rfl, -⟩ := List.cons.inj closesThird
              simp [hasTriple] at noTriple
      · rw [multilineLiteral?_lineEnd, read]
        rfl

/-! ### Strings -/

theorem spells_choose {text : List Char} (bare : (choose text).hasEscapes = false) :
    (choose text).spells text = true := by
  unfold choose at bare ⊢
  split
  · rename_i found
    simpa using List.find?_some found
  · rename_i missing
    rw [missing] at bare
    split_ifs at bare <;> exact absurd bare (by decide)

/-- A text of several lines starts behind the line end that it is opened with; a text that holds no
line end does not start with one. -/
theorem read?_write {style : StringStyle} {text : List Char}
    (spelled : style.hasEscapes = false → style.spells text = true) (rest : List Char) :
    Literal.read? (style.write text ++ '\n' :: rest) = some (text, '\n' :: rest) := by
  cases style with
  | basic =>
      have read := read?_of_basic? (basic?_writeEscaped 0 text ('\n' :: rest))
      simpa [write, quotes, isMultiline, hasEscapes] using read
  | literal =>
      obtain ⟨raw, noQuote, oneLine⟩ : (∀ char ∈ text, needsEscape char = false) ∧
          '\'' ∉ text ∧ '\n' ∉ text := by simpa [spells] using spelled rfl
      have printable (char : Char) (member : char ∈ text) : isPrintable char = true :=
        (isPrintable_or_eq_lineEnd (raw char member)).resolve_right fun lineEnd =>
          oneLine (lineEnd ▸ member)
      have read := read?_of_literal? (literal?_append printable noQuote ('\n' :: rest))
      simpa [write, quotes, isMultiline, hasEscapes] using read
  | multilineBasic =>
      have read := multilineBasic?_writeEscaped 0 text rest
      by_cases severalLines : '\n' ∈ text
      · simpa [write, quotes, isMultiline, hasEscapes, severalLines, Literal.read?, skipLineEnd]
          using read
      · rw [← skipLineEnd_eq_self multilineBasic?_lineEnd multilineBasic?_carriageReturn read
          severalLines] at read
        simpa [write, quotes, isMultiline, hasEscapes, severalLines, Literal.read?] using read
  | multilineLiteral =>
      obtain ⟨raw, noTriple⟩ : (∀ char ∈ text, needsEscape char = false) ∧
          hasTriple '\'' text = false := by simpa [spells] using spelled rfl
      have read := multilineLiteral?_append
        (fun char member => isPrintable_or_eq_lineEnd (raw char member)) noTriple rest
      by_cases severalLines : '\n' ∈ text
      · simpa [write, quotes, isMultiline, hasEscapes, severalLines, Literal.read?, skipLineEnd]
          using read
      · rw [← skipLineEnd_eq_self multilineLiteral?_lineEnd multilineLiteral?_carriageReturn read
          severalLines] at read
        simpa [write, quotes, isMultiline, hasEscapes, severalLines, Literal.read?] using read

end StringStyle

theorem read?_writeString (text rest : List Char) :
    Literal.read? (writeString text ++ '\n' :: rest) = some (text, '\n' :: rest) :=
  StringStyle.read?_write StringStyle.spells_choose rest

end Consortium.Toml
