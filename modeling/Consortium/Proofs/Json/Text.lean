import Consortium.Proofs.Json.Literal

/-!
Compact text is read back as the value that it was written for. Of a value only its numbers and its
literals have to be spelled as they are when they are written; then its text opens with a character
that tells how it is read, and the reader stops where the text does.
-/

namespace Consortium.Json

open Text

/-- Numbers and literals are spelled as a writer spells them. -/
inductive Value.WellSpelled : Value → Prop
  | null : WellSpelled .null
  | bool (value : Bool) : WellSpelled (.bool value)
  | number (number : Nat) : WellSpelled (.ofNat number)
  | string (text : List Char) : WellSpelled (.string (Literal.write text))
  | array {items : List Value} (spelled : ∀ item ∈ items, WellSpelled item) :
      WellSpelled (.array items)
  | object {fields : List (List Char × Value)}
      (named : ∀ field ∈ fields, ∃ name, field.1 = Literal.write name)
      (spelled : ∀ field ∈ fields, WellSpelled field.2) : WellSpelled (.object fields)

namespace Reader

/-! ### Numbers -/

/-- The text goes on with a separator or a closing bracket, or is at its end. -/
def Ends (rest : List Char) : Prop :=
  ∀ char ∈ rest.head?, char = ',' ∨ char = ']' ∨ char = '\x7d'

theorem Ends.spanDigits {digits rest : List Char} (ends : Ends rest)
    (areDigits : ∀ char ∈ digits, Text.isDigit char = true) :
    spanDigits (digits ++ rest) = (digits, rest) := by
  have stops : rest.takeWhile Text.isDigit = [] ∧ rest.dropWhile Text.isDigit = rest := by
    cases rest with
    | nil => exact ⟨rfl, rfl⟩
    | cons char others =>
        have notDigit : Text.isDigit char = false := by
          rcases ends char rfl with rfl | rfl | rfl <;> decide
        simp [notDigit]
  rw [Reader.spanDigits, List.takeWhile_append_of_pos areDigits,
    List.dropWhile_append_of_pos areDigits, stops.1, stops.2, List.append_nil]

theorem Ends.number? {rest : List Char} (ends : Ends rest) (number : Nat) :
    number? (Nat.toDigits 10 number ++ rest) = some (Nat.toDigits 10 number, rest) := by
  have areDigits (char : Char) (member : char ∈ Nat.toDigits 10 number) :
      Text.isDigit char = true := isDigit_of_mem_toDigits member
  have span := ends.spanDigits areDigits
  have whole : wholePart? (Nat.toDigits 10 number ++ rest) =
      some (Nat.toDigits 10 number, rest) := by
    cases spelled : Nat.toDigits 10 number with
    | nil => exact absurd spelled Nat.toDigits_ne_nil
    | cons first others =>
        rw [spelled] at span
        simp only [wholePart?, digits?, span]
        split
        · rename_i equal
          cases equal
          cases tail_of_toDigits_eq_zero_cons spelled
        · rfl
  have noFraction : fraction? rest = some ([], rest) := by
    unfold fraction?
    split
    · rename_i others
      exact absurd (ends '.' rfl) (by decide)
    · rfl
  have noExponent : exponent? rest = some ([], rest) := by
    unfold exponent?
    split
    · rfl
    · rename_i char others
      rw [if_neg]
      rintro (rfl | rfl) <;> exact absurd (ends _ rfl) (by decide)
  have unsigned : unsignedNumber? (Nat.toDigits 10 number ++ rest) =
      some (Nat.toDigits 10 number, rest) := by
    simp [unsignedNumber?, whole, noFraction, noExponent]
  cases spelled : Nat.toDigits 10 number with
  | nil => exact absurd spelled Nat.toDigits_ne_nil
  | cons first others =>
      rw [spelled] at unsigned
      have digit : Text.isDigit first = true := areDigits first (by simp [spelled])
      unfold Reader.number?
      split
      · rename_i equal
        obtain ⟨rfl, -⟩ := List.cons.inj equal
        exact absurd digit (by decide)
      · exact unsigned

/-! ### Values -/

theorem skipBlanks_cons {char : Char} (notBlank : isSpace char = false) (rest : List Char) :
    skipBlanks (char :: rest) = char :: rest := by
  simp [skipBlanks, notBlank]

theorem Ends.skipBlanks {rest : List Char} (ends : Ends rest) : skipBlanks rest = rest := by
  cases rest with
  | nil => rfl
  | cons char others =>
      apply skipBlanks_cons
      rcases ends char rfl with rfl | rfl | rfl <;> decide

/-- The text of a value opens neither with a blank nor with a closing bracket. -/
theorem opens_toChars {value : Value} (spelled : value.WellSpelled) :
    ∃ first others, value.toChars = first :: others ∧ isSpace first = false ∧ first ≠ ']' := by
  cases spelled with
  | null => exact ⟨'n', _, rfl, by decide, by decide⟩
  | bool value =>
      cases value
      · exact ⟨'f', _, rfl, by decide, by decide⟩
      · exact ⟨'t', _, rfl, by decide, by decide⟩
  | number number =>
      cases digits : Nat.toDigits 10 number with
      | nil => exact absurd digits Nat.toDigits_ne_nil
      | cons first others =>
          have digit : Text.isDigit first = true :=
            isDigit_of_mem_toDigits (by rw [digits]; exact List.mem_cons_self)
          refine ⟨first, others, by simp [Value.ofNat, Value.toChars, digits], ?_, ?_⟩
          · simp [isSpace]
            refine ⟨⟨⟨?_, ?_⟩, ?_⟩, ?_⟩ <;> (rintro rfl; exact absurd digit (by decide))
          · rintro rfl
            exact absurd digit (by decide)
  | string text => exact ⟨'"', _, rfl, by decide, by decide⟩
  | array =>
      rename_i items each
      cases items <;> exact ⟨'[', _, rfl, by decide, by decide⟩
  | object =>
      rename_i fields named each
      cases fields <;> exact ⟨'\x7b', _, rfl, by decide, by decide⟩

/-- With as many nested calls as it has characters the text of `value` is read, whatever follows
it. -/
def Legible (value : Value) : Prop :=
  ∀ depth rest, value.toChars.length ≤ depth → Ends rest →
    value? depth (value.toChars ++ rest) = some (value, rest)

theorem items?_toChars {item : Value} {others : List Value}
    (legible : ∀ value ∈ item :: others, Legible value) {depth : Nat} (rest : List Char)
    (deep : item.toChars.length + (Value.itemsToChars others).length ≤ depth) :
    items? depth (item.toChars ++ (Value.itemsToChars others ++ rest)) =
      some (item :: others, rest) := by
  induction others generalizing item depth with
  | nil =>
      obtain _ | depth := depth
      · simp [Value.itemsToChars] at deep
      simp only [Value.itemsToChars, List.length_singleton] at deep
      have read := legible item List.mem_cons_self depth (']' :: rest) (by omega)
        (by rintro _ ⟨⟩; simp)
      simp [items?, Value.itemsToChars, read, skipBlanks_cons, isSpace]
  | cons next others ih =>
      obtain _ | depth := depth
      · simp [Value.itemsToChars] at deep
      simp only [Value.itemsToChars, List.length_append, List.length_cons] at deep
      have read := legible item List.mem_cons_self depth
        (',' :: (next.toChars ++ (Value.itemsToChars others ++ rest))) (by omega)
        (by rintro _ ⟨⟩; simp)
      have readOthers : items? depth (next.toChars ++ (Value.itemsToChars others ++ rest)) =
          some (next :: others, rest) :=
        ih (fun value member => legible value (List.mem_cons_of_mem _ member)) (by omega)
      simp [items?, Value.itemsToChars, read, readOthers, skipBlanks_cons, isSpace]

theorem fields?_toChars {name : List Char} {value : Value} {others : List (List Char × Value)}
    (named : ∀ field ∈ others, ∃ text, field.1 = Literal.write text) (legible : Legible value)
    (othersLegible : ∀ field ∈ others, Legible field.2) {depth : Nat} (rest : List Char)
    (deep : value.toChars.length + (Value.fieldsToChars others).length ≤ depth) :
    fields? depth
        ('"' :: (Literal.write name ++
          '"' :: ':' :: (value.toChars ++ (Value.fieldsToChars others ++ rest)))) =
      some ((Literal.write name, value) :: others, rest) := by
  induction others generalizing name value depth with
  | nil =>
      obtain _ | depth := depth
      · simp [Value.fieldsToChars] at deep
      simp only [Value.fieldsToChars, List.length_singleton] at deep
      have read := legible depth ('\x7d' :: rest) (by omega) (by rintro _ ⟨⟩; simp)
      simp [fields?, Value.fieldsToChars, read, literal?_write, skipBlanks_cons, isSpace]
  | cons next others ih =>
      obtain ⟨key, nextValue⟩ := next
      obtain ⟨⟨nextName, rfl⟩, othersNamed⟩ := List.forall_mem_cons.1 named
      obtain ⟨(nextLegible : Legible nextValue), othersLegible⟩ :=
        List.forall_mem_cons.1 othersLegible
      obtain _ | depth := depth
      · simp [Value.fieldsToChars] at deep
      simp only [Value.fieldsToChars, List.cons_append, List.length_append,
        List.length_cons] at deep
      have readOthers : fields? depth ('"' :: (Literal.write nextName ++
          '"' :: ':' :: (nextValue.toChars ++ (Value.fieldsToChars others ++ rest)))) =
          some ((Literal.write nextName, nextValue) :: others, rest) :=
        ih othersNamed nextLegible othersLegible (by omega)
      have read := legible depth
        (',' :: '"' :: (Literal.write nextName ++
          '"' :: ':' :: (nextValue.toChars ++ (Value.fieldsToChars others ++ rest))))
        (by omega) (by rintro _ ⟨⟩; simp)
      simp [fields?, Value.fieldsToChars, read, readOthers, literal?_write, skipBlanks_cons,
        isSpace]

theorem value?_digit_cons {first : Char} (digit : Text.isDigit first = true) (depth : Nat)
    (rest : List Char) :
    value? (depth + 1) (first :: rest) =
      (number? (first :: rest)).map fun found => (.number found.1, found.2) := by
  have is_not {char : Char} (notDigit : Text.isDigit char = false) : first ≠ char := by
    rintro rfl
    rw [digit] at notDigit
    cases notDigit
  have notBlank : isSpace first = false := by
    simp [isSpace, is_not (by decide : Text.isDigit ' ' = false),
      is_not (by decide : Text.isDigit '\n' = false),
      is_not (by decide : Text.isDigit '\t' = false),
      is_not (by decide : Text.isDigit '\r' = false)]
  rw [value?, skipBlanks_cons notBlank]
  split
  case h_7 => rfl
  all_goals
    rename_i equal
    exact absurd (List.cons.inj equal).1 (is_not (by decide))

theorem legible_number (number : Nat) : Legible (.ofNat number) := by
  intro depth rest deep ends
  have read := ends.number? number
  simp only [Value.ofNat, Value.toChars, Nat.toString_eq_repr, Nat.toList_repr] at deep ⊢
  cases spelled : Nat.toDigits 10 number with
  | nil => exact absurd spelled Nat.toDigits_ne_nil
  | cons first others =>
      have digit : Text.isDigit first = true :=
        isDigit_of_mem_toDigits (by rw [spelled]; exact List.mem_cons_self)
      rw [spelled] at deep read
      obtain _ | depth := depth
      · simp at deep
      rw [List.cons_append] at read ⊢
      rw [value?_digit_cons digit, read]
      rfl

theorem value?_bracket_cons {first : Char} (notBlank : isSpace first = false)
    (notBracket : first ≠ ']') (depth : Nat) (rest : List Char) :
    value? (depth + 1) ('[' :: first :: rest) =
      (items? depth (first :: rest)).map fun found => (.array found.1, found.2) := by
  rw [value?, skipBlanks_cons (by decide)]
  simp only [skipBlanks_cons notBlank]
  split
  · rename_i equal
    exact absurd (List.cons.inj equal).1 notBracket
  · rfl

theorem legible_array {items : List Value} (spelled : ∀ item ∈ items, item.WellSpelled)
    (legible : ∀ item ∈ items, Legible item) : Legible (.array items) := by
  intro depth rest deep _
  cases items with
  | nil =>
      obtain _ | depth := depth
      · simp [Value.toChars] at deep
      simp [Value.toChars, value?, skipBlanks_cons, isSpace]
  | cons item others =>
      obtain ⟨first, following, opening, notBlank, notBracket⟩ :=
        opens_toChars (spelled item List.mem_cons_self)
      simp only [Value.toChars, List.cons_append, List.length_cons, List.length_append] at deep
      obtain _ | depth := depth
      · omega
      have read : items? depth (item.toChars ++ (Value.itemsToChars others ++ rest)) =
          some (item :: others, rest) := items?_toChars legible rest (by omega)
      rw [opening, List.cons_append] at read
      rw [Value.toChars, opening, List.append_assoc, List.cons_append, List.cons_append,
        value?_bracket_cons notBlank notBracket, read]
      rfl

theorem legible_object {fields : List (List Char × Value)}
    (named : ∀ field ∈ fields, ∃ name, field.1 = Literal.write name)
    (legible : ∀ field ∈ fields, Legible field.2) : Legible (.object fields) := by
  intro depth rest deep _
  cases fields with
  | nil =>
      obtain _ | depth := depth
      · simp [Value.toChars] at deep
      simp [Value.toChars, value?, skipBlanks_cons, isSpace]
  | cons field others =>
      obtain ⟨key, value⟩ := field
      obtain ⟨⟨name, (rfl : key = _)⟩, othersNamed⟩ := List.forall_mem_cons.1 named
      obtain ⟨(first : Legible value), othersLegible⟩ := List.forall_mem_cons.1 legible
      simp only [Value.toChars, List.cons_append, List.length_cons, List.length_append] at deep
      obtain _ | depth := depth
      · omega
      have read : fields? depth ('"' :: (Literal.write name ++
          '"' :: ':' :: (value.toChars ++ (Value.fieldsToChars others ++ rest)))) =
          some ((Literal.write name, value) :: others, rest) :=
        fields?_toChars othersNamed first othersLegible rest (by omega)
      simp [Value.toChars, value?, skipBlanks_cons, isSpace, read]

theorem legible_of_wellSpelled {value : Value} (spelled : value.WellSpelled) : Legible value := by
  induction spelled with
  | null =>
      intro depth rest deep _
      obtain _ | depth := depth
      · simp [Value.toChars] at deep
      simp [Value.toChars, value?, skipBlanks_cons, isSpace]
  | bool value =>
      intro depth rest deep _
      obtain _ | depth := depth
      · cases value <;> simp [Value.toChars] at deep
      cases value <;> simp [Value.toChars, value?, skipBlanks_cons, isSpace]
  | number number => exact legible_number number
  | string text =>
      intro depth rest deep _
      obtain _ | depth := depth
      · simp [Value.toChars] at deep
      simp [Value.toChars, value?, skipBlanks_cons, isSpace, literal?_write]
  | array spelled legible => exact legible_array spelled legible
  | object named _ legible => exact legible_object named legible

end Reader

theorem Value.ofText?_toText {value : Value} (spelled : value.WellSpelled) :
    Value.ofText? value.toText = some value := by
  have read := Reader.legible_of_wellSpelled spelled (value.toChars.length + 1) []
    (Nat.le_succ _) (by simp [Reader.Ends])
  rw [List.append_nil] at read
  simp [Value.ofText?, Value.toText, read, Reader.skipBlanks]

end Consortium.Json
