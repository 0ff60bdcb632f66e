import Consortium.Proofs.Toml.Literal
import Consortium.Toml.Reader

/-!
Entries that are written one a line are read as the table of their names and values. A name needs no
quotes, and a value opens with no bracket and ends with its line. A reader tries one kind of value
after another, so a string or a number is read as such only because the kinds before it refuse it.
-/

namespace Consortium.Toml

open Text

theorem ne_of_class {kind : Char → Bool} {char mark : Char} (within : kind char = true)
    (without : kind mark = false) : char ≠ mark := by
  rintro rfl
  exact absurd within (by rw [without]; decide)

theorem isSpace_of_class {kind : Char → Bool} {char : Char} (within : kind char = true)
    (space : kind ' ' = false) (tab : kind '\t' = false) : Literal.isSpace char = false := by
  simp [Literal.isSpace, ne_of_class within space, ne_of_class within tab]

/-! ### Numbers -/

/-- Digits as a writer sets them down: at least one, and no zero in front of others. -/
structure Canonical (digits : List Char) : Prop where
  areDigits : ∀ char ∈ digits, isDigit char = true
  notEmpty : digits ≠ []
  zero {others : List Char} : digits = '0' :: others → others = []

theorem canonical_toDigits (number : Nat) : Canonical (Nat.toDigits 10 number) where
  areDigits _ := isDigit_of_mem_toDigits
  notEmpty := Nat.toDigits_ne_nil
  zero := tail_of_toDigits_eq_zero_cons

namespace Number

theorem moreDigits_append {digits : List Char} (areDigits : ∀ char ∈ digits, isDigit char = true)
    (rest : List Char) : moreDigits isDigit (digits ++ '\n' :: rest) = (digits, '\n' :: rest) := by
  induction digits with
  | nil => simp [moreDigits, isDigit]
  | cons digit others ih =>
      obtain ⟨isDigit, areDigits⟩ := List.forall_mem_cons.1 areDigits
      rw [List.cons_append, moreDigits, ih areDigits]
      · simp [isDigit]
      · exact fun _ _ isMark => absurd isMark (ne_of_class isDigit (by decide))

theorem whole?_append {digits : List Char} (canonical : Canonical digits) (rest : List Char) :
    whole? (digits ++ '\n' :: rest) = some (digits, '\n' :: rest) := by
  unfold whole?
  cases digits with
  | nil => exact absurd rfl canonical.notEmpty
  | cons digit others =>
      obtain ⟨isDigit, areDigits⟩ := List.forall_mem_cons.1 canonical.areDigits
      split
      · rename_i opens
        obtain ⟨rfl, rfl⟩ := List.cons.inj opens
        cases canonical.zero rfl
        rfl
      · rw [List.cons_append, digits?, if_pos isDigit, moreDigits_append areDigits]

theorem ofDigits_toDigits (number : Nat) : ofDigits 10 (Nat.toDigits 10 number) = number := by
  calc ofDigits 10 (Nat.toDigits 10 number)
    _ = Nat.ofDigitChars 10 (Nat.toDigits 10 number) 0 := by
        rw [ofDigits, Nat.ofDigitChars_eq_foldl]
        refine List.foldl_ext _ _ _ fun value digit member => ?_
        have isDigit := isDigit_of_mem_toDigits member
        rw [hexValue?, if_pos isDigit, Nat.mul_comm]
        rfl
    _ = number := Nat.ofDigitChars_ten_toDigits

theorem sign_of_digit {digit : Char} (isDigit : isDigit digit = true) (rest : List Char) :
    sign (digit :: rest) = (false, digit :: rest) := by
  simp [sign, ne_of_class isDigit (by decide : Text.isDigit '+' = false),
    ne_of_class isDigit (by decide : Text.isDigit '-' = false)]

theorem sign_append {digits : List Char} (canonical : Canonical digits) (rest : List Char) :
    sign (digits ++ '\n' :: rest) = (false, digits ++ '\n' :: rest) := by
  cases digits with
  | nil => exact absurd rfl canonical.notEmpty
  | cons digit others => exact sign_of_digit (List.forall_mem_cons.1 canonical.areDigits).1 _

theorem float?_append {digits : List Char} (canonical : Canonical digits) (rest : List Char) :
    float? (digits ++ '\n' :: rest) = none := by
  have noDecimal : decimalFloat? (digits ++ '\n' :: rest) = none := by
    simp [decimalFloat?, sign_append canonical, whole?_append canonical, fraction?, exponent?]
  have noSpecial : specialFloat? (digits ++ '\n' :: rest) = none := by
    rw [specialFloat?, sign_append canonical]
    cases digits with
    | nil => exact absurd rfl canonical.notEmpty
    | cons digit others =>
        have isDigit := (List.forall_mem_cons.1 canonical.areDigits).1
        simp [ne_of_class isDigit (by decide : Text.isDigit 'i' = false),
          ne_of_class isDigit (by decide : Text.isDigit 'n' = false)]
  rw [float?, noDecimal, noSpecial]
  rfl

theorem integer?_append {digits : List Char} (canonical : Canonical digits)
    (fits : ofDigits 10 digits ≤ maxInteger) (rest : List Char) :
    integer? (digits ++ '\n' :: rest) = some ((ofDigits 10 digits : Int), '\n' :: rest) := by
  have inRange : inRange (ofDigits 10 digits) = true := by
    refine Bool.and_eq_true_iff.2 ⟨decide_eq_true ?_, decide_eq_true fits⟩
    rw [minInteger]
    omega
  have decimal : decimal? (digits ++ '\n' :: rest) =
      some ((ofDigits 10 digits : Int), '\n' :: rest) := by
    simp [decimal?, sign_append canonical, whole?_append canonical, inRange]
  have noMark {mark : Char} {others : List Char} (notDigit : isDigit mark = false)
      (notLineEnd : '\n' ≠ mark) : digits ++ '\n' :: rest ≠ '0' :: mark :: others := by
    intro same
    match digits, canonical with
    | [], canonical => exact canonical.notEmpty rfl
    | [_], _ => exact notLineEnd (List.cons.inj (List.cons.inj same).2).1
    | _ :: second :: _, canonical =>
        have isDigit := canonical.areDigits second (by simp)
        exact ne_of_class isDigit notDigit (List.cons.inj (List.cons.inj same).2).1
  rw [integer?]
  · exact decimal
  · exact fun _ => noMark (by decide) (by decide)
  · exact fun _ => noMark (by decide) (by decide)
  · exact fun _ => noMark (by decide) (by decide)

end Number

namespace Moment

theorem skip?_of_digits? {count value found : Nat} {digits rest more : List Char}
    (areDigits : ∀ char ∈ digits, isDigit char = true)
    (read : digits? count value (digits ++ '\n' :: rest) = some (found, more)) {mark : Char}
    (notDigit : isDigit mark = false) (notLineEnd : '\n' ≠ mark) : skip? mark more = none := by
  induction count generalizing value digits with
  | zero =>
      obtain ⟨-, rfl⟩ : value = found ∧ digits ++ '\n' :: rest = more := by
        simpa [digits?] using read
      cases digits with
      | nil => exact if_neg notLineEnd
      | cons digit others =>
          exact if_neg (ne_of_class (List.forall_mem_cons.1 areDigits).1 notDigit)
  | succ count ih =>
      cases digits with
      | nil => simp [digits?, isDigit] at read
      | cons digit others =>
          obtain ⟨isDigit, areDigits⟩ := List.forall_mem_cons.1 areDigits
          rw [List.cons_append, digits?, if_pos isDigit] at read
          exact ih areDigits read

theorem read?_append {digits : List Char} (areDigits : ∀ char ∈ digits, isDigit char = true)
    (rest : List Char) : read? (digits ++ '\n' :: rest) = none := by
  have noDate : date? (digits ++ '\n' :: rest) = none := by
    rw [date?]
    cases year : digits? 4 0 (digits ++ '\n' :: rest) with
    | none => rfl
    | some found =>
        have stops := skip?_of_digits? areDigits year (by decide : isDigit '-' = false) (by decide)
        simp [stops]
  have noTime : time? (digits ++ '\n' :: rest) = none := by
    rw [time?, twoDigits?]
    cases hour : digits? 2 0 (digits ++ '\n' :: rest) with
    | none => rfl
    | some found =>
        have stops := skip?_of_digits? areDigits hour (by decide : isDigit ':' = false) (by decide)
        simp [stops]
  rw [read?, noDate]
  exact noTime

end Moment

/-! ### Values -/

namespace Reader

/-- A value on the rest of its line, which neither a blank nor a bracket opens. -/
structure Spelled (text : List Char) (node : Node) : Prop where
  opens : ∃ first others, text = first :: others ∧
    Literal.isSpace first = false ∧ first ≠ '[' ∧ first ≠ '\x7b'
  scalar (rest : List Char) : scalar? (text ++ '\n' :: rest) = some (node, '\n' :: rest)

theorem opens_write (style : StringStyle) (text : List Char) :
    ∃ quote others, style.write text = quote :: others ∧ (quote = '"' ∨ quote = '\'') := by
  cases style
  · exact ⟨'"', _, rfl, .inl rfl⟩
  · exact ⟨'\'', _, rfl, .inr rfl⟩
  · exact ⟨'"', _, rfl, .inl rfl⟩
  · exact ⟨'\'', _, rfl, .inr rfl⟩

theorem spelled_writeString (text : List Char) :
    Spelled (writeString text) (.string (String.ofList text)) := by
  obtain ⟨quote, others, opens, isQuote⟩ := opens_write (.choose text) text
  rw [← writeString] at opens
  refine ⟨⟨quote, others, opens, ?_⟩, fun rest => ?_⟩
  · rcases isQuote with rfl | rfl <;> decide
  · have read := read?_writeString text rest
    rw [opens, List.cons_append] at read ⊢
    rcases isQuote with rfl | rfl <;> simp [scalar?, read]

theorem spelled_digits {digits : List Char} (canonical : Canonical digits)
    (fits : Number.ofDigits 10 digits ≤ Number.maxInteger) :
    Spelled digits (.integer (Number.ofDigits 10 digits)) := by
  obtain ⟨digit, others, rfl⟩ := List.exists_cons_of_ne_nil canonical.notEmpty
  have isDigit := (List.forall_mem_cons.1 canonical.areDigits).1
  have ne {mark : Char} (notDigit : Text.isDigit mark = false) : digit ≠ mark :=
    ne_of_class isDigit notDigit
  have notSpace : Literal.isSpace digit = false :=
    isSpace_of_class isDigit (by decide) (by decide)
  refine ⟨⟨digit, others, rfl, notSpace, ne (by decide), ne (by decide)⟩, fun rest => ?_⟩
  have noString : Literal.read? (digit :: others ++ '\n' :: rest) = none := by
    simp [Literal.read?, Literal.singleLine?, ne (by decide : Text.isDigit '"' = false),
      ne (by decide : Text.isDigit '\'' = false)]
  rw [scalar?]
  · rw [noString, Moment.read?_append canonical.areDigits, Number.float?_append canonical,
      Number.integer?_append canonical fits]
  · exact fun _ opens => ne (by decide : Text.isDigit 't' = false) (List.cons.inj opens).1
  · exact fun _ opens => ne (by decide : Text.isDigit 'f' = false) (List.cons.inj opens).1

theorem Spelled.value? {text : List Char} {node : Node} (spelled : Spelled text node)
    (depth nesting : Nat) (rest : List Char) :
    value? (depth + 1) nesting (text ++ '\n' :: rest) = some (node, '\n' :: rest) := by
  obtain ⟨first, others, rfl, -, notBracket, notBrace⟩ := spelled.opens
  rw [Reader.value?]
  · exact spelled.scalar rest
  · exact fun _ opens => notBracket (List.cons.inj opens).1
  · exact fun _ opens => notBrace (List.cons.inj opens).1

/-! ### Lines -/

theorem skipSpaces_cons {char : Char} (notSpace : Literal.isSpace char = false)
    (rest : List Char) : skipSpaces (char :: rest) = char :: rest := by
  simp [skipSpaces, notSpace]

theorem skipSpaces_space (rest : List Char) : skipSpaces (' ' :: rest) = skipSpaces rest := by
  simp [skipSpaces, Literal.isSpace]

/-- A name that needs no quotes as a key. -/
structure IsBare (name : List Char) : Prop where
  notEmpty : name ≠ []
  bare : ∀ char ∈ name, isBareKeyChar char = true

instance (name : List Char) : Decidable (IsBare name) :=
  decidable_of_iff (name ≠ [] ∧ name.all isBareKeyChar = true)
    ⟨fun ⟨notEmpty, bare⟩ => ⟨notEmpty, List.all_eq_true.1 bare⟩,
      fun ⟨notEmpty, bare⟩ => ⟨notEmpty, List.all_eq_true.2 bare⟩⟩

theorem IsBare.name? {name : List Char} (isBare : IsBare name) (rest : List Char) :
    name? (name ++ ' ' :: rest) = some (String.ofList name, ' ' :: rest) := by
  obtain ⟨first, others, rfl⟩ := List.exists_cons_of_ne_nil isBare.notEmpty
  have bare := isBare.bare first List.mem_cons_self
  have noQuotes : Literal.singleLine? (first :: others ++ ' ' :: rest) = none := by
    simp [Literal.singleLine?, ne_of_class bare (by decide : isBareKeyChar '"' = false),
      ne_of_class bare (by decide : isBareKeyChar '\'' = false)]
  have stops : isBareKeyChar ' ' = false := by decide
  rw [Reader.name?, noQuotes, List.takeWhile_append_of_pos isBare.bare,
    List.dropWhile_append_of_pos isBare.bare]
  simp [stops]

theorem IsBare.key? {name : List Char} (isBare : IsBare name) (rest : List Char) :
    key? (name ++ ' ' :: '=' :: rest) = some (([], String.ofList name), '=' :: rest) := by
  have noSpaces : skipSpaces (name ++ ' ' :: '=' :: rest) = name ++ ' ' :: '=' :: rest := by
    obtain ⟨first, others, rfl⟩ := List.exists_cons_of_ne_nil isBare.notEmpty
    have bare := isBare.bare first List.mem_cons_self
    exact skipSpaces_cons (isSpace_of_class bare (by decide) (by decide)) _
  have oneSpace : skipSpaces (' ' :: '=' :: rest) = '=' :: rest :=
    skipSpaces_cons (by decide : Literal.isSpace '=' = false) rest
  simp [Reader.key?, names?, noSpaces, isBare.name?, oneSpace, nestingLimit]

/-- A name, its value and how the value is written. -/
structure Entry where
  name : String
  text : List Char
  node : Node

namespace Entry

def toChars (entry : Entry) : List Char :=
  entry.name.toList ++ ' ' :: '=' :: ' ' :: entry.text ++ ['\n']

def toLine (entry : Entry) : Line := .entry [] entry.name entry.node

structure Readable (entry : Entry) : Prop where
  bare : IsBare entry.name.toList
  spelled : Spelled entry.text entry.node

theorem Readable.entry? {entry : Entry} (readable : entry.Readable) (rest : List Char) :
    entry? (entry.toChars ++ rest) = some (entry.toLine, '\n' :: rest) := by
  obtain ⟨first, others, opens, notSpace, -⟩ := readable.spelled.opens
  have oneSpace : skipSpaces (' ' :: (entry.text ++ '\n' :: rest)) =
      entry.text ++ '\n' :: rest := by
    rw [skipSpaces_space, opens, List.cons_append, skipSpaces_cons notSpace]
  have shape : entry.toChars ++ rest =
      entry.name.toList ++ ' ' :: '=' :: ' ' :: (entry.text ++ '\n' :: rest) := by
    simp [toChars]
  rw [shape]
  simp [Reader.entry?, readable.bare.key?, oneSpace, readable.spelled.value?, toLine]

theorem Readable.opens {entry : Entry} (readable : entry.Readable) (rest : List Char) :
    ∃ first others, entry.toChars ++ rest = first :: others ∧ isBareKeyChar first = true := by
  obtain ⟨first, others, opens⟩ := List.exists_cons_of_ne_nil readable.bare.notEmpty
  refine ⟨first, _, by rw [toChars, opens]; rfl, readable.bare.bare first ?_⟩
  rw [opens]
  exact List.mem_cons_self

theorem Readable.line? {entry : Entry} (readable : entry.Readable) (rest : List Char) :
    line? (entry.toChars ++ rest) = some (entry.toLine, '\n' :: rest) := by
  obtain ⟨first, others, opens, bare⟩ := readable.opens rest
  have notHeader : first ≠ '[' := ne_of_class bare (by decide)
  rw [← readable.entry?, opens, Reader.line?]
  · exact fun _ header => notHeader (List.cons.inj header).1
  · exact fun _ header => notHeader (List.cons.inj header).1

theorem Readable.lines? {entry : Entry} (readable : entry.Readable) (bound : Nat)
    (rest : List Char) :
    lines? (bound + 1) (entry.toChars ++ rest) =
      (lines? bound rest).map (entry.toLine :: ·) := by
  obtain ⟨first, others, opens, bare⟩ := readable.opens rest
  have line := readable.line? rest
  have finish : finishLine? ('\n' :: rest) = some rest := by
    rw [finishLine?, skipSpaces_cons (by decide)]
    rfl
  have notSpace : Literal.isSpace first = false := isSpace_of_class bare (by decide) (by decide)
  rw [opens] at line ⊢
  simp [Reader.lines?, skipSpaces_cons notSpace, line, finish,
    ne_of_class bare (by decide : isBareKeyChar '#' = false),
    ne_of_class bare (by decide : isBareKeyChar '\n' = false),
    ne_of_class bare (by decide : isBareKeyChar '\r' = false)]
  cases Reader.lines? bound rest <;> rfl

end Entry

theorem lines?_entries {entries : List Entry} (readable : ∀ entry ∈ entries, entry.Readable)
    {bound : Nat} (enough : entries.length < bound) :
    lines? bound (entries.flatMap Entry.toChars) = some (entries.map Entry.toLine) := by
  induction entries generalizing bound with
  | nil =>
      obtain ⟨bound, rfl⟩ := Nat.exists_eq_add_one_of_ne_zero (Nat.ne_of_gt enough)
      simp [lines?, skipSpaces]
  | cons entry others ih =>
      obtain ⟨bound, rfl⟩ :=
        Nat.exists_eq_add_one_of_ne_zero (Nat.ne_of_gt (Nat.zero_lt_of_lt enough))
      obtain ⟨readable, othersReadable⟩ := List.forall_mem_cons.1 readable
      rw [List.flatMap_cons, readable.lines?, ih othersReadable (Nat.lt_of_succ_lt_succ enough)]
      rfl

theorem gather_entries (entries : List Entry) :
    gather (entries.map Entry.toLine) =
      (entries.map fun entry => ([], entry.name, entry.node), []) := by
  induction entries with
  | nil => rfl
  | cons entry others ih => rw [List.map_cons, Entry.toLine, gather, ih, List.map_cons]

theorem skipByteOrderMark_entries {entries : List Entry}
    (readable : ∀ entry ∈ entries, entry.Readable) :
    skipByteOrderMark (entries.flatMap Entry.toChars) = entries.flatMap Entry.toChars := by
  cases entries with
  | nil => rfl
  | cons entry others =>
      obtain ⟨readable, -⟩ := List.forall_mem_cons.1 readable
      obtain ⟨first, more, opens, bare⟩ := readable.opens (others.flatMap Entry.toChars)
      have notMark : first ≠ '\ufeff' := ne_of_class bare (by decide)
      rw [List.flatMap_cons, opens, skipByteOrderMark]
      exact fun _ mark => notMark (List.cons.inj mark).1

theorem length_le_length_entries (entries : List Entry) :
    entries.length ≤ (entries.flatMap Entry.toChars).length := by
  induction entries with
  | nil => exact Nat.zero_le _
  | cons entry others ih =>
      simp only [List.flatMap_cons, List.length_cons, List.length_append, Entry.toChars]
      omega

end Reader

namespace Table

open Reader

theorem put?_new {table : Table} (plain : table.isDotted = false) {name : String}
    (fresh : name ∉ table.entries.map Prod.fst) (node : Node) :
    table.put? [] name node = some (table.add name node) := by
  have absent : table.get? name = none := by
    refine List.lookup_eq_none_iff.2 fun entry member => bne_iff_ne.2 fun same => ?_
    exact fresh (same ▸ List.mem_map_of_mem member)
  simp [put?, change?, plain, absent]

theorem putAll?_entries {entries : List Entry} {table : Table} (plain : table.isDotted = false)
    (distinct : (table.entries.map Prod.fst ++ entries.map Entry.name).Nodup) :
    putAll? (entries.map fun entry => ([], entry.name, entry.node)) table =
      some { table with
        entries := table.entries ++ entries.map fun entry => (entry.name, entry.node) } := by
  induction entries generalizing table with
  | nil => simp [putAll?]
  | cons entry others ih =>
      have fresh : entry.name ∉ table.entries.map Prod.fst := fun member =>
        (List.nodup_append.1 distinct).2.2 _ member _ List.mem_cons_self rfl
      rw [List.map_cons, putAll?, put?_new plain fresh, Option.bind_some,
        @ih (table.add entry.name entry.node) plain]
      · simp [add]
      · simpa [add] using distinct

/-- The text of distinct entries, one a line, is read as their table. -/
theorem ofText?_entries {entries : List Entry} {text : String}
    (written : text.toList = entries.flatMap Entry.toChars)
    (readable : ∀ entry ∈ entries, entry.Readable) (distinct : (entries.map Entry.name).Nodup) :
    ofText? text =
      some { empty with entries := entries.map fun entry => (entry.name, entry.node) } := by
  have lines := lines?_entries readable (Nat.lt_succ_of_le (length_le_length_entries entries))
  have put := @putAll?_entries entries empty rfl distinct
  simp only [ofText?, written, skipByteOrderMark_entries readable]
  rw [lines]
  simp only [Option.bind_eq_bind, Option.bind_some, gather_entries, ofSections?, put]
  rfl

end Table

end Consortium.Toml
