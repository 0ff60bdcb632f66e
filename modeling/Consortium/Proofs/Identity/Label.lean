import Consortium.Identity.LinearId
import Consortium.Proofs.Identity.Spelling

/-!
Labels of linear identifiers. A label ends at the last underscore of a text, as no spelling of a
uuid holds one. So a label may hold underscores of its own, or look like an identifier.
-/

namespace Consortium.LinearId

theorem splitAtLastUnderscore_eq_none_iff {chars : List Char} :
    splitAtLastUnderscore chars = none ↔ '_' ∉ chars := by
  induction chars with
  | nil => simp [splitAtLastUnderscore]
  | cons char rest ih =>
      rw [splitAtLastUnderscore, List.mem_cons, not_or, ← ih]
      cases splitAtLastUnderscore rest with
      | some parts => simp
      | none => simp [eq_comm]

theorem splitAtLastUnderscore_eq_some_iff {chars before after : List Char} :
    splitAtLastUnderscore chars = some (before, after) ↔
      chars = before ++ '_' :: after ∧ '_' ∉ after := by
  constructor
  · intro found
    induction chars generalizing before with
    | nil => cases found
    | cons char rest ih =>
        rw [splitAtLastUnderscore] at found
        split at found
        · rename_i front back inRest
          cases found
          obtain ⟨rfl, isLast⟩ := ih inRest
          exact ⟨rfl, isLast⟩
        · rename_i notInRest
          split at found
          · rename_i isUnderscore
            cases found
            exact ⟨isUnderscore ▸ rfl, splitAtLastUnderscore_eq_none_iff.1 notInRest⟩
          · cases found
  · rintro ⟨rfl, isLast⟩
    induction before with
    | nil => simp [splitAtLastUnderscore, splitAtLastUnderscore_eq_none_iff.2 isLast]
    | cons char rest ih => simp [splitAtLastUnderscore, ih]

/-- The text before the last underscore, if there is one, and the text behind it. -/
inductive Parts : (text : String) → (label : Option String) → (rest : List Char) → Prop
  | unlabelled {text : String} (noUnderscore : '_' ∉ text.toList) : Parts text none text.toList
  | labelled {text label : String} {rest : List Char} (split : text = label ++ "_" ++ .ofList rest)
      (isLast : '_' ∉ rest) : Parts text (some label) rest

theorem exists_parts (text : String) : ∃ label rest, Parts text label rest := by
  cases split : splitAtLastUnderscore text.toList with
  | none => exact ⟨none, _, .unlabelled (splitAtLastUnderscore_eq_none_iff.1 split)⟩
  | some parts =>
      obtain ⟨before, after⟩ := parts
      obtain ⟨joined, isLast⟩ := splitAtLastUnderscore_eq_some_iff.1 split
      have same : text = String.ofList before ++ "_" ++ .ofList after := by
        apply String.toList_injective
        simp [joined]
      exact ⟨some (.ofList before), after, .labelled same isLast⟩

theorem Parts.ofText_eq_ok_iff {text : String} {label : Option String} {rest : List Char}
    (parts : Parts text label rest) {id : LinearId} :
    ofText text = .ok id ↔ id.externalId = label ∧ id.uuid.SpelledAs rest := by
  have read : ofText text = (Uuid.ofChars? rest).elim
      (.error (.invalidIdentifier "not a uuid")) fun uuid => .ok ⟨label, uuid⟩ := by
    cases parts with
    | unlabelled noUnderscore =>
        simp only [ofText, splitAtLastUnderscore_eq_none_iff.2 noUnderscore]
        cases Uuid.ofChars? text.toList <;> rfl
    | @labelled label _ split isLast =>
        have joined : text.toList = label.toList ++ '_' :: rest := by simp [split]
        simp only [ofText, splitAtLastUnderscore_eq_some_iff.2 ⟨joined, isLast⟩,
          String.ofList_toList]
        cases Uuid.ofChars? rest <;> rfl
  rw [read, ← Uuid.ofChars?_eq_some_iff]
  cases Uuid.ofChars? rest with
  | none => simp
  | some uuid =>
      constructor
      · rintro ⟨⟩
        exact ⟨rfl, rfl⟩
      · rintro ⟨rfl, ⟨⟩⟩
        rfl

theorem parts_toText (id : LinearId) : Parts id.toText id.externalId id.uuid.toText.toList := by
  have absent := id.uuid.spelledAs_toText.underscore_notMem
  obtain ⟨label, uuid⟩ := id
  cases label with
  | none => exact .unlabelled absent
  | some label => exact .labelled (by simp [toText]) absent

/-- Any id is read back from its text, whatever its label says. A text is an id if what follows its
last underscore is 32 digits in one of the four frames. Then the text in front of that underscore is
the label and the digits are those of the uuid, and writing the id and reading it again changes
nothing. -/
theorem labelled_ids_are_read_back :
    (∀ id : LinearId, ofText id.toText = .ok id) ∧
      ∀ text, ∃ label rest, Parts text label rest ∧
        ((∃ id, ofText text = .ok id) ↔
          ∃ digits, digits.length = 32 ∧ (∀ digit ∈ digits, (Text.hexValue? digit).isSome) ∧
            Uuid.InFrame digits rest) ∧
        ∀ id, ofText text = .ok id →
          id.externalId = label ∧ id.uuid.SpelledAs rest ∧ ofText id.toText = .ok id := by
  have readBack (id : LinearId) : ofText id.toText = .ok id :=
    id.parts_toText.ofText_eq_ok_iff.2 ⟨rfl, id.uuid.spelledAs_toText⟩
  refine ⟨readBack, fun text => ?_⟩
  obtain ⟨label, rest, parts⟩ := exists_parts text
  refine ⟨label, rest, parts, ⟨?_, ?_⟩, fun id read => ?_⟩
  · rintro ⟨id, read⟩
    obtain ⟨digits, hasDigits, framed⟩ := (parts.ofText_eq_ok_iff.1 read).2
    obtain ⟨length, areDigits⟩ := Uuid.exists_hasDigits_iff.1 ⟨id.uuid, hasDigits⟩
    exact ⟨digits, length, areDigits, framed⟩
  · rintro ⟨digits, length, areDigits, framed⟩
    obtain ⟨uuid, hasDigits⟩ := Uuid.exists_hasDigits_iff.2 ⟨length, areDigits⟩
    exact ⟨⟨label, uuid⟩, parts.ofText_eq_ok_iff.2 ⟨rfl, digits, hasDigits, framed⟩⟩
  · obtain ⟨isLabel, spelled⟩ := parts.ofText_eq_ok_iff.1 read
    exact ⟨isLabel, spelled, readBack id⟩

/-- A label that could be read as an id itself, with a uuid in capitals behind `urn:uuid:`. -/
theorem id_behind_another_is_read_back :
    let id : LinearId :=
      ⟨some "_abababababababababababababababab", ⟨Vector.replicate 16 0xab⟩⟩
    let text := "_abababababababababababababababab_urn:UUID:ABABABAB-ABAB-abab-abab-abababABABAB"
    ofText text = .ok id ∧ id.toText ≠ text ∧
      (∃ rest, Parts text id.externalId rest ∧ id.uuid.SpelledAs rest) ∧
      ofText id.toText = .ok id := by
  intro id text
  have read : ofText text = .ok id := by decide +kernel
  obtain ⟨label, rest, parts, _, effect⟩ := labelled_ids_are_read_back.2 text
  obtain ⟨rfl, spelled, readBack⟩ := effect id read
  exact ⟨read, by decide +kernel, ⟨rest, parts, spelled⟩, readBack⟩

end Consortium.LinearId
