import Consortium.Identity.Uuid
import Consortium.Proofs.Bytes.Hex

/-!
How uuids are spelled. They are written in digits with hyphens at fixed places, and different uuids
differently. They are read in four frames, with digits of either case; the frames differ in length,
so no text has two readings.
-/

namespace Consortium.Uuid

/-! ### Writing -/

theorem split_at_hyphens (chars : List Char) :
    chars = chars.take 8 ++ ((chars.drop 8).take 4 ++ ((chars.drop 12).take 4 ++
      ((chars.drop 16).take 4 ++ chars.drop 20))) := by
  have next (start : Nat) :
      (chars.drop start).take 4 ++ chars.drop (start + 4) = chars.drop start := by
    rw [← List.drop_drop]
    exact List.take_append_drop 4 (chars.drop start)
  rw [next 16, next 12, next 8, List.take_append_drop]

theorem hyphenate_injective {left right : List Char} (sameLength : left.length = right.length)
    (same : hyphenate left = hyphenate right) : left = right := by
  have lengths (count start : Nat) :
      ((left.drop start).take count).length = ((right.drop start).take count).length := by
    simp [sameLength]
  unfold hyphenate at same
  simp only [List.append_assoc, List.cons_append] at same
  obtain ⟨first, same⟩ := List.append_inj same (lengths 8 0)
  obtain ⟨second, same⟩ := List.append_inj (List.cons.inj same).2 (lengths 4 8)
  obtain ⟨third, same⟩ := List.append_inj (List.cons.inj same).2 (lengths 4 12)
  obtain ⟨fourth, same⟩ := List.append_inj (List.cons.inj same).2 (lengths 4 16)
  have fifth := (List.cons.inj same).2
  rw [split_at_hyphens left, first, second, third, fourth, fifth, ← split_at_hyphens right]

theorem toText_injective {left right : Uuid} (same : left.toText = right.toText) :
    left = right := by
  obtain ⟨leftBytes⟩ := left
  obtain ⟨rightBytes⟩ := right
  have sameChars := String.ofList_injective same
  have sameDigits := hyphenate_injective (by simp) sameChars
  have sameBytes := Hex.encodeChars_injective sameDigits
  exact congrArg Uuid.mk (Vector.toList_inj.1 sameBytes)

/-! ### The four frames -/

/-- The digits of the uuid, each in either case. -/
def HasDigits (uuid : Uuid) (digits : List Char) : Prop :=
  digits.map Char.toLower = Hex.encodeChars uuid.bytes.toList

/-- Digits stand alone, or with hyphens, and then also in braces or behind `urn:uuid:` in either
case. -/
inductive InFrame (digits : List Char) : List Char → Prop
  | plain : InFrame digits digits
  | hyphenated : InFrame digits (hyphenate digits)
  | braced : InFrame digits ('\x7b' :: hyphenate digits ++ ['\x7d'])
  | urn {head : List Char} (isHead : head.map Char.toLower = urnHead) :
      InFrame digits (head ++ hyphenate digits)

def SpelledAs (uuid : Uuid) (chars : List Char) : Prop :=
  ∃ digits, uuid.HasDigits digits ∧ InFrame digits chars

variable {uuid : Uuid} {chars digits : List Char}

theorem HasDigits.length (hasDigits : uuid.HasDigits digits) : digits.length = 32 := by
  rw [← List.length_map (f := Char.toLower), hasDigits]
  simp

theorem exists_hasDigits_iff : (∃ uuid : Uuid, uuid.HasDigits digits) ↔
    digits.length = 32 ∧ ∀ digit ∈ digits, (Text.hexValue? digit).isSome := by
  refine Iff.trans ?_ (@Hex.exists_bytes_iff 16 digits)
  constructor
  · intro ⟨uuid, hasDigits⟩
    exact ⟨uuid.bytes.toList, by simp, hasDigits⟩
  · intro ⟨bytes, length, same⟩
    exact ⟨⟨⟨bytes.toArray, by simp [length]⟩⟩, same⟩

theorem hasDigits_encodeChars (uuid : Uuid) :
    uuid.HasDigits (Hex.encodeChars uuid.bytes.toList) := by
  have isLower : ∀ value < 16, (Text.hexDigit value).toLower = Text.hexDigit value := by decide
  refine (List.map_congr_left fun char member => ?_).trans (List.map_id _)
  obtain ⟨value, isDigit, rfl⟩ := Hex.exists_digit_of_mem_encodeChars member
  exact isLower value isDigit

theorem ofPlain?_eq_some_iff : ofPlain? chars = some uuid ↔ uuid.HasDigits chars := by
  rw [HasDigits, ← Hex.decode_eq_ok_iff]
  constructor
  · intro read
    unfold ofPlain? at read
    split at read
    · rename_i bytes decoded
      obtain ⟨block, isBlock, rfl⟩ := Option.map_eq_some_iff.1 read
      rw [decoded, Block.toList_of_ofList? isBlock]
    · cases read
  · intro decoded
    simp [ofPlain?, decoded]

theorem length_hyphenate (length : digits.length = 32) : (hyphenate digits).length = 36 := by
  simp [hyphenate, length]

section Hyphens

variable {first second third fourth fifth : List Char} (firstLength : first.length = 8)
  (secondLength : second.length = 4) (thirdLength : third.length = 4)
  (fourthLength : fourth.length = 4)

include firstLength secondLength thirdLength fourthLength

theorem hyphenate_join :
    hyphenate (first ++ second ++ third ++ fourth ++ fifth) =
      first ++ '-' :: second ++ '-' :: third ++ '-' :: fourth ++ '-' :: fifth := by
  simp [hyphenate, List.drop_append, List.drop_eq_nil_of_le, *]

theorem ofHyphenated?_join (fifthLength : fifth.length = 12) :
    ofHyphenated? (first ++ '-' :: second ++ '-' :: third ++ '-' :: fourth ++ '-' :: fifth) =
      ofPlain? (first ++ second ++ third ++ fourth ++ fifth) := by
  rw [ofHyphenated?, if_pos]
  · congr 1
    simp [List.drop_append, List.drop_eq_nil_of_le, *]
  · simp [*]

end Hyphens

theorem ofHyphenated?_hyphenate (length : digits.length = 32) :
    ofHyphenated? (hyphenate digits) = ofPlain? digits := by
  rw [hyphenate, ofHyphenated?_join (by simp [length]) (by simp [length]) (by simp [length])
    (by simp [length]) (by simp [length])]
  simp only [List.append_assoc]
  rw [← split_at_hyphens]

/-- A text with hyphens at the four places consists of five parts. -/
theorem eq_join_of_hyphens {chars : List Char}
    (hyphens : chars[8]? = some '-' ∧ chars[13]? = some '-' ∧ chars[18]? = some '-' ∧
      chars[23]? = some '-') :
    chars = chars.take 8 ++ '-' :: (chars.drop 9).take 4 ++ '-' :: (chars.drop 14).take 4 ++
      '-' :: (chars.drop 19).take 4 ++ '-' :: chars.drop 24 := by
  have drops {place : Nat} (isAt : chars[place]? = some '-') :
      chars.drop place = '-' :: chars.drop (place + 1) := by
    obtain ⟨within, isHyphen⟩ := List.getElem?_eq_some_iff.1 isAt
    rw [List.drop_eq_getElem_cons within, isHyphen]
  have part {place : Nat} (isAt : chars[place + 4]? = some '-') :
      (chars.drop place).take 4 ++ '-' :: chars.drop (place + 5) = chars.drop place := by
    rw [← drops isAt, ← List.drop_drop, List.take_append_drop]
  obtain ⟨first, second, third, fourth⟩ := hyphens
  simp only [List.append_assoc, List.cons_append]
  rw [part fourth, part third, part second, ← drops first, List.take_append_drop]

theorem ofHyphenated?_eq_some_iff : ofHyphenated? chars = some uuid ↔
    ∃ digits, uuid.HasDigits digits ∧ chars = hyphenate digits := by
  constructor
  · intro read
    unfold ofHyphenated? at read
    split at read
    · rename_i shape
      obtain ⟨length, hyphens⟩ := shape
      refine ⟨_, ofPlain?_eq_some_iff.1 read, ?_⟩
      rw [hyphenate_join (by simp [length]) (by simp [length]) (by simp [length])
        (by simp [length])]
      exact eq_join_of_hyphens hyphens
    · cases read
  · rintro ⟨digits, hasDigits, rfl⟩
    rw [ofHyphenated?_hyphenate hasDigits.length, ofPlain?_eq_some_iff]
    exact hasDigits

theorem ofBraced?_eq_some_iff : ofBraced? chars = some uuid ↔
    ∃ digits, uuid.HasDigits digits ∧ chars = '\x7b' :: hyphenate digits ++ ['\x7d'] := by
  constructor
  · intro read
    unfold ofBraced? at read
    split at read
    · rename_i rest
      split at read
      · rename_i closed
        obtain ⟨digits, hasDigits, same⟩ := ofHyphenated?_eq_some_iff.1 read
        refine ⟨digits, hasDigits, ?_⟩
        rw [← same, List.cons_append, List.dropLast_append_getLast? _ closed]
      · cases read
    · cases read
  · rintro ⟨digits, hasDigits, rfl⟩
    simp [ofBraced?, ofHyphenated?_eq_some_iff.2 ⟨digits, hasDigits, rfl⟩]

theorem ofUrn?_eq_some_iff : ofUrn? chars = some uuid ↔
    ∃ head digits, head.map Char.toLower = urnHead ∧ uuid.HasDigits digits ∧
      chars = head ++ hyphenate digits := by
  constructor
  · intro read
    unfold ofUrn? at read
    split at read
    · rename_i isHead
      obtain ⟨digits, hasDigits, same⟩ := ofHyphenated?_eq_some_iff.1 read
      exact ⟨_, digits, isHead, hasDigits, same ▸ (List.take_append_drop _ chars).symm⟩
    · cases read
  · rintro ⟨head, digits, isHead, hasDigits, rfl⟩
    have length : head.length = urnHead.length := by rw [← isHead, List.length_map]
    rw [ofUrn?, ← length, List.take_left, if_pos isHead, List.drop_left]
    exact ofHyphenated?_eq_some_iff.2 ⟨digits, hasDigits, rfl⟩

/-! The frames differ in length, so only one can fit. -/

theorem ofPlain?_eq_none (length : chars.length ≠ 32) : ofPlain? chars = none :=
  Option.eq_none_iff_forall_ne_some.2 fun _ read => length (ofPlain?_eq_some_iff.1 read).length

theorem ofHyphenated?_eq_none (length : chars.length ≠ 36) : ofHyphenated? chars = none :=
  if_neg fun shape => length shape.1

theorem ofBraced?_eq_none (length : chars.length ≠ 38) : ofBraced? chars = none := by
  refine Option.eq_none_iff_forall_ne_some.2 fun uuid read => ?_
  obtain ⟨digits, hasDigits, rfl⟩ := ofBraced?_eq_some_iff.1 read
  simp [length_hyphenate hasDigits.length] at length

theorem ofChars?_eq_some_iff : ofChars? chars = some uuid ↔ uuid.SpelledAs chars := by
  constructor
  · intro read
    simp only [ofChars?, Option.orElse_eq_orElse, Option.orElse_eq_or,
      Option.or_eq_some_iff] at read
    rcases read with read | ⟨_, read | ⟨_, read | ⟨_, read⟩⟩⟩
    · exact ⟨chars, ofPlain?_eq_some_iff.1 read, .plain⟩
    · obtain ⟨digits, hasDigits, rfl⟩ := ofHyphenated?_eq_some_iff.1 read
      exact ⟨digits, hasDigits, .hyphenated⟩
    · obtain ⟨digits, hasDigits, rfl⟩ := ofBraced?_eq_some_iff.1 read
      exact ⟨digits, hasDigits, .braced⟩
    · obtain ⟨head, digits, isHead, hasDigits, rfl⟩ := ofUrn?_eq_some_iff.1 read
      exact ⟨digits, hasDigits, .urn isHead⟩
  · intro ⟨digits, hasDigits, framed⟩
    have length := length_hyphenate hasDigits.length
    cases framed with
    | plain => simp [ofChars?, ofPlain?_eq_some_iff.2 hasDigits]
    | hyphenated =>
        rw [ofChars?, ofPlain?_eq_none (by simp [length]),
          ofHyphenated?_eq_some_iff.2 ⟨digits, hasDigits, rfl⟩]
        rfl
    | braced =>
        rw [ofChars?, ofPlain?_eq_none (by simp [length]), ofHyphenated?_eq_none (by simp [length]),
          ofBraced?_eq_some_iff.2 ⟨digits, hasDigits, rfl⟩]
        rfl
    | @urn head isHead =>
        have headLength : head.length = 9 := by
          rw [← List.length_map (f := Char.toLower), isHead]
          rfl
        rw [ofChars?, ofPlain?_eq_none (by simp [headLength, length]),
          ofHyphenated?_eq_none (by simp [headLength, length]),
          ofBraced?_eq_none (by simp [headLength, length]),
          ofUrn?_eq_some_iff.2 ⟨head, digits, isHead, hasDigits, rfl⟩]
        rfl

theorem spelledAs_toText (uuid : Uuid) : uuid.SpelledAs uuid.toText.toList := by
  rw [toText, String.toList_ofList]
  exact ⟨_, uuid.hasDigits_encodeChars, .hyphenated⟩

theorem ofText?_toText (uuid : Uuid) : ofText? uuid.toText = some uuid :=
  ofChars?_eq_some_iff.2 uuid.spelledAs_toText

/-! ### No underscores -/

theorem HasDigits.underscore_notMem (hasDigits : uuid.HasDigits digits) : '_' ∉ digits := by
  intro member
  obtain ⟨value, isDigit, same⟩ := Hex.exists_digit_of_map_toLower hasDigits member
  revert value
  decide

theorem HasDigits.underscore_notMem_hyphenate (hasDigits : uuid.HasDigits digits) :
    '_' ∉ hyphenate digits := by
  have absent := hasDigits.underscore_notMem
  simp only [hyphenate, List.mem_append, List.mem_cons]
  grind [List.mem_of_mem_take, List.mem_of_mem_drop]

theorem SpelledAs.underscore_notMem (spelled : uuid.SpelledAs chars) : '_' ∉ chars := by
  obtain ⟨digits, hasDigits, framed⟩ := spelled
  cases framed with
  | plain => exact hasDigits.underscore_notMem
  | hyphenated => exact hasDigits.underscore_notMem_hyphenate
  | braced => simpa using hasDigits.underscore_notMem_hyphenate
  | urn isHead =>
      refine List.not_mem_append (fun member => ?_) hasDigits.underscore_notMem_hyphenate
      have isLower := List.mem_map_of_mem (f := Char.toLower) member
      rw [isHead] at isLower
      revert isLower
      decide

end Consortium.Uuid
