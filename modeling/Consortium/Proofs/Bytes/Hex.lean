import Consortium.Bytes.Hex
import Consortium.Proofs.Text.Digit

/-!
Hexadecimal text. Different bytes are written differently, and what is read is what is written, but
for the case of the letters: a text stands for some bytes if in lower case it is the text that is
written for them.
-/

namespace Consortium

namespace Bytes

/-! ### Text as bytes -/

theorem ofString_ofList (chars : List Char) :
    ofString (String.ofList chars) = chars.flatMap String.utf8EncodeChar := by
  simp [ofString, List.utf8Encode]

theorem ofString_ofList_of_ascii {chars : List Char} (ascii : ∀ char ∈ chars, char.toNat < 128) :
    ofString (String.ofList chars) = chars.map fun char => UInt8.ofNat char.toNat := by
  have encoded (char : Char) (member : char ∈ chars) :
      String.utf8EncodeChar char = [UInt8.ofNat char.toNat] :=
    if_pos (Nat.le_of_lt_succ (ascii char member))
  rw [ofString_ofList, List.map_eq_flatMap, List.flatMap_def, List.flatMap_def,
    List.map_congr_left encoded]

/-- The first byte of a character beyond ASCII is beyond ASCII, too. -/
theorem ascii_of_ofString {chars : List Char}
    (ascii : ∀ byte ∈ ofString (String.ofList chars), byte.toNat < 128) :
    ∀ char ∈ chars, char.toNat < 128 := by
  intro char member
  by_contra large
  have first : ∃ byte ∈ String.utf8EncodeChar char, 128 ≤ byte.toNat := by
    have notShort : ¬ char.val.toNat ≤ 127 := fun short => large (Nat.lt_succ_of_le short)
    unfold String.utf8EncodeChar
    simp only [if_neg notShort]
    split
    · exact ⟨_, List.mem_cons_self, by simp; omega⟩
    split
    · exact ⟨_, List.mem_cons_self, by simp; omega⟩
    · exact ⟨_, List.mem_cons_self, by simp; omega⟩
  obtain ⟨byte, isByte, beyond⟩ := first
  have inText : byte ∈ ofString (String.ofList chars) := by
    rw [ofString_ofList]
    exact List.mem_flatMap.2 ⟨char, member, isByte⟩
  exact absurd (ascii byte inText) (Nat.not_lt.2 beyond)

end Bytes

namespace Hex

open Text

/-! ### Writing -/

@[simp] theorem length_encodeChars (bytes : List UInt8) :
    (encodeChars bytes).length = 2 * bytes.length := by
  induction bytes with
  | nil => rfl
  | cons byte rest ih =>
      rw [encodeChars, List.length_cons, List.length_cons, ih, List.length_cons]
      omega

theorem encodeChars_injective {left right : List UInt8}
    (same : encodeChars left = encodeChars right) : left = right := by
  induction left generalizing right with
  | nil =>
      cases right with
      | nil => rfl
      | cons byte rest => cases same
  | cons byte rest ih =>
      cases right with
      | nil => cases same
      | cons other others =>
          obtain ⟨sameHigh, sameTail⟩ := List.cons.inj same
          obtain ⟨sameLow, sameRest⟩ := List.cons.inj sameTail
          have isByte := byte.toNat_lt
          have otherIsByte := other.toNat_lt
          have high := hexDigit_injective (by omega) (by omega) sameHigh
          have low := hexDigit_injective (by omega) (by omega) sameLow
          have sameByte : byte = other := UInt8.toNat_inj.1 (by omega)
          rw [sameByte, ih sameRest]

theorem exists_digit_of_mem_encodeChars {bytes : List UInt8} {char : Char}
    (member : char ∈ encodeChars bytes) : ∃ value < 16, char = hexDigit value := by
  induction bytes with
  | nil => cases member
  | cons byte rest ih =>
      have isByte := byte.toNat_lt
      rcases List.mem_cons.1 member with rfl | member
      · exact ⟨_, by omega, rfl⟩
      rcases List.mem_cons.1 member with rfl | member
      · exact ⟨_, by omega, rfl⟩
      · exact ih member

/-! ### Reading -/

theorem digitValue?_ofNat {char : Char} (ascii : char.toNat < 128) :
    digitValue? (UInt8.ofNat char.toNat) = (hexValue? char).map UInt8.ofNat := by
  rw [digitValue?, UInt8.toNat_ofNat', Nat.mod_eq_of_lt (Nat.lt_trans ascii (by decide)),
    Char.ofNat_toNat]

theorem toNat_join {high low : Nat} (highIsDigit : high < 16) (lowIsDigit : low < 16) :
    (UInt8.ofNat high * 16 + UInt8.ofNat low).toNat = high * 16 + low := by
  simp
  omega

theorem decodePairs_eq_ok_iff (position : Nat) {chars : List Char} (bytes : List UInt8)
    (ascii : ∀ char ∈ chars, char.toNat < 128) :
    decodePairs position (chars.map fun char => UInt8.ofNat char.toNat) = .ok bytes ↔
      chars.map Char.toLower = encodeChars bytes := by
  match chars with
  | [] => cases bytes <;> simp [decodePairs, encodeChars]
  | [_] => cases bytes <;> simp [decodePairs, encodeChars]
  | high :: low :: rest =>
      obtain ⟨highAscii, ascii⟩ := List.forall_mem_cons.1 ascii
      obtain ⟨lowAscii, restAscii⟩ := List.forall_mem_cons.1 ascii
      have ih (others : List UInt8) := decodePairs_eq_ok_iff (position + 2) others restAscii
      simp only [List.map_cons, decodePairs, digitValue?_ofNat highAscii,
        digitValue?_ofNat lowAscii]
      constructor
      · intro read
        cases highValue : hexValue? high with
        | none => simp [highValue] at read
        | some high' =>
        cases lowValue : hexValue? low with
        | none => simp [highValue, lowValue] at read
        | some low' =>
        simp only [highValue, lowValue, Option.map_some] at read
        split at read
        · rename_i others found
          cases read
          obtain ⟨highIsDigit, sameHigh⟩ := hexValue?_eq_some_iff.1 highValue
          obtain ⟨lowIsDigit, sameLow⟩ := hexValue?_eq_some_iff.1 lowValue
          rw [encodeChars, toNat_join highIsDigit lowIsDigit, sameHigh, sameLow,
            (ih others).1 found]
          congr 2 <;> congr 1 <;> omega
        · cases read
      · intro same
        cases bytes with
        | nil => cases same
        | cons byte others =>
            obtain ⟨sameHigh, same⟩ := List.cons.inj same
            obtain ⟨sameLow, same⟩ := List.cons.inj same
            have isByte := byte.toNat_lt
            have highValue := hexValue?_eq_some_iff.2 ⟨by omega, sameHigh⟩
            have lowValue := hexValue?_eq_some_iff.2 ⟨by omega, sameLow⟩
            have rejoined :
                UInt8.ofNat (byte.toNat / 16) * 16 + UInt8.ofNat (byte.toNat % 16) = byte := by
              apply UInt8.toNat_inj.1
              rw [toNat_join (by omega) (by omega)]
              omega
            simp only [highValue, lowValue, Option.map_some, (ih others).2 same, rejoined]

theorem ascii_of_decodePairs {position : Nat} {digits bytes : List UInt8}
    (read : decodePairs position digits = .ok bytes) : ∀ digit ∈ digits, digit.toNat < 128 := by
  have ascii {digit value : UInt8} (isDigit : digitValue? digit = some value) :
      digit.toNat < 128 := by
    obtain ⟨_, isValue, _⟩ := Option.map_eq_some_iff.1 isDigit
    have isByte : digit.toNat.isValidChar := .inl (Nat.lt_trans digit.toNat_lt (by decide))
    have bound := toNat_lt_of_hexValue? isValue
    rw [Char.ofNat, dif_pos isByte] at bound
    exact bound
  induction position, digits using decodePairs.induct generalizing bytes with
  | case1 => simp
  | case2 => cases read
  | case3 position high low rest noHigh => simp [decodePairs, noHigh] at read
  | case4 position high low rest value isHigh noLow => simp [decodePairs, isHigh, noLow] at read
  | case5 position high low rest highValue lowValue isLow isHigh others found ih =>
      simp only [List.forall_mem_cons]
      exact ⟨ascii isHigh, ascii isLow, ih found⟩
  | case6 position high low rest highValue lowValue isHigh isLow failure failed ih =>
      simp [decodePairs, isHigh, isLow, failed] at read

theorem exists_digit_of_map_toLower {chars : List Char} {bytes : List UInt8}
    (same : chars.map Char.toLower = encodeChars bytes) {char : Char} (member : char ∈ chars) :
    ∃ value < 16, char.toLower = hexDigit value :=
  exists_digit_of_mem_encodeChars (same ▸ List.mem_map_of_mem (f := Char.toLower) member)

theorem decode_eq_ok_iff {chars : List Char} {bytes : List UInt8} :
    decode (String.ofList chars) = .ok bytes ↔ chars.map Char.toLower = encodeChars bytes := by
  constructor
  · intro read
    simp only [decode] at read
    split at read
    · cases read
    · have ascii := Bytes.ascii_of_ofString (ascii_of_decodePairs read)
      rw [Bytes.ofString_ofList_of_ascii ascii] at read
      exact (decodePairs_eq_ok_iff 0 bytes ascii).1 read
  · intro same
    have ascii (char : Char) (member : char ∈ chars) : char.toNat < 128 := by
      obtain ⟨value, isDigit, isChar⟩ := exists_digit_of_map_toLower same member
      exact toNat_lt_of_toLower (isChar ▸ toNat_hexDigit_lt value isDigit)
    have even : chars.length = 2 * bytes.length := by
      rw [← length_encodeChars, ← same, List.length_map]
    rw [decode, Bytes.ofString_ofList_of_ascii ascii, if_neg (by simp [even])]
    exact (decodePairs_eq_ok_iff 0 bytes ascii).2 same

/-- Some bytes are written like this, but for the case, if there are two digits for each byte. -/
theorem exists_bytes_iff {count : Nat} {chars : List Char} :
    (∃ bytes, bytes.length = count ∧ chars.map Char.toLower = encodeChars bytes) ↔
      chars.length = 2 * count ∧ ∀ char ∈ chars, (hexValue? char).isSome := by
  constructor
  · rintro ⟨bytes, rfl, same⟩
    refine ⟨by rw [← length_encodeChars, ← same, List.length_map], fun char member => ?_⟩
    obtain ⟨value, isDigit, isChar⟩ := exists_digit_of_map_toLower same member
    exact Option.isSome_iff_exists.2 ⟨value, hexValue?_eq_some_iff.2 ⟨isDigit, isChar⟩⟩
  · intro ⟨length, areDigits⟩
    induction count generalizing chars with
    | zero =>
        obtain rfl := List.eq_nil_of_length_eq_zero length
        exact ⟨[], rfl, rfl⟩
    | succ count ih =>
        obtain ⟨high, low, rest, rfl⟩ : ∃ high low rest, chars = high :: low :: rest := by
          match chars, length with
          | high :: low :: rest, _ => exact ⟨high, low, rest, rfl⟩
        obtain ⟨highIsDigit, areDigits⟩ := List.forall_mem_cons.1 areDigits
        obtain ⟨lowIsDigit, areDigits⟩ := List.forall_mem_cons.1 areDigits
        obtain ⟨bytes, rfl, same⟩ := ih (by simp at length; omega) areDigits
        obtain ⟨high', isHigh⟩ := Option.isSome_iff_exists.1 highIsDigit
        obtain ⟨low', isLow⟩ := Option.isSome_iff_exists.1 lowIsDigit
        obtain ⟨highBound, sameHigh⟩ := hexValue?_eq_some_iff.1 isHigh
        obtain ⟨lowBound, sameLow⟩ := hexValue?_eq_some_iff.1 isLow
        refine ⟨(UInt8.ofNat high' * 16 + UInt8.ofNat low') :: bytes, rfl, ?_⟩
        rw [encodeChars, toNat_join highBound lowBound, List.map_cons, List.map_cons, sameHigh,
          sameLow, same]
        congr 2 <;> congr 1 <;> omega

end Hex

end Consortium
