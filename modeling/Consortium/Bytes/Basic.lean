/-!
Byte strings are lists of bytes; strings of a fixed length are vectors. Numbers are written in a
fixed number of bytes, least significant first.
-/

namespace Consortium

abbrev Block (size : Nat) := Vector UInt8 size

def Block.ofList? {size : Nat} (bytes : List UInt8) : Option (Block size) :=
  if length : bytes.length = size then
    some ⟨bytes.toArray, by simp [length]⟩
  else none

@[simp] theorem Block.ofList?_toList {size : Nat} (block : Block size) :
    Block.ofList? block.toList = some block := by
  simp [Block.ofList?, Vector.toList]

theorem Block.toList_of_ofList? {size : Nat} {bytes : List UInt8} {block : Block size}
    (read : Block.ofList? bytes = some block) : block.toList = bytes := by
  unfold Block.ofList? at read
  split at read
  · cases read
    rfl
  · cases read

namespace Bytes

/-- The lowest `width` bytes of `value`, least significant first. -/
def littleEndian : (width value : Nat) → List UInt8
  | 0, _ => []
  | width + 1, value => UInt8.ofNat value :: littleEndian width (value / 256)

def toNat : List UInt8 → Nat
  | [] => 0
  | byte :: rest => byte.toNat + 256 * toNat rest

@[simp] theorem length_littleEndian (width value : Nat) :
    (littleEndian width value).length = width := by
  induction width generalizing value with
  | zero => rfl
  | succ width ih => simp [littleEndian, ih]

theorem toNat_littleEndian (width value : Nat) :
    toNat (littleEndian width value) = value % Nat.pow 256 width := by
  induction width generalizing value with
  | zero => simp [littleEndian, toNat, Nat.mod_one]
  | succ width ih =>
      have : Nat.pow 256 (width + 1) = 256 * Nat.pow 256 width := Nat.pow_succ'
      rw [littleEndian, toNat, ih, UInt8.toNat_ofNat', this, Nat.mod_mul]

theorem toNat_lt (bytes : List UInt8) : toNat bytes < Nat.pow 256 bytes.length := by
  induction bytes with
  | nil => simp [toNat]
  | cons byte rest ih =>
      have := byte.toNat_lt
      have : Nat.pow 256 (rest.length + 1) = Nat.pow 256 rest.length * 256 := rfl
      rw [toNat, List.length_cons, this]
      omega

theorem littleEndian_toNat (bytes : List UInt8) :
    littleEndian bytes.length (toNat bytes) = bytes := by
  induction bytes with
  | nil => rfl
  | cons byte rest ih =>
      have bound := byte.toNat_lt
      simp only [List.length_cons, littleEndian, toNat]
      congr 1
      · apply UInt8.toNat_inj.1
        simp
      · rw [show (byte.toNat + 256 * toNat rest) / 256 = toNat rest by omega, ih]

def ofString (text : String) : List UInt8 := text.toUTF8.data.toList

def toString? (bytes : List UInt8) : Option String := String.fromUTF8? ⟨bytes.toArray⟩

@[simp] theorem toString?_ofString (text : String) : toString? (ofString text) = some text := by
  simp [toString?, ofString, String.fromUTF8?, text.isValidUTF8, String.fromUTF8]

theorem ofString_of_toString? {bytes : List UInt8} {text : String}
    (read : toString? bytes = some text) : ofString text = bytes := by
  unfold toString? String.fromUTF8? at read
  split at read
  · cases read
    simp [ofString, String.fromUTF8]
  · cases read

theorem ofString_injective {left right : String} (equal : ofString left = ofString right) :
    left = right := by
  have := congrArg toString? equal
  simpa using this

end Bytes

end Consortium
