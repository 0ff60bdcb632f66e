import Consortium.Binary.Codec

/-!
Reading back what was written. A value is legible if reading its binary form, whatever follows,
gives the value and leaves what follows. Lengths take eight bytes, so a value has to fit: a text or
a collection that is longer than they can say is not legible. A reader is steady if it takes the
same value off the front of a longer byte string. A codec is lawful if it is legible where values
fit, and steady. Then no form goes on where another one ends, and a part of a form is not read.
-/

namespace Consortium.Binary

open Codec Std

/-! ### Legible values -/

def Legible {α : Type} [Codec α] (value : α) : Prop :=
  ∀ rest, decode (encode value ++ rest) = some (value, rest)

theorem read?_of_legible {α : Type} [Codec α] {value : α} (legible : Legible value) :
    read? (encode value) = some value := by
  have alone := legible []
  rw [List.append_nil] at alone
  rw [read?, alone]
  rfl

theorem takeBytes_append (taken rest : List UInt8) :
    takeBytes taken.length (taken ++ rest) = some (taken, rest) := by
  induction taken with
  | nil => rfl
  | cons byte taken ih => simp [takeBytes, ih]

theorem takeNumber_littleEndian {width number : Nat} (fits : number < Nat.pow 256 width)
    (rest : List UInt8) :
    takeNumber width (Bytes.littleEndian width number ++ rest) = some (number, rest) := by
  have taken := takeBytes_append (Bytes.littleEndian width number) rest
  rw [Bytes.length_littleEndian] at taken
  rw [takeNumber, taken]
  change some (Bytes.toNat (Bytes.littleEndian width number), rest) = _
  rw [Bytes.toNat_littleEndian, Nat.mod_eq_of_lt fits]

theorem legible_uint32 (number : UInt32) : Legible number := by
  intro rest
  change (takeNumber 4 (Bytes.littleEndian 4 number.toNat ++ rest)).bind _ = _
  rw [takeNumber_littleEndian number.toNat_lt]
  simp

theorem legible_uint64 (number : UInt64) : Legible number := by
  intro rest
  change (takeNumber 8 (Bytes.littleEndian 8 number.toNat ++ rest)).bind _ = _
  rw [takeNumber_littleEndian number.toNat_lt]
  simp

theorem legible_block {size : Nat} (block : Block size) : Legible block := by
  intro rest
  have taken := takeBytes_append block.toList rest
  rw [Vector.length_toList] at taken
  change (takeBytes size (block.toList ++ rest)).bind _ = _
  rw [taken, Option.bind_some]
  change (Block.ofList? block.toList).bind _ = _
  rw [Block.ofList?_toList]
  rfl

theorem legible_pair {α β : Type} [Codec α] [Codec β] {first : α} {second : β}
    (firstLegible : Legible first) (secondLegible : Legible second) :
    Legible (first, second) := by
  intro rest
  change (decode ((encode first ++ encode second) ++ rest)).bind _ = _
  rw [List.append_assoc, firstLegible, Option.bind_some]
  change (decode (encode second ++ rest)).bind _ = _
  rw [secondLegible, Option.bind_some]
  rfl

theorem legible_inl {α β : Type} [Codec α] [Codec β] {value : α} (legible : Legible value) :
    Legible (Sum.inl value : α ⊕ β) := by
  intro rest
  change (decode ((encode (0 : UInt32) ++ encode value) ++ rest)).bind _ = _
  rw [List.append_assoc, legible_uint32, Option.bind_some]
  change (decode (encode value ++ rest)).bind _ = _
  rw [legible, Option.bind_some]
  rfl

theorem legible_inr {α β : Type} [Codec α] [Codec β] {value : β} (legible : Legible value) :
    Legible (Sum.inr value : α ⊕ β) := by
  intro rest
  change (decode ((encode (1 : UInt32) ++ encode value) ++ rest)).bind _ = _
  rw [List.append_assoc, legible_uint32, Option.bind_some]
  change (decode (encode value ++ rest)).bind _ = _
  rw [legible, Option.bind_some]
  rfl

theorem legible_some {α : Type} [Codec α] {value : α} (legible : Legible value) :
    Legible (some value) := by
  intro rest
  change (decode (encode value ++ rest)).bind _ = _
  rw [legible, Option.bind_some]
  rfl

theorem legible_viaPartial {α β : Type} [Codec β] {split : α → β} {join? : β → Option α}
    {value : α} (joins : join? (split value) = some value) (legible : Legible (split value)) :
    @Legible α (.viaPartial split join?) value := by
  intro rest
  change (decode (encode (split value) ++ rest)).bind _ = _
  rw [legible, Option.bind_some]
  change (join? (split value)).bind _ = _
  rw [joins]
  rfl

theorem decodeAll_encodeAll {α : Type} [Codec α] {values : List α}
    (legible : ∀ value ∈ values, Legible value) (rest : List UInt8) :
    decodeAll values.length (encodeAll values ++ rest) = some (values, rest) := by
  induction values with
  | nil => rfl
  | cons first others ih =>
      obtain ⟨firstLegible, othersLegible⟩ := List.forall_mem_cons.1 legible
      rw [encodeAll, List.append_assoc, List.length_cons, decodeAll, firstLegible]
      change (decodeAll others.length (encodeAll others ++ rest)).bind _ = _
      rw [ih othersLegible]
      rfl

theorem legible_list {α : Type} [Codec α] {values : List α}
    (legible : ∀ value ∈ values, Legible value) (short : values.length < UInt64.size) :
    Legible values := by
  intro rest
  change (decode ((encode (UInt64.ofNat values.length) ++ encodeAll values) ++ rest)).bind _ = _
  rw [List.append_assoc, legible_uint64, Option.bind_some]
  change decodeAll (UInt64.ofNat values.length).toNat (encodeAll values ++ rest) = _
  rw [UInt64.toNat_ofNat_of_lt' short, decodeAll_encodeAll legible]

theorem legible_alternative {α : Type} [DecidableEq α] {alternatives : List α} {value : α}
    (member : value ∈ alternatives) (few : alternatives.length < UInt32.size) :
    @Legible α (.ofAlternatives alternatives) value := by
  refine legible_viaPartial ?_ (legible_uint32 _)
  have place := List.idxOf_lt_length_iff.2 member
  rw [UInt32.toNat_ofNat_of_lt' (Nat.lt_trans place few), List.getElem?_eq_getElem place,
    List.getElem_idxOf place]

/-! ### Steady readers -/

abbrev Reader (α : Type) := List UInt8 → Option (α × List UInt8)

structure Steady {α : Type} (reader : Reader α) : Prop where
  read_append : ∀ {bytes rest : List UInt8} {value : α} (more : List UInt8),
    reader bytes = some (value, rest) → reader (bytes ++ more) = some (value, rest ++ more)

namespace Steady

variable {α β : Type}

theorem done (value : α) : Steady fun bytes => some (value, bytes) where
  read_append more read := by
    cases read
    rfl

theorem refused : Steady fun _ => (none : Option (α × List UInt8)) where
  read_append more read := by cases read

theorem bind {reader : Reader β} {next : β → Reader α} (steady : Steady reader)
    (steadyNext : ∀ value, Steady (next value)) :
    Steady fun bytes => (reader bytes).bind fun parts => next parts.1 parts.2 where
  read_append {bytes rest value} more read := by
    obtain ⟨⟨first, middle⟩, readFirst, readNext⟩ := Option.bind_eq_some_iff.1 read
    rw [steady.read_append more readFirst]
    exact (steadyNext first).read_append more readNext

theorem map (make : β → α) {reader : Reader β} (steady : Steady reader) :
    Steady fun bytes => (reader bytes).bind fun parts => some (make parts.1, parts.2) :=
  steady.bind fun value => .done (make value)

theorem takeBytes (count : Nat) : Steady (takeBytes count) := by
  induction count with
  | zero => exact .done []
  | succ count ih =>
      constructor
      intro bytes rest taken more read
      cases bytes with
      | nil => cases read
      | cons byte bytes =>
          have steady := ih.bind fun others => .done (byte :: others)
          exact steady.read_append more read

theorem takeNumber (width : Nat) : Steady (takeNumber width) :=
  (takeBytes width).map Bytes.toNat

theorem ite (condition : Prop) [Decidable condition] {left right : Reader α}
    (steadyLeft : Steady left) (steadyRight : Steady right) :
    Steady fun bytes => if condition then left bytes else right bytes := by
  by_cases holds : condition <;> simpa only [holds, if_true, if_false]

theorem joined (join? : β → Option α) (parts : β) :
    Steady fun rest => (join? parts).bind fun value => some (value, rest) := by
  cases join? parts with
  | none => exact .refused
  | some value => exact .done value

theorem viaPartial [Codec β] {split : α → β} {join? : β → Option α}
    (steady : Steady (decode : Reader β)) :
    Steady (Codec.viaPartial split join?).decode :=
  steady.bind (.joined join?)

theorem decodeAll [Codec α] (steady : Steady (decode : Reader α)) (count : Nat) :
    Steady (decodeAll count : Reader (List α)) := by
  induction count with
  | zero => exact .done []
  | succ count ih => exact steady.bind fun value => ih.bind fun values => .done (value :: values)

end Steady

/-! ### Lawful codecs -/

/-- Which values are short enough to be written. -/
class Bounded (α : Type) where
  /-- Every text and every collection in the value is shorter than 2^64. -/
  Fits : α → Prop
  decidableFits : DecidablePred Fits

attribute [reducible, instance] Bounded.decidableFits

open Bounded

class LawfulCodec (α : Type) [Codec α] [Bounded α] : Prop where
  legible : ∀ {value : α}, Fits value → Legible value
  steady : Steady (decode : Reader α)

section Laws

variable {α : Type} [Codec α] [Bounded α] [LawfulCodec α] {value other : α}

open LawfulCodec

theorem read?_encode_append (fits : Fits value) (rest : List UInt8) :
    read? (encode value ++ rest) = some value := by
  rw [read?, legible fits]
  rfl

/-- What is read off a part of a form is read off the whole, and leaves the missing part. -/
theorem read?_of_isPrefix (fits : Fits value) {part : List UInt8}
    (within : part <+: encode value) (strict : part ≠ encode value) :
    (read? part : Option α) = none := by
  obtain ⟨missing, whole⟩ := within
  rw [read?, Option.map_eq_none_iff, Option.eq_none_iff_forall_not_mem]
  rintro ⟨found, rest⟩ read
  have onward := steady.read_append missing read
  have alone := legible fits []
  rw [List.append_nil] at alone
  rw [whole, alone] at onward
  have nothing := List.append_eq_nil_iff.1 (congrArg Prod.snd (Option.some.inj onward)).symm
  rw [nothing.2, List.append_nil] at whole
  exact strict whole

theorem eq_of_encode_isPrefix (fits : Fits value) (otherFits : Fits other)
    (within : encode value <+: encode other) : value = other := by
  obtain ⟨missing, whole⟩ := within
  have read := read?_encode_append fits missing
  rw [whole, read?_of_legible (legible otherFits)] at read
  exact (Option.some.inj read).symm

theorem encode_eq_iff (fits : Fits value) (otherFits : Fits other) :
    encode value = encode other ↔ value = other := by
  constructor
  · intro same
    exact eq_of_encode_isPrefix fits otherFits (same ▸ List.prefix_refl _)
  · exact congrArg encode

end Laws

/-! ### Combinators -/

@[reducible] def Bounded.unlimited {α : Type} : Bounded α := ⟨fun _ => True, inferInstance⟩

@[reducible] def Bounded.via {α β : Type} [Bounded β] (split : α → β) : Bounded α :=
  ⟨fun value => Fits (split value), inferInstance⟩

instance : Bounded UInt8 := .unlimited

instance : Bounded UInt32 := .unlimited

instance : Bounded UInt64 := .unlimited

instance {size : Nat} : Bounded (Block size) := .unlimited

instance {α β : Type} [Bounded α] [Bounded β] : Bounded (α × β) :=
  ⟨fun pair => Fits pair.1 ∧ Fits pair.2, inferInstance⟩

instance {α β : Type} [Bounded α] [Bounded β] : Bounded (α ⊕ β) where
  Fits
    | .inl value => Fits value
    | .inr value => Fits value
  decidableFits
    | .inl value => inferInstanceAs (Decidable (Fits value))
    | .inr value => inferInstanceAs (Decidable (Fits value))

instance {α : Type} [Bounded α] : Bounded (Option α) :=
  ⟨fun value? => ∀ value ∈ value?, Fits value, inferInstance⟩

instance {α : Type} [Bounded α] : Bounded (List α) :=
  ⟨fun values => values.length < UInt64.size ∧ ∀ value ∈ values, Fits value, inferInstance⟩

instance {α : Type} [Bounded α] [Ord α] : Bounded (SortedSet α) := .via SortedSet.toList

instance {κ ν : Type} [Bounded κ] [Bounded ν] [Ord κ] : Bounded (SortedMap κ ν) :=
  .via SortedMap.entries

instance : Bounded String := .via Bytes.ofString

namespace LawfulCodec

variable {α β : Type}

theorem viaPartial [Codec β] [Bounded β] [LawfulCodec β] {split : α → β} {join? : β → Option α}
    (joins : ∀ value, join? (split value) = some value) :
    @LawfulCodec α (.viaPartial split join?) (.via split) :=
  letI := Codec.viaPartial split join?
  letI := Bounded.via split
  { legible := fun {value} fits => legible_viaPartial (joins value) (legible fits)
    steady := .viaPartial steady }

theorem via [Codec β] [Bounded β] [LawfulCodec β] {split : α → β} {join : β → α}
    (joins : ∀ value, join (split value) = value) :
    @LawfulCodec α (.via split join) (.via split) :=
  viaPartial fun value => congrArg some (joins value)

instance : LawfulCodec UInt8 where
  legible _ _ := rfl
  steady := by
    constructor
    intro bytes rest value more read
    cases bytes with
    | nil => cases read
    | cons byte bytes =>
        cases read
        rfl

instance : LawfulCodec UInt32 where
  legible {number} _ := legible_uint32 number
  steady := (Steady.takeNumber 4).map UInt32.ofNat

instance : LawfulCodec UInt64 where
  legible {number} _ := legible_uint64 number
  steady := (Steady.takeNumber 8).map UInt64.ofNat

instance {size : Nat} : LawfulCodec (Block size) where
  legible {block} _ := legible_block block
  steady := (Steady.takeBytes size).bind fun taken => .joined Block.ofList? taken

variable [Codec α] [Bounded α] [LawfulCodec α] [Codec β] [Bounded β] [LawfulCodec β]

instance : LawfulCodec (α × β) where
  legible fits := legible_pair (legible fits.1) (legible fits.2)
  steady := steady.bind fun first => steady.bind fun second => .done (first, second)

instance : LawfulCodec (α ⊕ β) where
  legible {value} fits := by
    cases value with
    | inl value => exact legible_inl (legible fits)
    | inr value => exact legible_inr (legible fits)
  steady := (steady (α := UInt32)).bind fun tag =>
    .ite (tag = 0) (steady.map Sum.inl) (.ite (tag = 1) (steady.map Sum.inr) .refused)

instance : LawfulCodec (Option α) where
  legible {value?} fits := by
    cases value? with
    | none => exact fun _ => rfl
    | some value => exact legible_some (legible (fits value rfl))
  steady := by
    constructor
    intro bytes rest value? more read
    cases bytes with
    | nil => cases read
    | cons tag bytes =>
        have tagged := Steady.ite (tag = 0) (.done (none : Option α))
          (.ite (tag = 1) (steady.map some) .refused)
        exact tagged.read_append more read

instance : LawfulCodec (List α) where
  legible fits := legible_list (fun value member => legible (fits.2 value member)) fits.1
  steady := (steady (α := UInt64)).bind fun count => steady.decodeAll count.toNat

instance [Ord α] [TransOrd α] [LawfulEqOrd α] : LawfulCodec (SortedSet α) :=
  via SortedSet.ofList_toList

instance [Ord α] [TransOrd α] [LawfulEqOrd α] : LawfulCodec (SortedMap α β) :=
  via SortedMap.ofList_entries

instance : LawfulCodec String := viaPartial Bytes.toString?_ofString

theorem ofAlternatives {α : Type} [DecidableEq α] {alternatives : List α}
    (complete : ∀ value, value ∈ alternatives) (few : alternatives.length < UInt32.size) :
    @LawfulCodec α (.ofAlternatives alternatives) .unlimited :=
  letI := Codec.ofAlternatives alternatives
  letI := Bounded.unlimited (α := α)
  { legible := fun {value} _ => legible_alternative (complete value) few
    steady := .viaPartial steady }

theorem ofMeasuredBlock {size : Nat} (short : size < UInt64.size) :
    @LawfulCodec (Block size) .ofMeasuredBlock .unlimited :=
  letI := @Codec.ofMeasuredBlock size
  letI := Bounded.unlimited (α := Block size)
  { legible := fun {block} _ => by
      refine legible_viaPartial (Block.ofList?_toList block) (legible ?_)
      refine ⟨?_, fun _ _ => trivial⟩
      rw [Vector.length_toList]
      exact short
    steady := .viaPartial steady }

end LawfulCodec

end Consortium.Binary
