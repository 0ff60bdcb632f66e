import Consortium.Bytes.Basic
import Consortium.Ordered.Map
import Consortium.Ordered.Set

/-!
The binary form of values, which transaction ids commit to and which the lock store keeps. Numbers
have a fixed width and go least significant byte first, lengths take eight bytes, alternatives four,
options one, and fields follow one another without separators. Reading takes a value off the front
of a byte string and leaves the rest.
-/

namespace Consortium.Binary

open Std

class Codec (α : Type) where
  encode : α → List UInt8
  decode : List UInt8 → Option (α × List UInt8)

open Codec

def read? {α : Type} [Codec α] (bytes : List UInt8) : Option α := (decode bytes).map Prod.fst

namespace Codec

@[reducible] def viaPartial {α β : Type} [Codec β]
    (split : α → β) (join? : β → Option α) : Codec α where
  encode value := encode (split value)
  decode bytes := do
    let (parts, rest) ← decode bytes
    let value ← join? parts
    pure (value, rest)

@[reducible] def via {α β : Type} [Codec β] (split : α → β) (join : β → α) : Codec α :=
  viaPartial split fun parts => some (join parts)

end Codec

/-! ### Numbers and blocks -/

def takeBytes : (count : Nat) → List UInt8 → Option (List UInt8 × List UInt8)
  | 0, bytes => some ([], bytes)
  | _ + 1, [] => none
  | count + 1, byte :: bytes => do
      let (taken, rest) ← takeBytes count bytes
      pure (byte :: taken, rest)

def takeNumber (width : Nat) (bytes : List UInt8) : Option (Nat × List UInt8) := do
  let (taken, rest) ← takeBytes width bytes
  pure (Bytes.toNat taken, rest)

instance : Codec UInt8 where
  encode byte := [byte]
  decode
    | [] => none
    | byte :: rest => some (byte, rest)

instance : Codec UInt32 where
  encode number := Bytes.littleEndian 4 number.toNat
  decode bytes := do
    let (number, rest) ← takeNumber 4 bytes
    pure (UInt32.ofNat number, rest)

instance : Codec UInt64 where
  encode number := Bytes.littleEndian 8 number.toNat
  decode bytes := do
    let (number, rest) ← takeNumber 8 bytes
    pure (UInt64.ofNat number, rest)

instance {size : Nat} : Codec (Block size) where
  encode block := block.toList
  decode bytes := do
    let (taken, rest) ← takeBytes size bytes
    let block ← Block.ofList? taken
    pure (block, rest)

/-! ### Products, alternatives and options -/

instance {α β : Type} [Codec α] [Codec β] : Codec (α × β) where
  encode pair := encode pair.1 ++ encode pair.2
  decode bytes := do
    let (first, rest) ← decode bytes
    let (second, rest) ← decode rest
    pure ((first, second), rest)

instance {α β : Type} [Codec α] [Codec β] : Codec (α ⊕ β) where
  encode
    | .inl value => encode (0 : UInt32) ++ encode value
    | .inr value => encode (1 : UInt32) ++ encode value
  decode bytes := do
    let ((tag : UInt32), rest) ← decode bytes
    if tag = 0 then
      let (value, rest) ← decode rest
      pure (.inl value, rest)
    else if tag = 1 then
      let (value, rest) ← decode rest
      pure (.inr value, rest)
    else none

instance {α : Type} [Codec α] : Codec (Option α) where
  encode
    | none => [0]
    | some value => 1 :: encode value
  decode
    | [] => none
    | tag :: rest =>
        if tag = 0 then some (none, rest)
        else if tag = 1 then do
          let (value, rest) ← decode rest
          pure (some value, rest)
        else none

/-- A type with finitely many values is written as the place of a value in their list. -/
@[reducible] def Codec.ofAlternatives {α : Type} [DecidableEq α] (alternatives : List α) : Codec α :=
  .viaPartial (fun value => UInt32.ofNat (alternatives.idxOf value))
    (fun index => alternatives[index.toNat]?)

/-! ### Sequences, sets and maps -/

def encodeAll {α : Type} [Codec α] : List α → List UInt8
  | [] => []
  | value :: rest => encode value ++ encodeAll rest

def decodeAll {α : Type} [Codec α] :
    (count : Nat) → List UInt8 → Option (List α × List UInt8)
  | 0, bytes => some ([], bytes)
  | count + 1, bytes => do
      let (value, rest) ← decode bytes
      let (values, rest) ← decodeAll count rest
      pure (value :: values, rest)

instance {α : Type} [Codec α] : Codec (List α) where
  encode values := encode (UInt64.ofNat values.length) ++ encodeAll values
  decode bytes := do
    let ((count : UInt64), rest) ← decode bytes
    decodeAll count.toNat rest

/-- A set is written in its order, and read in any order and with repetitions. -/
instance {α : Type} [Codec α] [Ord α] [TransOrd α] [LawfulEqOrd α] : Codec (SortedSet α) :=
  .via SortedSet.toList SortedSet.ofList

/-- A map is written in the order of its keys, and read in any order; a later entry wins. -/
instance {κ ν : Type} [Codec κ] [Codec ν] [Ord κ] [TransOrd κ] [LawfulEqOrd κ] :
    Codec (SortedMap κ ν) :=
  .via SortedMap.entries SortedMap.ofList

instance : Codec String := .viaPartial Bytes.ofString Bytes.toString?

@[reducible] def Codec.ofMeasuredBlock {size : Nat} : Codec (Block size) :=
  .viaPartial Vector.toList Block.ofList?

end Consortium.Binary
