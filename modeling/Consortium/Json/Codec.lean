import Consortium.Json.Reader
import Consortium.Ordered.Map
import Consortium.Ordered.Set

/-!
The JSON form of values. A record is written as an object with its fields in order, and read from
such an object in any order or from the array of its fields. An alternative is written as its name,
or as an object from its name to what it holds.
-/

namespace Consortium.Json

open Std

class Codec (α : Type) where
  write : α → Value
  read : Value → Option α

open Codec

def read? {α : Type} [Codec α] (text : String) : Option α := (Value.ofText? text).bind read

def text {α : Type} [Codec α] (value : α) : String := (write value).toText

namespace Codec

@[reducible] def viaPartial {α β : Type} [Codec β]
    (split : α → β) (join? : β → Option α) : Codec α where
  write value := write (split value)
  read value := (read value).bind join?

@[reducible] def via {α β : Type} [Codec β] (split : α → β) (join : β → α) : Codec α :=
  viaPartial split fun parts => some (join parts)

end Codec

/-! ### Numbers and texts -/

def digitsValue (digits : List Char) : Nat :=
  digits.foldl (fun value digit => value * 10 + (digit.toNat - 48)) 0

/-- Only digits spell a natural number: no sign, point or exponent. -/
def readNat : Value → Option Nat
  | .number spelling =>
      if spelling.all Text.isDigit then some (digitsValue spelling) else none
  | _ => none

def readBelow (bound : Nat) (value : Value) : Option Nat :=
  (readNat value).filter fun number => number < bound

instance : Codec UInt8 where
  write number := .ofNat number.toNat
  read value := (readBelow UInt8.size value).map UInt8.ofNat

instance : Codec UInt32 where
  write number := .ofNat number.toNat
  read value := (readBelow UInt32.size value).map UInt32.ofNat

instance : Codec UInt64 where
  write number := .ofNat number.toNat
  read value := (readBelow UInt64.size value).map UInt64.ofNat

def literalText? (literal : List Char) : Option String :=
  (Literal.read? literal).map String.ofList

instance : Codec String where
  write := Value.ofText
  read
    | .string literal => literalText? literal
    | _ => none

/-! ### Options and sequences -/

instance {α : Type} [Codec α] : Codec (Option α) where
  write
    | none => .null
    | some value => write value
  read
    | .null => some none
    | value => (read value).map some

def readItems {α : Type} [Codec α] : Value → Option (List α)
  | .array items => items.mapM read
  | _ => none

instance {α : Type} [Codec α] : Codec (List α) where
  write values := .array (values.map write)
  read := readItems

/-- A set is written in its order, and read in any order and with repetitions. -/
instance {α : Type} [Codec α] [Ord α] [TransOrd α] [LawfulEqOrd α] : Codec (SortedSet α) :=
  .via SortedSet.toList SortedSet.ofList

instance {size : Nat} : Codec (Block size) :=
  .viaPartial Vector.toList Block.ofList?

def readEntry {ν : Type} [Codec ν] (field : List Char × Value) : Option (String × ν) := do
  let key ← literalText? field.1
  let value ← read field.2
  some (key, value)

/-- A map from texts is an object. Of two fields with one name the later one wins. -/
instance {ν : Type} [Codec ν] : Codec (SortedMap String ν) where
  write map :=
    .object (map.entries.map fun (key, value) => (Literal.write key.toList, write value))
  read
    | .object fields => (fields.mapM readEntry).map SortedMap.ofList
    | _ => none

/-! ### Values that nobody reads -/

mutual

def isAcceptable : Value → Bool
  | .string literal => Literal.isAcceptable literal
  | .array items => areAcceptable items
  | .object fields => areAcceptableFields fields
  | _ => true

def areAcceptable : List Value → Bool
  | [] => true
  | item :: rest => isAcceptable item && areAcceptable rest

def areAcceptableFields : List (List Char × Value) → Bool
  | [] => true
  | (key, value) :: rest =>
      Literal.isAcceptable key && isAcceptable value && areAcceptableFields rest

end

/-! ### Records -/

/-- Where a field may be missing. -/
inductive Presence where
  | required
  /-- In an object. -/
  | nullable
  /-- In an object, and at the end of an array. -/
  | defaulted
deriving DecidableEq

structure FieldRule where
  name : String
  presence : Presence

namespace FieldRule

def required (name : String) : FieldRule := ⟨name, .required⟩

def nullable (name : String) : FieldRule := ⟨name, .nullable⟩

def defaulted (name : String) : FieldRule := ⟨name, .defaulted⟩

end FieldRule

/-- The fields of an object by name. Two fields of one known name are refused; a field of another
name has only to be well formed. -/
def namedFields (known : List String) :
    List (List Char × Value) → Option (List (String × Value))
  | [] => some []
  | (literal, value) :: rest => do
      let name ← literalText? literal
      let others ← namedFields known rest
      if name ∈ known then
        if others.any fun field => decide (field.1 = name) then none
        else some ((name, value) :: others)
      else if isAcceptable value then some others
      else none

/-- The fields of a record in the order of their rules. One that may be missing need not be
there. -/
def fieldsInOrder (found : List (String × Value)) : List FieldRule → Option (List (Option Value))
  | [] => some []
  | rule :: rules => do
      let field := found.lookup rule.name
      let others ← fieldsInOrder found rules
      if field.isNone ∧ rule.presence = .required then none else some (field :: others)

/-- The items of an array. Those that may be missing at its end need not be there. -/
def itemsInOrder : List Value → List FieldRule → Option (List (Option Value))
  | [], [] => some []
  | _ :: _, [] => none
  | [], rule :: rules => do
      let others ← itemsInOrder [] rules
      if rule.presence = .defaulted then some (none :: others) else none
  | item :: items, _ :: rules => do
      let others ← itemsInOrder items rules
      some (some item :: others)

def readRecord (rules : List FieldRule) : Value → Option (List (Option Value))
  | .object fields => do
      let found ← namedFields (rules.map FieldRule.name) fields
      fieldsInOrder found rules
  | .array items => itemsInOrder items rules
  | _ => none

def readFieldOr {α : Type} [Codec α] (missing : α) : Option Value → Option α
  | some value => read value
  | none => some missing

def readField {α : Type} [Codec α] (field : Option Value) : Option α := field.bind read

def record (fields : List (String × Value)) : Value :=
  .object (fields.map fun (name, value) => (Literal.write name.toList, value))

/-! ### Alternatives -/

def readAlternative : Value → Option (String × Option Value)
  | .string literal => (literalText? literal).map fun name => (name, none)
  | .object [(literal, value)] => (literalText? literal).map fun name => (name, some value)
  | _ => none

@[reducible] def Codec.ofNames {α : Type} (alternatives : List α) (name : α → String) :
    Codec α where
  write value := .ofText (name value)
  read value := do
    let (found, content) ← readAlternative value
    match content with
    | none | some .null => alternatives.find? fun value => decide (name value = found)
    | some _ => none

@[reducible] def Codec.ofCases {α β : Type} [Codec α] [Codec β] (first second : String) :
    Codec (α ⊕ β) where
  write
    | .inl value => record [(first, write value)]
    | .inr value => record [(second, write value)]
  read value := do
    let (found, content) ← readAlternative value
    let content ← content
    if found = first then (read content).map .inl
    else if found = second then (read content).map .inr
    else none

end Consortium.Json
