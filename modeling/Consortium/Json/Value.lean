import Consortium.Json.Literal

/-!
JSON values. Numbers and strings are kept as they are spelled, so that a value says all that its
text says apart from blanks.
-/

namespace Consortium.Json

inductive Value where
  | null
  | bool (value : Bool)
  | number (spelling : List Char)
  | string (literal : List Char)
  | array (items : List Value)
  | object (fields : List (List Char × Value))

namespace Value

instance : Inhabited Value := ⟨.null⟩

def ofText (text : String) : Value := .string (Literal.write text.toList)

def ofNat (number : Nat) : Value := .number (toString number).toList

/-! ### Compact text -/

mutual

def toChars : Value → List Char
  | .null => ['n', 'u', 'l', 'l']
  | .bool true => ['t', 'r', 'u', 'e']
  | .bool false => ['f', 'a', 'l', 's', 'e']
  | .number spelling => spelling
  | .string literal => '"' :: literal ++ ['"']
  | .array [] => ['[', ']']
  | .array (item :: rest) => '[' :: toChars item ++ itemsToChars rest
  | .object [] => ['\x7b', '\x7d']
  | .object ((key, value) :: rest) =>
      '\x7b' :: '"' :: key ++ '"' :: ':' :: toChars value ++ fieldsToChars rest

def itemsToChars : List Value → List Char
  | [] => [']']
  | item :: rest => ',' :: toChars item ++ itemsToChars rest

def fieldsToChars : List (List Char × Value) → List Char
  | [] => ['\x7d']
  | (key, value) :: rest =>
      ',' :: '"' :: key ++ '"' :: ':' :: toChars value ++ fieldsToChars rest

end

def toText (value : Value) : String := String.ofList value.toChars

end Value

end Consortium.Json
