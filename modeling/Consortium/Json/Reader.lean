import Consortium.Json.Value

/-!
Reading JSON text. Blanks may stand around every token, and nothing may follow the value.
-/

namespace Consortium.Json.Reader

open Text

def isSpace (char : Char) : Bool :=
  char = ' ' || char = '\n' || char = '\t' || char = '\r'

def skipBlanks (text : List Char) : List Char := text.dropWhile isSpace

/-! ### Tokens -/

def literal? : List Char → Option (List Char × List Char)
  | [] => none
  | '"' :: rest => some ([], rest)
  | '\\' :: char :: rest => do
      let (literal, rest) ← literal? rest
      some ('\\' :: char :: literal, rest)
  | char :: rest => do
      let (literal, rest) ← literal? rest
      some (char :: literal, rest)

def spanDigits (text : List Char) : List Char × List Char :=
  (text.takeWhile isDigit, text.dropWhile isDigit)

def digits? (text : List Char) : Option (List Char × List Char) :=
  match spanDigits text with
  | ([], _) => none
  | found => some found

def wholePart? (text : List Char) : Option (List Char × List Char) :=
  match digits? text with
  | some ('0' :: _ :: _, _) => none
  | found => found

def fraction? : List Char → Option (List Char × List Char)
  | '.' :: rest => (digits? rest).map fun (digits, rest) => ('.' :: digits, rest)
  | text => some ([], text)

def exponentSign : List Char → List Char × List Char
  | '+' :: rest => (['+'], rest)
  | '-' :: rest => (['-'], rest)
  | text => ([], text)

def exponent? : List Char → Option (List Char × List Char)
  | [] => some ([], [])
  | char :: rest =>
      if char = 'e' ∨ char = 'E' then do
        let (sign, rest) := exponentSign rest
        let (digits, rest) ← digits? rest
        some (char :: sign ++ digits, rest)
      else some ([], char :: rest)

def unsignedNumber? (text : List Char) : Option (List Char × List Char) := do
  let (whole, rest) ← wholePart? text
  let (fraction, rest) ← fraction? rest
  let (exponent, rest) ← exponent? rest
  some (whole ++ fraction ++ exponent, rest)

def number? : List Char → Option (List Char × List Char)
  | '-' :: rest => (unsignedNumber? rest).map fun (spelling, rest) => ('-' :: spelling, rest)
  | text => unsignedNumber? text

/-! ### Values

A pair of brackets takes two nested calls and an item one, and each of them has as many characters
of its own, so the length of the text bounds the depth of the calls. -/

mutual

def value? : (depth : Nat) → List Char → Option (Value × List Char)
  | 0, _ => none
  | depth + 1, text =>
      match skipBlanks text with
      | 'n' :: 'u' :: 'l' :: 'l' :: rest => some (.null, rest)
      | 't' :: 'r' :: 'u' :: 'e' :: rest => some (.bool true, rest)
      | 'f' :: 'a' :: 'l' :: 's' :: 'e' :: rest => some (.bool false, rest)
      | '"' :: rest => (literal? rest).map fun (literal, rest) => (.string literal, rest)
      | '[' :: rest =>
          match skipBlanks rest with
          | ']' :: rest => some (.array [], rest)
          | rest => (items? depth rest).map fun (items, rest) => (.array items, rest)
      | '\x7b' :: rest =>
          match skipBlanks rest with
          | '\x7d' :: rest => some (.object [], rest)
          | rest => (fields? depth rest).map fun (fields, rest) => (.object fields, rest)
      | rest => (number? rest).map fun (spelling, rest) => (.number spelling, rest)

def items? : (depth : Nat) → List Char → Option (List Value × List Char)
  | 0, _ => none
  | depth + 1, text => do
      let (item, rest) ← value? depth text
      match skipBlanks rest with
      | ']' :: rest => some ([item], rest)
      | ',' :: rest =>
          let (others, rest) ← items? depth rest
          some (item :: others, rest)
      | _ => none

def fields? : (depth : Nat) → List Char → Option (List (List Char × Value) × List Char)
  | 0, _ => none
  | depth + 1, text =>
      match skipBlanks text with
      | '"' :: rest => do
          let (key, rest) ← literal? rest
          match skipBlanks rest with
          | ':' :: rest =>
              let (value, rest) ← value? depth rest
              match skipBlanks rest with
              | '\x7d' :: rest => some ([(key, value)], rest)
              | ',' :: rest =>
                  let (others, rest) ← fields? depth rest
                  some ((key, value) :: others, rest)
              | _ => none
          | _ => none
      | _ => none

end

end Consortium.Json.Reader

namespace Consortium.Json

def Value.ofText? (text : String) : Option Value :=
  let chars := text.toList
  match Reader.value? (chars.length + 1) chars with
  | some (value, rest) => if (Reader.skipBlanks rest).isEmpty then some value else none
  | none => none

end Consortium.Json
