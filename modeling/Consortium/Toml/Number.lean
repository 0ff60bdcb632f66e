import Consortium.Text.Digit

/-!
Reading numbers in a TOML text. Digits may be grouped by underscores, each between two digits.
-/

namespace Consortium.Toml.Number

open Text

def moreDigits (valid : Char → Bool) : List Char → List Char × List Char
  | [] => ([], [])
  | '_' :: digit :: rest =>
      if valid digit then
        let (digits, rest) := moreDigits valid rest
        (digit :: digits, rest)
      else ([], '_' :: digit :: rest)
  | digit :: rest =>
      if valid digit then
        let (digits, rest) := moreDigits valid rest
        (digit :: digits, rest)
      else ([], digit :: rest)

def digits? (valid : Char → Bool) : List Char → Option (List Char × List Char)
  | [] => none
  | digit :: rest =>
      if valid digit then
        let (digits, rest) := moreDigits valid rest
        some (digit :: digits, rest)
      else none

def ofDigits (base : Nat) (digits : List Char) : Nat :=
  digits.foldl (fun value digit => value * base + (hexValue? digit).getD 0) 0

def isHexDigit (char : Char) : Bool := (hexValue? char).isSome

def isOctalDigit (char : Char) : Bool := '0' ≤ char && char ≤ '7'

def isBinaryDigit (char : Char) : Bool := char = '0' || char = '1'

def sign : List Char → Bool × List Char
  | '+' :: rest => (false, rest)
  | '-' :: rest => (true, rest)
  | text => (false, text)

def whole? : List Char → Option (List Char × List Char)
  | '0' :: rest => some (['0'], rest)
  | text => digits? isDigit text

def minInteger : Int := -0x8000000000000000

def maxInteger : Int := 0x7fffffffffffffff

/-- An integer has to fit into 64 bits. -/
def inRange (value : Int) : Bool := minInteger ≤ value && value ≤ maxInteger

def based? (base : Nat) (valid : Char → Bool) (text : List Char) : Option (Int × List Char) := do
  let (digits, rest) ← digits? valid text
  let value : Int := ofDigits base digits
  if inRange value then some (value, rest) else none

def decimal? (text : List Char) : Option (Int × List Char) := do
  let (negative, text) := sign text
  let (digits, rest) ← whole? text
  let magnitude : Int := ofDigits 10 digits
  let value := if negative then -magnitude else magnitude
  if inRange value then some (value, rest) else none

def integer? : List Char → Option (Int × List Char)
  | '0' :: 'x' :: rest => based? 16 isHexDigit rest
  | '0' :: 'o' :: rest => based? 8 isOctalDigit rest
  | '0' :: 'b' :: rest => based? 2 isBinaryDigit rest
  | text => decimal? text

/-! ### Numbers with a fraction or an exponent -/

def fraction? : List Char → Option (List Char × List Char)
  | '.' :: rest => digits? isDigit rest
  | _ => none

def exponent? : List Char → Option (Int × List Char)
  | [] => none
  | char :: rest =>
      if char = 'e' ∨ char = 'E' then do
        let (negative, rest) := sign rest
        let (digits, rest) ← digits? isDigit rest
        let magnitude : Int := ofDigits 10 digits
        some (if negative then -magnitude else magnitude, rest)
      else none

/-- The least number that rounds to infinity in double precision. -/
def overflowBound : Nat := Nat.pow 2 1024 - Nat.pow 2 970

/-- Whether `mantissa * 10 ^ exponent` rounds to infinity in double precision. -/
def overflows (mantissa : Nat) (exponent : Int) : Bool :=
  let magnitude := exponent + (toString mantissa).length
  if mantissa = 0 || magnitude < 300 then false
  else if magnitude > 310 then true
  else if 0 ≤ exponent then overflowBound ≤ mantissa * Nat.pow 10 exponent.toNat
  else overflowBound * Nat.pow 10 (-exponent).toNat ≤ mantissa

/-- A number with a fraction, an exponent or both. It may be too small but not too large. -/
def decimalFloat? (text : List Char) : Option (List Char) := do
  let (negative, text) := sign text
  let (whole, rest) ← whole? text
  let (fraction, exponent, rest) ←
    match fraction? rest with
    | some (fraction, rest) =>
        match exponent? rest with
        | some (exponent, rest) => some (fraction, exponent, rest)
        | none => some (fraction, 0, rest)
    | none => (exponent? rest).map fun (exponent, rest) => ([], exponent, rest)
  if !negative && overflows (ofDigits 10 (whole ++ fraction)) (exponent - fraction.length) then none
  else some rest

def specialFloat? (text : List Char) : Option (List Char) :=
  match (sign text).2 with
  | 'i' :: 'n' :: 'f' :: rest => some rest
  | 'n' :: 'a' :: 'n' :: rest => some rest
  | _ => none

def float? (text : List Char) : Option (List Char) := decimalFloat? text <|> specialFloat? text

end Consortium.Toml.Number
