import Consortium.Text.Digit

/-!
Reading dates and times in a TOML text. Each reader checks the ranges of what it reads and returns
what follows.
-/

namespace Consortium.Toml.Moment

open Text

def digits? : (count : Nat) → (value : Nat) → List Char → Option (Nat × List Char)
  | 0, value, rest => some (value, rest)
  | count + 1, value, digit :: rest =>
      if isDigit digit then digits? count (value * 10 + (digit.toNat - 48)) rest else none
  | _ + 1, _, [] => none

def twoDigits? (least greatest : Nat) (text : List Char) : Option (Nat × List Char) := do
  let (value, rest) ← digits? 2 0 text
  if least ≤ value ∧ value ≤ greatest then some (value, rest) else none

def skip? (char : Char) : List Char → Option (List Char)
  | [] => none
  | first :: rest => if first = char then some rest else none

def isLeapYear (year : Nat) : Bool :=
  year % 4 = 0 && (year % 100 != 0 || year % 400 = 0)

def daysInMonth (year month : Nat) : Nat :=
  if month = 2 then if isLeapYear year then 29 else 28
  else if month = 4 ∨ month = 6 ∨ month = 9 ∨ month = 11 then 30
  else 31

def date? (text : List Char) : Option (List Char) := do
  let (year, rest) ← digits? 4 0 text
  let rest ← skip? '-' rest
  let (month, rest) ← twoDigits? 1 12 rest
  let rest ← skip? '-' rest
  let (_, rest) ← twoDigits? 1 (daysInMonth year month) rest
  some rest

def secondFraction? : List Char → Option (List Char)
  | '.' :: digit :: rest => if isDigit digit then some (rest.dropWhile isDigit) else none
  | '.' :: [] => none
  | text => some text

def time? (text : List Char) : Option (List Char) := do
  let (_, rest) ← twoDigits? 0 23 text
  let rest ← skip? ':' rest
  let (_, rest) ← twoDigits? 0 59 rest
  let rest ← skip? ':' rest
  let (_, rest) ← twoDigits? 0 60 rest
  secondFraction? rest

def offset? : List Char → Option (List Char)
  | [] => some []
  | char :: rest =>
      if char = 'Z' ∨ char = 'z' then some rest
      else if char = '+' ∨ char = '-' then do
        let (_, rest) ← twoDigits? 0 23 rest
        let rest ← skip? ':' rest
        let (_, rest) ← twoDigits? 0 59 rest
        some rest
      else some (char :: rest)

def timeOfDate? : List Char → Option (List Char)
  | [] => none
  | char :: rest =>
      if char = 'T' ∨ char = 't' ∨ char = ' ' then (time? rest).bind offset? else none

def read? (text : List Char) : Option (List Char) :=
  match date? text with
  | some rest => some ((timeOfDate? rest).getD rest)
  | none => time? text

end Consortium.Toml.Moment
