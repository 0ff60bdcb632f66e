import Consortium.Text.Digit

/-!
Reading the four kinds of string in a TOML text: basic and literal ones, each on one line or on
several. A reader starts behind the opening quotes and returns the string and what follows the
closing quotes.
-/

namespace Consortium.Toml.Literal

open Text

def isSpace (char : Char) : Bool := char = ' ' || char = '\t'

/-- Every character but the control characters; the tab counts as printable. -/
def isPrintable (char : Char) : Bool :=
  char = '\t' || (32 ≤ char.toNat && char.toNat != 127)

def escaped? (letter : Char) : Option Char :=
  if letter = 'b' then some (Char.ofNat 8)
  else if letter = 't' then some '\t'
  else if letter = 'n' then some '\n'
  else if letter = 'f' then some (Char.ofNat 12)
  else if letter = 'r' then some '\r'
  else if letter = '"' then some '"'
  else if letter = '\\' then some '\\'
  else none

def hexNumber? : (value : Nat) → List Char → Option Nat
  | value, [] => some value
  | value, digit :: rest => do
      let digit ← hexValue? digit
      hexNumber? (value * 16 + digit) rest

/-- The character of a code point in hexadecimal digits. Surrogates are none. -/
def scalar? (digits : List Char) : Option Char := do
  let value ← hexNumber? 0 digits
  if value.isValidChar then some (Char.ofNat value) else none

def basic? : List Char → Option (List Char × List Char)
  | [] => none
  | '"' :: rest => some ([], rest)
  | '\\' :: 'u' :: a :: b :: c :: d :: rest => do
      let char ← scalar? [a, b, c, d]
      let (text, rest) ← basic? rest
      some (char :: text, rest)
  | '\\' :: 'U' :: a :: b :: c :: d :: e :: f :: g :: h :: rest => do
      let char ← scalar? [a, b, c, d, e, f, g, h]
      let (text, rest) ← basic? rest
      some (char :: text, rest)
  | '\\' :: letter :: rest => do
      let char ← escaped? letter
      let (text, rest) ← basic? rest
      some (char :: text, rest)
  | char :: rest =>
      if isPrintable char && char != '\\' then do
        let (text, rest) ← basic? rest
        some (char :: text, rest)
      else none

def endsLine : List Char → Bool
  | '\n' :: _ => true
  | '\r' :: '\n' :: _ => true
  | char :: rest => isSpace char && endsLine rest
  | [] => false

/-- The rest of a basic string on several lines. A backslash at the end of a line drops all blanks
and line ends that follow it; while they are dropped, `trimming` holds. One or two quotes may stand
before the closing ones. -/
def multilineBasic? : (trimming : Bool) → List Char → Option (List Char × List Char)
  | _, [] => none
  | _, '"' :: '"' :: '"' :: '"' :: '"' :: rest => some (['"', '"'], rest)
  | _, '"' :: '"' :: '"' :: '"' :: rest => some (['"'], rest)
  | _, '"' :: '"' :: '"' :: rest => some ([], rest)
  | _, '\\' :: 'u' :: a :: b :: c :: d :: rest => do
      let char ← scalar? [a, b, c, d]
      let (text, rest) ← multilineBasic? false rest
      some (char :: text, rest)
  | _, '\\' :: 'U' :: a :: b :: c :: d :: e :: f :: g :: h :: rest => do
      let char ← scalar? [a, b, c, d, e, f, g, h]
      let (text, rest) ← multilineBasic? false rest
      some (char :: text, rest)
  | trimming, '\n' :: rest =>
      if trimming then multilineBasic? true rest
      else do
        let (text, rest) ← multilineBasic? false rest
        some ('\n' :: text, rest)
  | trimming, '\r' :: '\n' :: rest =>
      if trimming then multilineBasic? true rest
      else do
        let (text, rest) ← multilineBasic? false rest
        some ('\n' :: text, rest)
  | _, '\\' :: rest =>
      if endsLine rest then multilineBasic? true rest
      else
        match rest with
        | [] => none
        | letter :: rest => do
            let char ← escaped? letter
            let (text, rest) ← multilineBasic? false rest
            some (char :: text, rest)
  | trimming, char :: rest =>
      if trimming && isSpace char then multilineBasic? true rest
      else if isPrintable char then do
        let (text, rest) ← multilineBasic? false rest
        some (char :: text, rest)
      else none

def literal? : List Char → Option (List Char × List Char)
  | [] => none
  | '\'' :: rest => some ([], rest)
  | char :: rest =>
      if isPrintable char then do
        let (text, rest) ← literal? rest
        some (char :: text, rest)
      else none

def multilineLiteral? : List Char → Option (List Char × List Char)
  | [] => none
  | '\'' :: '\'' :: '\'' :: '\'' :: '\'' :: rest => some (['\'', '\''], rest)
  | '\'' :: '\'' :: '\'' :: '\'' :: rest => some (['\''], rest)
  | '\'' :: '\'' :: '\'' :: rest => some ([], rest)
  | '\n' :: rest => do
      let (text, rest) ← multilineLiteral? rest
      some ('\n' :: text, rest)
  | '\r' :: '\n' :: rest => do
      let (text, rest) ← multilineLiteral? rest
      some ('\n' :: text, rest)
  | char :: rest =>
      if isPrintable char then do
        let (text, rest) ← multilineLiteral? rest
        some (char :: text, rest)
      else none

/-- A line end right behind the opening quotes does not count. -/
def skipLineEnd : List Char → List Char
  | '\n' :: rest => rest
  | '\r' :: '\n' :: rest => rest
  | text => text

def singleLine? : List Char → Option (List Char × List Char)
  | '"' :: rest => basic? rest
  | '\'' :: rest => literal? rest
  | _ => none

def read? : List Char → Option (List Char × List Char)
  | '"' :: '"' :: '"' :: rest => multilineBasic? false (skipLineEnd rest)
  | '\'' :: '\'' :: '\'' :: rest => multilineLiteral? (skipLineEnd rest)
  | text => singleLine? text

end Consortium.Toml.Literal
