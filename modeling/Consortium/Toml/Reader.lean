import Consortium.Toml.Literal
import Consortium.Toml.Moment
import Consortium.Toml.Number
import Consortium.Toml.Table

/-!
Reading TOML text: keys, values, and lines that hold an entry or a header.
-/

namespace Consortium.Toml.Reader

open Literal (isSpace isPrintable)

/-- How deep arrays and tables in braces may be nested, and how long keys may be. -/
def nestingLimit : Nat := 80

def skipSpaces (text : List Char) : List Char := text.dropWhile isSpace

/-- Skips blanks, line ends and comments, which may not hold control characters. -/
def skipLayout? : (inComment : Bool) → List Char → Option (List Char)
  | _, '\n' :: rest => skipLayout? false rest
  | _, '\r' :: '\n' :: rest => skipLayout? false rest
  | true, [] => none
  | true, char :: rest => if isPrintable char then skipLayout? true rest else none
  | false, '#' :: rest => skipLayout? true rest
  | false, char :: rest => if isSpace char then skipLayout? false rest else some (char :: rest)
  | false, [] => some []

def endOfLine? : List Char → Option (List Char)
  | [] => some []
  | '\n' :: rest => some rest
  | '\r' :: '\n' :: rest => some rest
  | _ => none

def finishLine? (text : List Char) : Option (List Char) :=
  match skipSpaces text with
  | '#' :: rest => endOfLine? (rest.dropWhile isPrintable)
  | rest => endOfLine? rest

/-! ### Keys -/

def isBareKeyChar (char : Char) : Bool :=
  ('a' ≤ char && char ≤ 'z') || ('A' ≤ char && char ≤ 'Z') || Text.isDigit char ||
    char = '_' || char = '-'

def name? (text : List Char) : Option (String × List Char) :=
  match Literal.singleLine? text with
  | some (name, rest) => some (String.ofList name, rest)
  | none =>
      match text.takeWhile isBareKeyChar with
      | [] => none
      | name => some (String.ofList name, text.dropWhile isBareKeyChar)

/-- Names with points between them. The length of the text bounds their number. -/
def names? : (bound : Nat) → List Char → Option (List String × List Char)
  | 0, _ => none
  | bound + 1, text => do
      let (name, rest) ← name? (skipSpaces text)
      match skipSpaces rest with
      | '.' :: rest =>
          let (names, rest) ← names? bound rest
          some (name :: names, rest)
      | rest => some ([name], rest)

def key? (text : List Char) : Option ((List String × String) × List Char) := do
  let (names, rest) ← names? (text.length + 1) text
  let name ← names.getLast?
  if nestingLimit ≤ names.length then none else some ((names.dropLast, name), rest)

/-! ### Values

A pair of brackets takes two nested calls and an item one, and each of them has as many characters
of its own, so the length of the text bounds the depth of the calls. -/

def scalar? (text : List Char) : Option (Node × List Char) :=
  match text with
  | 't' :: 'r' :: 'u' :: 'e' :: rest => some (.boolean true, rest)
  | 'f' :: 'a' :: 'l' :: 's' :: 'e' :: rest => some (.boolean false, rest)
  | _ =>
      match Literal.read? text with
      | some (string, rest) => some (.string (String.ofList string), rest)
      | none =>
          match Moment.read? text, Number.float? text, Number.integer? text with
          | some rest, _, _ => some (.moment, rest)
          | none, some rest, _ => some (.float, rest)
          | none, none, some (value, rest) => some (.integer value, rest)
          | none, none, none => none

mutual

def value? : (depth nesting : Nat) → List Char → Option (Node × List Char)
  | 0, _, _ => none
  | depth + 1, nesting, text =>
      match text with
      | '[' :: rest =>
          if nesting = 0 then none
          else do
            match ← skipLayout? false rest with
            | ']' :: rest => some (.array [], rest)
            | rest =>
                let (items, rest) ← items? depth (nesting - 1) rest
                some (.array items, rest)
      | '\x7b' :: rest =>
          if nesting = 0 then none
          else
            match skipSpaces rest with
            | '\x7d' :: rest => (Table.close? []).map fun table => (table, rest)
            | rest => do
                let (entries, rest) ← entries? depth (nesting - 1) rest
                let table ← Table.close? entries
                some (table, rest)
      | _ => scalar? text

def items? : (depth nesting : Nat) → List Char → Option (List Node × List Char)
  | 0, _, _ => none
  | depth + 1, nesting, text => do
      let (item, rest) ← value? depth nesting text
      match ← skipLayout? false rest with
      | ']' :: rest => some ([item], rest)
      | ',' :: rest =>
          match ← skipLayout? false rest with
          | ']' :: rest => some ([item], rest)
          | rest =>
              let (others, rest) ← items? depth nesting rest
              some (item :: others, rest)
      | _ => none

def entries? : (depth nesting : Nat) → List Char →
    Option (List (List String × String × Node) × List Char)
  | 0, _, _ => none
  | depth + 1, nesting, text => do
      let ((path, name), rest) ← key? text
      match rest with
      | '=' :: rest =>
          let (value, rest) ← value? depth nesting (skipSpaces rest)
          match skipSpaces rest with
          | '\x7d' :: rest => some ([(path, name, value)], rest)
          | ',' :: rest =>
              let (others, rest) ← entries? depth nesting rest
              some ((path, name, value) :: others, rest)
          | _ => none
      | _ => none

end

/-! ### Lines -/

inductive Line where
  | entry (path : List String) (name : String) (value : Node)
  | header (isRepeated : Bool) (path : List String) (name : String)

def repeatedHeader? (text : List Char) : Option (Line × List Char) := do
  let ((path, name), rest) ← key? text
  match rest with
  | ']' :: ']' :: rest => some (.header true path name, rest)
  | _ => none

def header? (text : List Char) : Option (Line × List Char) := do
  let ((path, name), rest) ← key? text
  match rest with
  | ']' :: rest => some (.header false path name, rest)
  | _ => none

def entry? (text : List Char) : Option (Line × List Char) := do
  let ((path, name), rest) ← key? text
  match rest with
  | '=' :: rest =>
      let (value, rest) ← value? (rest.length + 1) (nestingLimit - 1) (skipSpaces rest)
      some (.entry path name value, rest)
  | _ => none

def line? : List Char → Option (Line × List Char)
  | '[' :: '[' :: rest => repeatedHeader? rest
  | '[' :: rest => header? rest
  | text => entry? text

/-- The lines that are not empty. The length of the text bounds their number. -/
def lines? : (bound : Nat) → List Char → Option (List Line)
  | 0, _ => none
  | bound + 1, text => do
      match skipSpaces text with
      | [] => some []
      | '#' :: rest => lines? bound (← endOfLine? (rest.dropWhile isPrintable))
      | '\n' :: rest => lines? bound rest
      | '\r' :: '\n' :: rest => lines? bound rest
      | rest =>
          let (line, rest) ← line? rest
          let others ← lines? bound (← finishLine? rest)
          some (line :: others)

/-- Gathers the entries before the first header and the sections from there on. -/
def gather : List Line → List (List String × String × Node) × List Section
  | [] => ([], [])
  | .entry path name value :: rest =>
      let (entries, sections) := gather rest
      ((path, name, value) :: entries, sections)
  | .header isRepeated path name :: rest =>
      let (entries, sections) := gather rest
      ([], ⟨isRepeated, path, name, entries⟩ :: sections)

/-- A mark of the byte order at the start of a text is no part of it. -/
def skipByteOrderMark : List Char → List Char
  | '\ufeff' :: rest => rest
  | text => text

end Consortium.Toml.Reader

namespace Consortium.Toml

def Table.ofText? (text : String) : Option Table := do
  let chars := Reader.skipByteOrderMark text.toList
  let lines ← Reader.lines? (chars.length + 1) chars
  let (entries, sections) := Reader.gather lines
  Table.ofSections? entries sections

end Consortium.Toml
