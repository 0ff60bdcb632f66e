import Consortium.Text.Digit

/-!
Writing strings in a TOML text. Each string is written in the first style that spells it without an
escape, tabs apart; a string that has none is written with escapes.
-/

namespace Consortium.Toml

open Text

inductive StringStyle where
  | basic
  | literal
  | multilineBasic
  | multilineLiteral
deriving DecidableEq

namespace StringStyle

/-- Control characters other than tabs and line ends can only be written as escapes. -/
def needsEscape (char : Char) : Bool :=
  (char.toNat < 32 && char != '\t' && char != '\n') || char.toNat = 127

def hasTriple (char : Char) : List Char → Bool
  | first :: second :: third :: rest =>
      (first = char && second = char && third = char) || hasTriple char (second :: third :: rest)
  | _ => false

/-- Whether every character stands for itself in this style, tabs apart. -/
def spells (style : StringStyle) (text : List Char) : Bool :=
  !text.any needsEscape &&
    match style with
    | .basic => !text.contains '"' && !text.contains '\\' && !text.contains '\n'
    | .literal => !text.contains '\'' && !text.contains '\n'
    | .multilineBasic => !text.contains '\\' && !hasTriple '"' text
    | .multilineLiteral => !hasTriple '\'' text

def choose (text : List Char) : StringStyle :=
  match [basic, literal, multilineBasic, multilineLiteral].find? fun style => style.spells text with
  | some style => style
  | none => if text.contains '\n' then multilineBasic else basic

def quotes : StringStyle → List Char
  | basic => ['"']
  | literal => ['\'']
  | multilineBasic => ['"', '"', '"']
  | multilineLiteral => ['\'', '\'', '\'']

def isMultiline : StringStyle → Bool
  | basic | literal => false
  | multilineBasic | multilineLiteral => true

def hasEscapes : StringStyle → Bool
  | basic | multilineBasic => true
  | literal | multilineLiteral => false

def escape? (char : Char) : Option (List Char) :=
  if char = '\t' then some ['\\', 't']
  else if char = '\\' then some ['\\', '\\']
  else if char = '\r' then some ['\\', 'r']
  else if char.toNat = 8 then some ['\\', 'b']
  else if char.toNat = 12 then some ['\\', 'f']
  else if needsEscape char then
    some
      ['\\', 'u', '0', '0', upperHexDigit (char.toNat / 16), upperHexDigit (char.toNat % 16)]
  else none

/-- Writes a text with escapes. On one line every quote and line end is escaped; on several lines
only a third quote in a row is, of which `run` counts those before. -/
def writeEscaped (multiline : Bool) : (run : Nat) → List Char → List Char
  | _, [] => []
  | run, char :: rest =>
      if char = '"' then
        if multiline && run < 2 then '"' :: writeEscaped multiline (run + 1) rest
        else '\\' :: '"' :: writeEscaped multiline 0 rest
      else if char = '\n' && !multiline then '\\' :: 'n' :: writeEscaped multiline 0 rest
      else
        match escape? char with
        | some escape => escape ++ writeEscaped multiline 0 rest
        | none => char :: writeEscaped multiline 0 rest

/-- Writes a text in this style. A text of several lines starts on a line of its own. -/
def write (style : StringStyle) (text : List Char) : List Char :=
  let lead := if style.isMultiline && text.contains '\n' then ['\n'] else []
  let body := if style.hasEscapes then writeEscaped style.isMultiline 0 text else text
  style.quotes ++ lead ++ body ++ style.quotes

end StringStyle

def writeString (text : List Char) : List Char := (StringStyle.choose text).write text

end Consortium.Toml
