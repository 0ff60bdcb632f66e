import Consortium.Bytes.Basic
import Consortium.Text.Quoted

/-!
Hexadecimal text, two digits a byte. Writing uses lower case, reading takes both cases and names the
first byte of the text that is not a digit.
-/

namespace Consortium.Hex

open Text

inductive ReadError where
  | oddLength
  | invalidDigit (byte : UInt8) (position : Nat)
deriving DecidableEq

def ReadError.message : ReadError → String
  | .oddLength => "Odd number of digits"
  | .invalidDigit byte position =>
      "Invalid character " ++ quotedByte byte ++ " at position " ++ toString position

def encodeChars : List UInt8 → List Char
  | [] => []
  | byte :: rest =>
      hexDigit (byte.toNat / 16) :: hexDigit (byte.toNat % 16) :: encodeChars rest

def encode (bytes : List UInt8) : String := String.ofList (encodeChars bytes)

def digitValue? (byte : UInt8) : Option UInt8 :=
  (hexValue? (Char.ofNat byte.toNat)).map UInt8.ofNat

def decodePairs (position : Nat) : List UInt8 → Except ReadError (List UInt8)
  | [] => .ok []
  | [_] => .error .oddLength
  | high :: low :: rest =>
      match digitValue? high, digitValue? low with
      | none, _ => .error (.invalidDigit high position)
      | some _, none => .error (.invalidDigit low (position + 1))
      | some highValue, some lowValue =>
          match decodePairs (position + 2) rest with
          | .ok bytes => .ok ((highValue * 16 + lowValue) :: bytes)
          | .error failure => .error failure

/-- Reads a text of digits. Its length is checked before any digit. -/
def decode (text : String) : Except ReadError (List UInt8) :=
  let digits := Bytes.ofString text
  if digits.length % 2 = 1 then .error .oddLength else decodePairs 0 digits

end Consortium.Hex
