/-!
Hexadecimal digits as characters.
-/

namespace Consortium.Text

def hexDigit (value : Nat) : Char :=
  if value < 10 then Char.ofNat (48 + value) else Char.ofNat (87 + value)

def upperHexDigit (value : Nat) : Char :=
  if value < 10 then Char.ofNat (48 + value) else Char.ofNat (55 + value)

def isDigit (char : Char) : Bool := '0' ≤ char && char ≤ '9'

def hexValue? (char : Char) : Option Nat :=
  if isDigit char then some (char.toNat - 48)
  else if 'a' ≤ char && char ≤ 'f' then some (char.toNat - 87)
  else if 'A' ≤ char && char ≤ 'F' then some (char.toNat - 55)
  else none

end Consortium.Text
