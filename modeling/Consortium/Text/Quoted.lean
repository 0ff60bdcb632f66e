import Consortium.Text.Digit

/-!
One character in single quotes, as it is shown in messages. The characters come from single bytes,
so the table covers the first 256 code points.
-/

namespace Consortium.Text

/-- Controls, the no-break space and the soft hyphen have no shape of their own. -/
def isVisibleByte (byte : UInt8) : Bool :=
  (32 ≤ byte && byte < 127) || (160 < byte && byte != 173)

def escapedByte (byte : UInt8) : String :=
  if byte = 0 then "\\0"
  else if byte = 9 then "\\t"
  else if byte = 10 then "\\n"
  else if byte = 13 then "\\r"
  else if byte = 39 then "\\'"
  else if byte = 92 then "\\\\"
  else if isVisibleByte byte then String.singleton (Char.ofNat byte.toNat)
  else if byte < 16 then "\\u\x7b" ++ String.singleton (hexDigit byte.toNat) ++ "\x7d"
  else
    "\\u\x7b" ++ String.singleton (hexDigit (byte.toNat / 16)) ++
      String.singleton (hexDigit (byte.toNat % 16)) ++ "\x7d"

/-- The character of code point `byte`, escaped where it could not be read, in single quotes. -/
def quotedByte (byte : UInt8) : String := "'" ++ escapedByte byte ++ "'"

end Consortium.Text
