import Consortium.Bytes.Hex
import Consortium.Ordered.Basic

/-!
Universally unique identifiers. They are written with hyphens and in lower case; reading accepts
four spellings, each with digits of either case.
-/

namespace Consortium

open Std

structure Uuid where
  bytes : Block 16
deriving DecidableEq

namespace Uuid

instance : Ord Uuid := ⟨compareOn bytes⟩

instance : TransOrd Uuid := inferInstanceAs (TransCmp (compareOn bytes))

instance : LawfulEqOrd Uuid :=
  lawfulEqCmp_compareOn fun equal => by
    rename_i left right
    cases left
    cases right
    cases equal
    rfl

def hyphenate (chars : List Char) : List Char :=
  chars.take 8 ++ '-' :: (chars.drop 8).take 4 ++ '-' :: (chars.drop 12).take 4 ++
    '-' :: (chars.drop 16).take 4 ++ '-' :: chars.drop 20

def toText (uuid : Uuid) : String := String.ofList (hyphenate (Hex.encodeChars uuid.bytes.toList))

def ofPlain? (chars : List Char) : Option Uuid :=
  match Hex.decode (String.ofList chars) with
  | .ok bytes => (Block.ofList? bytes).map Uuid.mk
  | .error _ => none

def ofHyphenated? (chars : List Char) : Option Uuid :=
  if chars.length = 36 ∧ chars[8]? = some '-' ∧ chars[13]? = some '-' ∧
      chars[18]? = some '-' ∧ chars[23]? = some '-' then
    ofPlain? (chars.take 8 ++ (chars.drop 9).take 4 ++ (chars.drop 14).take 4 ++
      (chars.drop 19).take 4 ++ chars.drop 24)
  else none

def urnHead : List Char := ['u', 'r', 'n', ':', 'u', 'u', 'i', 'd', ':']

def ofBraced? : List Char → Option Uuid
  | '\x7b' :: rest =>
      if rest.getLast? = some '\x7d' then ofHyphenated? rest.dropLast else none
  | _ => none

/-- The hyphenated form after `urn:uuid:`, whose letters may be of either case. -/
def ofUrn? (chars : List Char) : Option Uuid :=
  if (chars.take urnHead.length).map Char.toLower = urnHead then
    ofHyphenated? (chars.drop urnHead.length)
  else none

def ofChars? (chars : List Char) : Option Uuid :=
  ofPlain? chars <|> ofHyphenated? chars <|> ofBraced? chars <|> ofUrn? chars

def ofText? (text : String) : Option Uuid := ofChars? text.toList

end Uuid

end Consortium
