/-!
Blank text: text of white space only, in the sense of the Unicode property `White_Space`.
-/

namespace Consortium.Text

/-- The code points with the property `White_Space`, as closed ranges. -/
def whiteSpaceRanges : List (Nat × Nat) :=
  [(0x09, 0x0d), (0x20, 0x20), (0x85, 0x85), (0xa0, 0xa0), (0x1680, 0x1680), (0x2000, 0x200a),
    (0x2028, 0x2029), (0x202f, 0x202f), (0x205f, 0x205f), (0x3000, 0x3000)]

def isWhiteSpace (char : Char) : Bool :=
  whiteSpaceRanges.any fun range => range.1 ≤ char.toNat && char.toNat ≤ range.2

/-- The empty text is blank too. -/
def isBlank (text : String) : Bool := text.toList.all isWhiteSpace

end Consortium.Text
