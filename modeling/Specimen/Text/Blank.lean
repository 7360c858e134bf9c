import Specimen.Text.CharRange

/-!
# Blanks

White space is the Unicode property `White_Space`. Between tokens the two direction marks count as
blank too.
-/

namespace Specimen.Text

def whiteSpace : List (Nat × Nat) :=
  [(0x09, 0x0D), (0x20, 0x20), (0x85, 0x85), (0xA0, 0xA0), (0x1680, 0x1680), (0x2000, 0x200A),
   (0x2028, 0x2029), (0x202F, 0x202F), (0x205F, 0x205F), (0x3000, 0x3000)]

def isWhite (c : Char) : Bool := inRanges whiteSpace c.toNat

/-- Whether `c` is blank between tokens. -/
def isBlank (c : Char) : Bool := isWhite c || c = '\u200e' || c = '\u200f'

end Specimen.Text
