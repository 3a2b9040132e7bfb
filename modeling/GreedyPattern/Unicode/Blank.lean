import GreedyPattern.Unicode.RangeSet

/-!
# White space

The property White_Space of Unicode 17.0: the ASCII controls that separate
words or lines, the spaces of every width and the two separators.
-/

namespace GreedyPattern.Unicode

/-- The ranges of the property, ascending and disjoint. -/
def blankRanges : List (Nat × Nat) :=
  [(0x9, 0xD), (0x20, 0x20), (0x85, 0x85), (0xA0, 0xA0), (0x1680, 0x1680), (0x2000, 0x200A),
   (0x2028, 0x2029), (0x202F, 0x202F), (0x205F, 0x205F), (0x3000, 0x3000)]

def blankSet : RangeSet := .ofSorted blankRanges

/-- White space, line breaks included. -/
def isBlank (c : Char) : Bool := blankSet.contains c.toNat

end GreedyPattern.Unicode
