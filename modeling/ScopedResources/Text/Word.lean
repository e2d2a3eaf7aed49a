import ScopedResources.Text.Range
import ScopedResources.Text.WordRanges

/-!
# Word characters and word boundaries

Letters, marks, decimal digits, connecting punctuation and the two joiners form words. A boundary
lies between a word character and a neighbour that is none.
-/

namespace ScopedResources.Text

/-- Whether a character is a letter, a digit or a low line of ASCII. -/
def isAsciiWord (c : Char) : Bool :=
  c.isAlphanum || c == '_'

def isWord (c : Char) : Bool :=
  isAsciiWord c || (0x80 ≤ c.toNat && inRanges c.toNat wordRanges)

/-- Whether a boundary lies between two neighbours, either of which may be missing. -/
def isBoundary (before after : Option Char) : Bool :=
  before.any isWord != after.any isWord

end ScopedResources.Text
