import ScopedResources.Text.Range
import ScopedResources.Text.LowerRuns
import ScopedResources.Text.CasedRanges
import ScopedResources.Text.CaseIgnorableRanges

/-!
# Lower case and comparison without case

Names of enumerated values and file extensions compare without regard to the case of ASCII letters.
Keywords of statements compare by simple case folding, which adds two characters beyond ASCII: the
long s and the Kelvin sign. The full lower case form of a text follows the Unicode mapping, in which
a capital sigma at the end of a word has a form of its own.
-/

namespace ScopedResources.Text

/-- Whether two texts differ at most in the case of ASCII letters. -/
def sameIgnoringAsciiCase (s t : String) : Bool :=
  s.toLower == t.toLower

/-- The small ASCII letter to which a character folds, and the character itself where there is none.
-/
def foldToAscii (c : Char) : Char :=
  if c.toNat = 0x17F then 's' else if c.toNat = 0x212A then 'k' else c.toLower

namespace LowerRun

/-- The lower case form that a run gives to a code point, if the run holds it. -/
def lowered? (run : LowerRun) (n : Nat) : Option Nat :=
  if run.first ≤ n && n ≤ run.last && (n - run.first) % run.stride == 0 then
    some ((n : Int) + run.shift).toNat
  else none

end LowerRun

/-- The lower case form of one character away from its neighbours. -/
def lowerChar (c : Char) : List Char :=
  if c.toNat < 0x80 then [c.toLower]
  else if c.toNat = 0x130 then ['i', Char.ofNat 0x307]
  else match lowerRuns.findSome? (·.lowered? c.toNat) with
    | some n => [Char.ofNat n]
    | none => [c]

/-- Whether the first character that is not passed over has a case. -/
def meetsCased (s : List Char) : Bool :=
  ((s.dropWhile fun c => inRanges c.toNat caseIgnorableRanges).head?).any
    fun c => inRanges c.toNat casedRanges

/-- The lower case form of the characters that follow `before`, whose last one comes first. -/
def lowerFrom (before : List Char) : List Char → List Char
  | [] => []
  | c :: rest =>
    let lowered :=
      if c.toNat = 0x3A3 && meetsCased before && !meetsCased rest then [Char.ofNat 0x3C2]
      else lowerChar c
    lowered ++ lowerFrom (c :: before) rest

/-- The full lower case form of a text. -/
def lowerCase (s : String) : String :=
  String.ofList (lowerFrom [] s.toList)

end ScopedResources.Text
