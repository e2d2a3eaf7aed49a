import ScopedResources.Text.DirectionRanges
import ScopedResources.Text.Composed
import ScopedResources.Text.JoiningRanges
import ScopedResources.Text.MarkRanges
import ScopedResources.Text.Range

/-!
# Labels of domain names

A label of a domain name does not begin with a mark. The two joiners, which show nothing, may stand
in it only where they change the letters around them. Where a name has letters that are written from
right to left, each of its labels keeps to one direction. -/

namespace ScopedResources.Url.DomainName

open Text

def isMark (c : Char) : Bool :=
  inRanges c.toNat markRanges

/-- Whether a character is a mark that takes up no room. -/
def isThinMark (c : Char) : Bool :=
  isMark c && !inRanges c.toNat spacingMarkRanges

/-- Whether a character silences the vowel of the letter before it. -/
def isVirama (c : Char) : Bool :=
  combiningClass c = 9

/-- Whether the nearest character that joining does not pass over joins on the side of a joiner. -/
def joinsNearest (ranges : List (Nat × Nat)) (s : List Char) : Bool :=
  (s.dropWhile isThinMark).head?.any fun c =>
    inRanges c.toNat dualJoiningRanges || inRanges c.toNat ranges

/-- Whether the joiners of a label stand where they may; `before` holds what precedes, last one
first. -/
def joinersFit (before : List Char) : List Char → Bool
  | [] => true
  | c :: rest =>
    let fits :=
      if c.toNat = 0x200D then before.head?.any isVirama
      else if c.toNat = 0x200C then
        before.head?.any isVirama ||
          (joinsNearest leftJoiningRanges before && joinsNearest rightJoiningRanges rest)
      else true
    fits && joinersFit (c :: before) rest

/-- What a character means for the direction of a text. -/
inductive Direction where
  | leftToRight
  | rightToLeft
  | arabicDigit
  | europeanDigit
  | undirected
  | thinMark
  deriving DecidableEq

def direction (c : Char) : Direction :=
  if c.isDigit then .europeanDigit
  else if c.toNat < 0x80 then if c.isAlpha then .leftToRight else .undirected
  else if isThinMark c then .thinMark
  else if inRanges c.toNat rightToLeftRanges then .rightToLeft
  else if inRanges c.toNat arabicDigitRanges then .arabicDigit
  else if inRanges c.toNat europeanDigitRanges then .europeanDigit
  else if inRanges c.toNat undirectedRanges then .undirected
  else .leftToRight

/-- Whether a label has letters or digits of text from right to left. -/
def isBidirectional (label : List Char) : Bool :=
  label.any fun c => direction c = .rightToLeft || direction c = .arabicDigit

/-- Whether a label keeps to the direction of its first character. -/
def keepsDirection (label : List Char) : Bool :=
  let directions := label.map direction
  let last := (directions.reverse.dropWhile (· = .thinMark)).head?
  match directions.head? with
  | none => true
  | some .rightToLeft =>
    directions.all (· ≠ .leftToRight) &&
      [some .rightToLeft, some .europeanDigit, some .arabicDigit].contains last &&
      !(directions.contains .europeanDigit && directions.contains .arabicDigit)
  | some .leftToRight =>
    directions.all (fun d => d ≠ .rightToLeft && d ≠ .arabicDigit) &&
      [some .leftToRight, some .europeanDigit].contains last
  | some _ => false

end ScopedResources.Url.DomainName
