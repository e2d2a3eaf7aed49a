import ScopedResources.Text.CombiningClasses
import ScopedResources.Text.Decompositions

/-!
# The composed form of a text

One and the same letter can be written as one character or as a base with marks, and marks of
different classes in any order. The composed form of a text takes every letter apart, puts its marks
in the order of their classes, and puts back together what can be written as one character. The
syllables of Hangul are put together by their numbers. -/

namespace ScopedResources.Text

/-- The combining class of a character; a character that stands by itself has the class 0. -/
def combiningClass (c : Char) : Nat :=
  ((combiningClasses.find? fun (first, last, _) => first ≤ c.toNat && c.toNat ≤ last).map
    fun (_, _, value) => value).getD 0

namespace Hangul

/-- The first syllable. -/
def syllables : Nat := 0xAC00

/-- The number in front of the first leading consonant, vowel, and trailing consonant. -/
def leading : Nat := 0x1100

/-- The first vowel. -/
def vowels : Nat := 0x1161

/-- The number before the first trailing consonant. -/
def trailing : Nat := 0x11A7

/-- The parts of a syllable: consonant, vowel, and a trailing consonant if there is one. -/
def parts? (n : Nat) : Option (List Nat) :=
  if syllables ≤ n ∧ n < syllables + 19 * 21 * 28 then
    let index := n - syllables
    let front := [leading + index / (21 * 28), vowels + index / 28 % 21]
    some (if index % 28 = 0 then front else front ++ [trailing + index % 28])
  else none

/-- The syllable of a consonant and a vowel, or of such a syllable and a trailing consonant. -/
def join? (a b : Nat) : Option Nat :=
  if leading ≤ a ∧ a < leading + 19 ∧ vowels ≤ b ∧ b < vowels + 21 then
    some (syllables + ((a - leading) * 21 + (b - vowels)) * 28)
  else if syllables ≤ a ∧ a < syllables + 19 * 21 * 28 ∧ (a - syllables) % 28 = 0 ∧
      trailing < b ∧ b < trailing + 28 then some (a + (b - trailing))
  else none

end Hangul

/-- The base and the marks that a character is put together from, by their numbers. -/
def partNumbers (n : Nat) : List Nat :=
  ((Hangul.parts? n) <|> (decompositions.find? fun entry => entry.1 = n).map Prod.snd).getD [n]

def takenApart (c : Char) : List Char :=
  if c.toNat < 0x80 then [c] else (partNumbers c.toNat).map Char.ofNat

/-- Puts a character before others, behind the marks among them that come before it. -/
def insertByClass (c : Char) : List Char → List Char
  | [] => [c]
  | d :: rest =>
    if 0 < combiningClass d ∧ combiningClass d < combiningClass c then d :: insertByClass c rest
    else c :: d :: rest

/-- The one character that a character and a mark behind it can be written as. -/
def joined? (a b : Char) : Option Char :=
  ((Hangul.join? a.toNat b.toNat) <|>
    (decompositions.find? fun entry => entry.2 = partNumbers a.toNat ++ [b.toNat]).map Prod.fst).map
    Char.ofNat

/-- Puts a text together behind a character that stands by itself and the marks behind that one,
which could not be joined to it; the last mark comes first. -/
def putTogether (base : Char) (marks : List Char) : List Char → List Char
  | [] => base :: marks.reverse
  | c :: rest =>
    let isBlocked := marks.head?.any fun mark => combiningClass c ≤ combiningClass mark
    match if isBlocked then none else joined? base c with
    | some whole => putTogether whole marks rest
    | none =>
      if combiningClass c = 0 then base :: marks.reverse ++ putTogether c [] rest
      else putTogether base (c :: marks) rest

/-- The text from its first character that stands by itself on, put together. -/
def composedFrom : List Char → List Char
  | [] => []
  | c :: rest =>
    if combiningClass c = 0 then putTogether c [] rest else c :: composedFrom rest

def composed (s : List Char) : List Char :=
  if s.all fun c => c.toNat < 0x80 then s
  else composedFrom ((s.flatMap takenApart).foldr insertByClass [])

end ScopedResources.Text
