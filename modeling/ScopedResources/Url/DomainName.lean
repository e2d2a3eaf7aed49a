import ScopedResources.Text.Letter
import ScopedResources.Text.Parts
import ScopedResources.Url.DomainName.ExcludedRanges
import ScopedResources.Url.DomainName.Label
import ScopedResources.Url.DomainName.MappedForms
import ScopedResources.Url.Percent
import ScopedResources.Url.Punycode

/-!
# Domain names

A domain name in a URL is written in small letters, without controls, blanks and the characters that
have a meaning of their own in a URL. Characters beyond ASCII are brought to one form; a label that
still has some of them then is encoded, behind a mark, in ASCII. A label that is encoded already
must be the encoding of a label in that one form. -/

namespace ScopedResources.Url.DomainName

open Text

/-- Whether an ASCII character may not stand in a domain name. -/
def isForbidden (c : Char) : Bool :=
  c.toNat ≤ 0x20 || c.toNat = 0x7F ||
    ['%', '#', '/', ':', '<', '>', '?', '@', '[', '\\', ']', '^', '|'].contains c

/-- The number that hexadecimal digits stand for. -/
def numberOf (digits : List Char) : Nat :=
  digits.foldl (fun n c => n * 16 + (hexDigit? c).getD 0) 0

/-- A row of forms: the number of the first character, and the forms from that one on. -/
def formRow (row : String) : Nat × List (List Char) :=
  let words := parts (· = ' ') row.toList
  ((words.head?.map numberOf).getD 0,
    words.tail.map fun word => (parts (· = ',') word).map fun digits =>
      Char.ofNat (numberOf digits))

/-- The forms of characters beyond small letters for capital ones. -/
def forms : List (Nat × List (List Char)) :=
  mappedForms.map formRow

/-- The form of a character from a row that holds it. -/
def form? (n : Nat) : Option (List Char) :=
  forms.findSome? fun (first, row) => if first ≤ n then row[n - first]? else none

/-- Whether a capital letter stays as it is: in Cherokee the capital letters are the older ones. -/
def staysCapital (c : Char) : Bool :=
  0x13A0 ≤ c.toNat && c.toNat ≤ 0x13F5

/-- The form of a character in a domain name; none if it may not stand there. -/
def formOf (c : Char) : Option (List Char) :=
  if c.toNat < 0x80 then if isForbidden c then none else some [c.toLower]
  else match form? c.toNat with
    | some form => some form
    | none =>
      let small := if staysCapital c then [c] else lowerChar c
      if small ≠ [c] then some small
      else if inRanges c.toNat ignoredRanges then some []
      else if inRanges c.toNat excludedRanges then none
      else some [c]

def isAscii (s : List Char) : Bool :=
  s.all fun c => c.toNat < 0x80

/-- What follows the mark of an encoded label. -/
def encoded? : List Char → Option (List Char)
  | 'x' :: 'n' :: '-' :: '-' :: rest => some rest
  | _ => none

/-- Whether a label is in the one form of its characters, and puts its marks and joiners where they
may stand. -/
def isProper (label : List Char) : Bool :=
  label.all (fun c => formOf c = some [c]) && composed label = label &&
    !(label.head?.any isMark) && joinersFit [] label

/-- The label that a label of a name stands for. -/
def decoded? (label : List Char) : Option (List Char) :=
  match encoded? label with
  | none => if isProper label then some label else none
  | some body => (Punycode.decode? body).filter fun plain =>
      !isAscii plain && isProper plain && (encoded? plain).isNone && !plain.contains '.'

/-- The encoding of a label, which stands for itself if it is in ASCII. -/
def encodedLabel (label : List Char) : List Char :=
  if isAscii label then label else ['x', 'n', '-', '-'] ++ Punycode.encode label

/-- The ASCII form of a name that is not simply in ASCII. -/
def encodeName? (name : List Char) : Option (List Char) := do
  let form ← name.mapM formOf
  let labels ← (parts (· = '.') (composed form.flatten)).mapM decoded?
  if labels.any isBidirectional && !labels.all keepsDirection then none
  return List.intercalate ['.'] (labels.map encodedLabel)

/-- The ASCII form of a name that is given as bytes of UTF-8. -/
def toAscii? (bytes : List UInt8) : Option (List Char) := do
  let name ← String.fromUTF8? ⟨bytes.toArray⟩
  let small := name.toList.map Char.toLower
  if isAscii small && (parts (· = '.') small).all fun label => (encoded? label).isNone then
    if small.any isForbidden then none else some small
  else encodeName? name.toList

end ScopedResources.Url.DomainName
