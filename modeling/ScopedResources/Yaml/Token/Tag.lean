import ScopedResources.Url.Percent
import ScopedResources.Yaml.Cursor
import ScopedResources.Yaml.Token

/-!
# Tags, anchors and directives of YAML

A tag is a handle and a suffix, or a whole identifier between angle brackets. A directive gives the
version of a document or what a handle stands for.
-/

namespace ScopedResources.Yaml

/-- Whether a character may stand in a tag as it is; a comma and square brackets only between angle
brackets. -/
def isTagChar (isWhole : Bool) (c : Char) : Bool :=
  isNameChar c ||
    [';', '/', '?', ':', '@', '&', '=', '+', '$', '.', '!', '~', '*', '\'', '(', ')'].contains c ||
    (isWhole && [',', '[', ']'].contains c)

/-- One byte written as a percent sign and two digits. -/
def percentByte? : List Char → Option UInt8
  | '%' :: a :: b :: _ => do
    let high ← Url.hexDigit? a
    let low ← Url.hexDigit? b
    return (high * 16 + low).toUInt8
  | _ => none

/-- The number of bytes of a character that begins with a byte. -/
def widthOfByte? (b : UInt8) : Option Nat :=
  if b < 0x80 then some 1
  else if b &&& 0xE0 = 0xC0 then some 2
  else if b &&& 0xF0 = 0xE0 then some 3
  else if b &&& 0xF8 = 0xF0 then some 4
  else none

/-- The character that a row of percent signs stands for, and how many characters the row takes. -/
def percentChar? (s : List Char) : Option (List Char × Nat) := do
  let first ← percentByte? s
  let width ← widthOfByte? first
  let bytes ← (List.range width).mapM fun i => percentByte? (s.drop (3 * i))
  if (bytes.drop 1).all fun b => b &&& 0xC0 = 0x80 then
    let text ← String.fromUTF8? ⟨bytes.toArray⟩
    return (text.toList, 3 * width)
  else none

/-- Reads the characters of a tag: their text, and the cursor behind them. -/
def tagText? (isWhole : Bool) : Nat → List Char → Cursor → Option (List Char × Cursor)
  | 0, _, _ => none
  | fuel + 1, text, c =>
    if c.sees '%' then do
      let (chars, length) ← percentChar? c.rest
      tagText? isWhole fuel (text ++ chars) (c.skip length)
    else
      match c.peek? with
      | some char =>
        if isTagChar isWhole char then tagText? isWhole fuel (text ++ [char]) c.skip
        else some (text, c)
      | none => some (text, c)

/-- Reads characters of a tag behind `head`; together they may not be empty. -/
def scanTagText? (isWhole : Bool) (head : List Char) (c : Cursor) :
    Option (List Char × Cursor) := do
  let (text, next) ← tagText? isWhole (c.rest.length + 1) [] c
  if head.isEmpty && next.index = c.index then none else return (head.drop 1 ++ text, next)

/-- Reads a handle: an exclamation mark, a name, and mostly a second mark. -/
def scanHandle? (c : Cursor) : Option (List Char × Cursor) :=
  if c.sees '!' then
    let (name, c) := c.skip.takeRun isNameChar
    if c.sees '!' then some ('!' :: name ++ ['!'], c.skip) else some ('!' :: name, c)
  else none

def scanTag? (inFlow : Bool) (c : Cursor) : Option (Token × Cursor) := do
  let (handle, suffix, c) ←
    if c.sees '<' 1 then do
      let (suffix, c) ← scanTagText? true [] (c.skip 2)
      if c.sees '>' then pure ([], suffix, c.skip) else none
    else do
      let (handle, c) ← scanHandle? c
      if 1 < handle.length && handle.getLast? = some '!' then
        let (suffix, c) ← scanTagText? false [] c
        pure (handle, suffix, c)
      else
        let (suffix, c) ← scanTagText? false handle c
        pure (if suffix.isEmpty then ([], ['!'], c) else (['!'], suffix, c))
  if (inFlow && c.sees ',') || c.atBlank then
    return (.tag (String.ofList handle) (String.ofList suffix), c)
  else none

/-- Reads the name of an anchor or an alias from behind its mark. -/
def scanAnchorName? (c : Cursor) : Option (String × Cursor) :=
  let (name, next) := (c.skip).takeRun isNameChar
  if name.isEmpty then none
  else if next.atBlank || next.peek?.any ['?', ':', ',', ']', '\x7d', '%', '@', '`'].contains then
    some (String.ofList name, next)
  else none

/-- Reads a number of at most nine digits. -/
def scanVersionNumber? (c : Cursor) : Option (Nat × Cursor) :=
  let (digits, next) := c.takeRun Char.isDigit
  if digits.isEmpty || 9 < digits.length then none
  else some (digits.foldl (fun n d => n * 10 + (d.toNat - 48)) 0, next)

def scanDirective? (c : Cursor) : Option (Token × Cursor) := do
  let (name, c) := c.skip.takeRun isNameChar
  if name.isEmpty || !c.atBlank then none
  let c := c.skipGaps
  let (token, c) ←
    if name = ['Y', 'A', 'M', 'L'] then do
      let (major, c) ← scanVersionNumber? c
      if !c.sees '.' then none
      let (minor, c) ← scanVersionNumber? c.skip
      pure (Token.versionDirective major minor, c)
    else if name = ['T', 'A', 'G'] then do
      let (handle, c) ← scanHandle? c
      if handle ≠ ['!'] && handle.getLast? ≠ some '!' then none
      if !c.atGap then none
      let (start, c) ← scanTagText? true [] c.skipGaps
      if !c.atBlank then none
      pure (Token.tagDirective (String.ofList handle) (String.ofList start), c)
    else none
  let c ← c.endLine?
  return (token, c)

end ScopedResources.Yaml
