/-!
# Places in a YAML text

A cursor is a place in a text: what is still to be read, how many characters precede it, and its
line and column. Five characters end a line, and a carriage return and a line feed end it together.
-/

namespace ScopedResources.Yaml

def isBreak (c : Char) : Bool :=
  c = '\r' || c = '\n' || c.toNat = 0x85 || c.toNat = 0x2028 || c.toNat = 0x2029

def isGap (c : Char) : Bool :=
  c = ' ' || c = '\t'

/-- Whether a character may stand in a name: a letter or digit of ASCII, a hyphen or a low line. -/
def isNameChar (c : Char) : Bool :=
  c.isAlphanum || c = '-' || c = '_'

/-- Whether a character may stand in a text at all. -/
def isAllowed (c : Char) : Bool :=
  let n := c.toNat
  n = 0x09 || n = 0x0A || n = 0x0D || (0x20 ≤ n && n ≤ 0x7E) || n = 0x85 ||
    (0xA0 ≤ n && n ≤ 0xD7FF) || (0xE000 ≤ n && n ≤ 0xFFFD) || 0x10000 ≤ n

/-- The character that may mark the beginning of a text or of a line. -/
def byteOrderMark : Char := Char.ofNat 0xFEFF

/-- A place in a text. -/
structure Cursor where
  rest : List Char
  index : Nat := 0
  line : Nat := 0
  column : Nat := 0

namespace Cursor

/-- The character `n` characters ahead. -/
def peek? (c : Cursor) (n : Nat := 0) : Option Char :=
  c.rest[n]?

/-- Whether a given character is `n` characters ahead. -/
def sees (c : Cursor) (char : Char) (n : Nat := 0) : Bool :=
  c.peek? n = some char

def atEnd (c : Cursor) : Bool :=
  c.rest.isEmpty

def atBreak (c : Cursor) : Bool :=
  c.peek?.any isBreak

def atGap (c : Cursor) : Bool :=
  c.peek?.any isGap

/-- Whether a space, a tab, the end of a line or the end of the text is `n` characters ahead. -/
def atBlank (c : Cursor) (n : Nat := 0) : Bool :=
  (c.peek? n).all fun char => isGap char || isBreak char

/-- The cursor after `n` characters, none of which ends a line. -/
def skip (c : Cursor) (n : Nat := 1) : Cursor :=
  { c with rest := c.rest.drop n, index := c.index + n, column := c.column + n }

/-- The characters from here on that satisfy `p`, and the cursor after them. -/
def takeRun (c : Cursor) (p : Char → Bool) : List Char × Cursor :=
  let run := c.rest.takeWhile p
  (run, c.skip run.length)

def skipGaps (c : Cursor) : Cursor :=
  (c.takeRun isGap).2

/-- The cursor at the end of the line, if a comment stands here. -/
def skipComment (c : Cursor) : Cursor :=
  if c.sees '#' then (c.takeRun fun char => !isBreak char).2 else c

/-- The end of the line that stands here, as it is kept in a scalar, and the cursor after it. -/
def takeBreak (c : Cursor) : List Char × Cursor :=
  match c.rest with
  | '\r' :: '\n' :: rest => (['\n'], ⟨rest, c.index + 2, c.line + 1, 0⟩)
  | char :: rest =>
    if isBreak char then
      (if 0x2028 ≤ char.toNat then [char] else ['\n'], ⟨rest, c.index + 1, c.line + 1, 0⟩)
    else ([], c)
  | [] => ([], c)

/-- Whether the marks stand here that begin or end a document. -/
def atDocumentMark (c : Cursor) : Bool :=
  c.column = 0 && (c.rest.take 3 = ['-', '-', '-'] || c.rest.take 3 = ['.', '.', '.']) &&
    c.atBlank 3

/-- The cursor after blanks, a comment and the end of the line; nothing else may stand there. -/
def endLine? (c : Cursor) : Option Cursor :=
  let c := c.skipGaps.skipComment
  if c.atBreak then some c.takeBreak.2 else if c.atEnd then some c else none

end Cursor

end ScopedResources.Yaml
