import ScopedResources.Text.Blank

/-!
# Scripts and their statements

A script is cut into statements at its semicolons. A semicolon inside a comment, a quoted literal or
a body between double dollar signs does not count. Comments are left out: a block comment leaves a
blank behind, and a line comment the end of its line. Literals and bodies stay as they are.

The cut works in two steps. `scan` turns the characters into symbols, each of which is a character
of a statement or a separator; `statements` collects the characters between separators. -/

namespace ScopedResources.Sql

/-- What the reader of a script is inside of. -/
inductive Mode where
  | text
  | lineComment
  | blockComment
  | literal (quote : Char)
  | dollarBody
  deriving DecidableEq

/-- What a script consists of once its comments are gone. -/
inductive Symbol where
  | char (c : Char)
  | separator
  deriving DecidableEq

/-- The symbols of a script. A quote inside a literal is written twice. -/
def scan : Mode → List Char → List Symbol
  | _, [] => []
  | .text, '-' :: '-' :: rest => scan .lineComment rest
  | .text, '/' :: '*' :: rest => .char ' ' :: scan .blockComment rest
  | .text, '$' :: '$' :: rest => .char '$' :: .char '$' :: scan .dollarBody rest
  | .text, c :: rest =>
    if c = ';' then .separator :: scan .text rest
    else if c = '\'' || c = '"' then .char c :: scan (.literal c) rest
    else .char c :: scan .text rest
  | .lineComment, c :: rest =>
    if c = '\n' then .char c :: scan .text rest else scan .lineComment rest
  | .blockComment, '*' :: '/' :: rest => scan .text rest
  | .blockComment, _ :: rest => scan .blockComment rest
  | .literal quote, c :: d :: rest =>
    if c = quote && d = quote then .char c :: .char d :: scan (.literal quote) rest
    else if c = quote then .char c :: scan .text (d :: rest)
    else .char c :: scan (.literal quote) (d :: rest)
  | .literal _, [c] => [.char c]
  | .dollarBody, '$' :: '$' :: rest => .char '$' :: .char '$' :: scan .text rest
  | .dollarBody, c :: rest => .char c :: scan .dollarBody rest

def segments : List Symbol → List (List Char)
  | [] => [[]]
  | .separator :: rest => [] :: segments rest
  | .char c :: rest =>
    match segments rest with
    | [] => [[c]]
    | first :: others => (c :: first) :: others

/-- The statements among segments: trimmed, and without those that are blank. -/
def trimmedSegments (parts : List (List Char)) : List String :=
  ((parts.map Text.trim).filter fun part => !part.isEmpty).map String.ofList

def statements (script : String) : List String :=
  trimmedSegments (segments (scan .text script.toList))

end ScopedResources.Sql
