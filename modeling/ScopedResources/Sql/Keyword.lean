import ScopedResources.Text.Blank
import ScopedResources.Text.Letter

/-!
# Keywords at the start of a text

Statements are recognised by the keywords they begin with, in any case of their letters and with any
blank characters between them.
-/

namespace ScopedResources.Sql

open Text

/-- What follows a keyword, which is given in small letters. -/
def afterKeyword? : List Char → List Char → Option (List Char)
  | [], rest => some rest
  | k :: keyword, c :: rest => if foldToAscii c = k then afterKeyword? keyword rest else none
  | _ :: _, [] => none

def afterBlanks? : List Char → Option (List Char)
  | c :: rest => if isBlank c then some (rest.dropWhile isBlank) else none
  | [] => none

/-- What follows some keywords, each with blank characters behind it. -/
def afterKeywords? : List String → List Char → Option (List Char)
  | [], s => some s
  | keyword :: keywords, s =>
    ((afterKeyword? keyword.toList s).bind afterBlanks?).bind (afterKeywords? keywords)

/-- Reads a name by `name?` behind keywords that may be left out, and tells whether they stand
there. Where no name follows the keywords, the first of them is read as the name. -/
def nameBehind? {α : Type} (optional : List String) (name? : List Char → Option α) (s : List Char) :
    Option (α × Bool) :=
  match (afterKeywords? optional s).bind name? with
  | some name => some (name, true)
  | none => (name? s).map fun name => (name, false)

end ScopedResources.Sql
