import ScopedResources.Sql.Keyword
import ScopedResources.Text.Word

/-!
# Tables that statements create

The name of a created table is the run of word characters, dots and double quotes behind
`CREATE TABLE` or `CREATE TABLE IF NOT EXISTS`.
-/

namespace ScopedResources.Sql

open Text

/-- Whether a character may stand in the name of a created table. -/
def isTableNameChar (c : Char) : Bool :=
  isWord c || c = '.' || c = '"'

/-- The name at the start of a text. -/
def tableName? (s : List Char) : Option String :=
  let name := s.takeWhile isTableNameChar
  if name.isEmpty then none else some (String.ofList name)

def createdTable? (statement : String) : Option String :=
  ((afterKeywords? ["create", "table"] (statement.toList.dropWhile isBlank)).bind
    (nameBehind? ["if", "not", "exists"] tableName?)).map Prod.fst

/-- The names of the tables that statements create, each at the place where it comes first. -/
def createdTables (statements : List String) : List String :=
  (statements.filterMap createdTable?).eraseDups

end ScopedResources.Sql
