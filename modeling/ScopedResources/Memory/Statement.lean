import ScopedResources.Sql.Keyword
import ScopedResources.Text.Word

/-!
# Statements of the in-process database

The in-process database knows five kinds of statement: it creates, drops and empties tables, by
deletion or by truncation, and it inserts rows. Of an insertion only the number of rows counts: one
more than the places where a closing parenthesis is followed by a comma.
-/

namespace ScopedResources.Memory

open Text Sql

/-- What a statement does to the tables. -/
inductive Statement where
  | createTable (name : String) (unlessPresent : Bool)
  | dropTable (name : String) (ifPresent : Bool)
  | insertRows (name : String) (rows : Nat)
  | clearTable (name : String)
  deriving DecidableEq

namespace Statement

def table : Statement → String
  | createTable name _ | dropTable name _ | insertRows name _ | clearTable name => name

/-- Whether a name may begin with a character: a letter of ASCII, one that folds to such a letter,
or a low line. -/
def startsName (c : Char) : Bool :=
  (foldToAscii c).isAlpha || c = '_'

def continuesName (c : Char) : Bool :=
  isWord c || c = '.'

/-- The name at the start of a text, as it is written. -/
def writtenName? : List Char → Option (List Char)
  | [] => none
  | c :: rest => if startsName c then some (c :: rest.takeWhile continuesName) else none

/-- The name of a table; tables are told apart without regard to the case of ASCII letters. -/
def tableNamed (written : List Char) : String :=
  (String.ofList written).toLower

/-- The name of the table at the start of a text. -/
def name? (s : List Char) : Option String :=
  (writtenName? s).map tableNamed

/-- What follows the word `VALUES`, if it stands as a word of its own behind `before`. -/
def afterValues? (before : Option Char) (s : List Char) : Option (List Char) :=
  (afterKeyword? "values".toList s).filter fun rest =>
    isBoundary before s.head? && isBoundary (s[5]?) rest.head?

/-- What follows the first word `VALUES` that no semicolon precedes. -/
def findValues? (before : Option Char) : List Char → Option (List Char)
  | [] => none
  | c :: rest =>
    match afterValues? before (c :: rest) with
    | some after => some after
    | none => if c = ';' then none else findValues? (some c) rest

/-- The last word `VALUES` that begins within the next `count` characters: how many of them precede
it, and what follows it. -/
def lastValues? (before : Option Char) : Nat → List Char → Option (Nat × List Char)
  | 0, _ | _, [] => none
  | count + 1, c :: rest =>
    match lastValues? (some c) count rest with
    | some (skipped, after) => some (skipped + 1, after)
    | none => (afterValues? before (c :: rest)).map fun after => (0, after)

/-- The number of rows behind the word `VALUES`. -/
def countRows : List Char → Nat
  | ')' :: ',' :: rest => countRows rest + 1
  | _ :: rest => countRows rest
  | [] => 1

/-- Table and number of rows behind `INSERT INTO`. Where the word `VALUES` does not follow the name,
it is the last such word behind a dot of the name itself. -/
def insertion? (s : List Char) : Option Statement := do
  let written ← writtenName? s
  match findValues? written.getLast? (s.drop written.length) with
  | some rows => return insertRows (tableNamed written) (countRows rows)
  | none =>
    let (skipped, rows) ← lastValues? written.head? (written.length - 1) (s.drop 1)
    return insertRows (tableNamed (written.take (skipped + 1))) (countRows rows)

/-- The statement that a text is. -/
def parse? (text : String) : Option Statement :=
  let s := text.toList.dropWhile isBlank
  let behind (keywords : List String) (read? : List Char → Option Statement) :=
    (afterKeywords? keywords s).bind read?
  (behind ["create", "table"] fun s =>
      (nameBehind? ["if", "not", "exists"] name? s).map fun (name, flag) => createTable name flag)
    <|> (behind ["drop", "table"] fun s =>
      (nameBehind? ["if", "exists"] name? s).map fun (name, flag) => dropTable name flag)
    <|> behind ["insert", "into"] insertion?
    <|> (behind ["delete", "from"] fun s => (name? s).map clearTable)
    <|> (behind ["truncate"] fun s => (nameBehind? ["table"] name? s).map fun (name, _) =>
      clearTable name)

end Statement

end ScopedResources.Memory
