import ScopedResources.Migration.Location
import ScopedResources.Migration.Plan
import ScopedResources.Sql.Script
import ScopedResources.Yaml.Reading

/-!
# Changelogs

A changelog is a list of entries, each of which is a change set or includes another changelog. The
change sets of a changelog, with those of included ones in their place, are applied in order; they
are rolled back in the opposite order. All changelogs are read before the first statement is sent.
Includes nest at most 16 deep, so an include cycle is a fault. -/

namespace ScopedResources.Migration.Changelog

open Files

/-- A change set as it is written. -/
structure ChangeSetText where
  id : String
  author : Option String := none
  sql : Option String := none
  sqlFile : Option String := none
  rollback : Option String := none

/-- An entry as it is written: it should have exactly one of the two. -/
structure Entry where
  changeSet : Option ChangeSetText := none
  includedFile : Option String := none

/-! ## Reading -/

variable (d : Yaml.Document)

def changeSetOf? (node : Yaml.Node) : Option ChangeSetText := do
  let field ← d.source.record? ["id", "author", "sql", "sqlFile", "rollback"] node
  let id ← (field "id").required d.identifier?
  let optionalText := fun name => (field name).orElse (d.source.optional d.source.text?) none
  let author ← optionalText "author"
  let sql ← optionalText "sql"
  let sqlFile ← optionalText "sqlFile"
  let rollback ← optionalText "rollback"
  return { id, author, sql, sqlFile, rollback }

def includedFileOf? (node : Yaml.Node) : Option String := do
  let field ← d.source.record? ["file"] node
  (field "file").required d.source.text?

def entryOf? (node : Yaml.Node) : Option Entry := do
  let field ← d.source.record? ["changeSet", "include"] node
  let changeSet ← (field "changeSet").orElse (d.source.optional (changeSetOf? d)) none
  let includedFile ← (field "include").orElse (d.source.optional (includedFileOf? d)) none
  return { changeSet, includedFile }

def read? (text : String) : Option (List Entry) := do
  let d ← Yaml.document? text
  let field ← d.source.record? ["databaseChangeLog"] d.root
  (field "databaseChangeLog").orElse (d.source.listOf (entryOf? d)) []

/-! ## Loading -/

/-- A change set with its statements. -/
structure ChangeSet where
  origin : String
  statements : List String
  rollback : List String
  deriving DecidableEq

/-- The statements of a text that may be missing. -/
def statementsOf (text : Option String) : List String :=
  (text.map Sql.statements).getD []

/-- Loads a change set of the changelog at `path`: its own statements come before those of its file.
-/
def loadChangeSet (tree : Tree) (path : String) (set : ChangeSetText) :
    Except Failure ChangeSet := do
  let origin := path ++ "#" ++ set.id ++ ":" ++ set.author.getD "unknown"
  let script ← set.sqlFile.mapM fun file => textAt tree (Path.join (Path.parent path) file)
  let statements := statementsOf set.sql ++ statementsOf script
  if statements.isEmpty then throw ⟨origin, .emptyChangeSet⟩
  return { origin, statements, rollback := statementsOf set.rollback }

/-- The most includes that lead from a located changelog to another. -/
def maxDepth : Nat := 16

/-- Loads the changelog at a path, with `levels` levels of changelogs at most. -/
def load (tree : Tree) : (levels : Nat) → (path : String) → Except Failure (List ChangeSet)
  | 0, path => throw ⟨path, .includesTooDeep⟩
  | levels + 1, path => do
    let text ← textAt tree path
    match read? text with
    | none => throw ⟨path, .malformed⟩
    | some entries =>
      let sets ← entries.mapM fun entry =>
        match entry.changeSet, entry.includedFile with
        | none, some file => load tree levels (Path.join (Path.parent path) file)
        | some set, none => (loadChangeSet tree path set).map fun set => [set]
        | _, _ => throw ⟨path, .unclearEntry⟩
      return sets.flatten

def extensions : List String := ["yaml", "yml"]

/-- The change sets of all changelogs at some locations. -/
def changeSets (tree : Tree) (root : String) (locations : List String) :
    Except Failure (List ChangeSet) := do
  let files ← collect tree root extensions locations
  let sets ← files.mapM fun file => load tree (maxDepth + 1) file.path
  return sets.flatten

def apply (tree : Tree) (root : String) (locations : List String) : Plan :=
  .ofExcept ((changeSets tree root locations).map fun sets =>
    .concat (sets.map fun set => .ofStatements set.origin set.statements))

def drop (tree : Tree) (root : String) (locations : List String) : Plan :=
  .ofExcept ((changeSets tree root locations).map fun sets =>
    .concat (sets.reverse.map fun set => .ofStatements set.origin set.rollback))

end ScopedResources.Migration.Changelog
