import ScopedResources.Migration.Scripts
import ScopedResources.Migration.Version
import ScopedResources.Sql.CreatedTables

/-!
# Versioned scripts

Two engines run scripts in the order of the versions in their names. With
`V<version>__<description>` files come `U<version>__<description>` files that undo them, from the
highest version down. Files of the other engine are named `<number>_<name>`. Where there is nothing
to undo with, the tables that the scripts create are dropped, the last one first. Files with other
names are passed over. -/

namespace ScopedResources.Migration

open Files

/-- A script with its version. -/
structure VersionedFile where
  version : Version
  file : Found

/-- How the versions of an engine's files are read from their stems, and what it says of two files
with the same version. -/
structure Naming where
  version? : String → Option Version
  taken : VersionedFile → Cause

namespace Naming

/-- The version in a stem that begins with one of some letters, and has two low lines behind the
version. -/
def markedVersion? (letters : List Char) (stem : String) : Option Version :=
  match stem.toList with
  | [] => none
  | letter :: rest =>
    if letters.contains letter then (beforeDoubleLine? rest).bind Version.read? else none
where
  /-- What stands before the first two low lines in a row. -/
  beforeDoubleLine? : List Char → Option (List Char)
    | '_' :: '_' :: _ => some []
    | c :: rest => (beforeDoubleLine? rest).map (c :: ·)
    | [] => none

/-- Scripts that apply a version. -/
def applied : Naming where
  version? := markedVersion? ['V', 'v']
  taken first := .versionTaken first.file.name

/-- Scripts that undo a version. -/
def undone : Naming where
  version? := markedVersion? ['U', 'u']
  taken first := .versionTaken first.file.name

/-- Scripts with one number. -/
def numbered : Naming where
  version? stem := do
    let (number, _) ← Text.splitAtFirst? '_' stem.toList
    let value ← (Numeral.read Numeral.maxWord number).toOption
    return [value]
  taken first := .numberTaken (first.version.headD 0) first.file.name

/-- The first file that has the same version as the one before it. -/
def clash? (naming : Naming) : List VersionedFile → Option Failure
  | first :: second :: rest =>
    if first.version.same second.version then some ⟨second.file.path, naming.taken first⟩
    else clash? naming (second :: rest)
  | _ => none

/-- The files with a version, in the order of their versions. No two may have the same. -/
def ordered (naming : Naming) (files : List Found) : Except Failure (List VersionedFile) :=
  let versioned := files.filterMap fun file =>
    (naming.version? (stem file)).map fun version => ⟨version, file⟩
  let sorted := versioned.mergeSort fun a b => a.version.le b.version
  match naming.clash? sorted with
  | some failure => .error failure
  | none => .ok sorted

end Naming

/-- The plan that runs the files of a naming in the order of their versions. -/
def applyVersions (tree : Tree) (naming : Naming) (files : List Found) : Plan :=
  .ofExcept ((naming.ordered files).map fun scripts => runFiles tree (scripts.map (·.file)))

/-- The statements that drop tables, the last one first. -/
def dropStatements (tables : List String) : List String :=
  tables.reverse.map ("DROP TABLE IF EXISTS " ++ ·)

/-- The plan that drops what the files of a naming create. All files are read before. -/
def dropCreated (tree : Tree) (naming : Naming) (locations : List String)
    (files : List Found) : Plan :=
  .ofExcept do
    let scripts ← naming.ordered files
    let statements ← scripts.mapM fun script =>
      (textAt tree script.file.path).map Sql.statements
    return .ofStatements (",".intercalate locations)
      (dropStatements (Sql.createdTables statements.flatten))

namespace Flyway

def extensions : List String := ["sql"]

def apply (tree : Tree) (root : String) (locations : List String) : Plan :=
  .ofExcept ((collect tree root extensions locations).map (applyVersions tree .applied))

/-- The plan that drops: scripts that undo, or else the tables themselves. -/
def drop (tree : Tree) (root : String) (locations : List String) : Plan :=
  .ofExcept do
    let files ← collect tree root extensions locations
    let undo ← Naming.undone.ordered files
    return if undo.isEmpty then dropCreated tree .applied locations files
      else runFiles tree (undo.reverse.map (·.file))

end Flyway

namespace Cognitor

def extensions : List String := ["cql"]

def apply (tree : Tree) (root : String) (locations : List String) : Plan :=
  .ofExcept ((collect tree root extensions locations).map (applyVersions tree .numbered))

def drop (tree : Tree) (root : String) (locations : List String) : Plan :=
  .ofExcept ((collect tree root extensions locations).map (dropCreated tree .numbered locations))

end Cognitor

end ScopedResources.Migration
