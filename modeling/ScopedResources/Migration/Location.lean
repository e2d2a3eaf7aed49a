import ScopedResources.Files.Walk
import ScopedResources.Migration.Failure

/-!
# Files at locations

A location is a file or a directory, absolute or below the migration root. The files of an engine
are those at its locations with one of its extensions, sorted by name within each location. -/

namespace ScopedResources.Migration

open Files

/-- What stands before the last dot of a file's name; the whole name where there is no dot. -/
def stem (file : Found) : String :=
  match Text.splitAtLast? '.' file.name.toList with
  | some (before, _) => String.ofList before
  | none => file.name

def extension? (file : Found) : Option String :=
  (Text.splitAtLast? '.' file.name.toList).map fun (_, after) => String.ofList after

/-- Whether a file has one of some extensions, in any case of their ASCII letters. -/
def hasExtension (extensions : List String) (file : Found) : Bool :=
  (extension? file).any fun e => extensions.any (Text.sameIgnoringAsciiCase · e)

/-- The files with one of some extensions, in the order of their names. -/
def select (extensions : List String) (files : List Found) : List Found :=
  (files.filter (hasExtension extensions)).mergeSort fun a b => a.name ≤ b.name

/-- The files at one location. -/
def collectAt (tree : Tree) (root : String) (extensions : List String) (location : String) :
    Except Failure (List Found) :=
  let path := Path.join root location
  if tree.exists? path then .ok (select extensions (tree.filesAt path))
  else .error ⟨path, .locationMissing⟩

/-- The files at some locations, location by location. Every location has to exist. -/
def collect (tree : Tree) (root : String) (extensions : List String) (locations : List String) :
    Except Failure (List Found) :=
  (locations.mapM (collectAt tree root extensions)).map List.flatten

def textAt (tree : Tree) (path : String) : Except Failure String :=
  (tree.read path).mapError fun fault => ⟨path, .unreadable fault⟩

end ScopedResources.Migration
