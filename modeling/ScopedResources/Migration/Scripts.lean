import ScopedResources.Migration.Location
import ScopedResources.Migration.Plan
import ScopedResources.Sql.Script

/-!
# Plain scripts

All scripts at the locations are applied in order, except those whose name begins with `drop`; these
are what is run to drop. Where there is none, nothing is dropped.
-/

namespace ScopedResources.Migration

open Files

def runFile (tree : Tree) (file : Found) : Plan :=
  .ofExcept ((textAt tree file.path).map fun script =>
    .ofStatements file.path (Sql.statements script))

def runFiles (tree : Tree) (files : List Found) : Plan :=
  .concat (files.map (runFile tree))

namespace Scripts

def extensions : List String := ["sql", "cql"]

def isDrop (file : Found) : Bool :=
  (stem file).toLower.startsWith "drop"

def apply (tree : Tree) (root : String) (locations : List String) : Plan :=
  .ofExcept ((collect tree root extensions locations).map fun files =>
    runFiles tree (files.filter fun file => !isDrop file))

def drop (tree : Tree) (root : String) (locations : List String) : Plan :=
  .ofExcept ((collect tree root extensions locations).map fun files =>
    runFiles tree (files.filter isDrop))

/-- Whether there are locations, but nothing to drop at them. -/
def lacksDrop (tree : Tree) (root : String) (locations : List String) : Bool :=
  match collect tree root extensions locations with
  | .ok files => !files.any isDrop
  | .error _ => false

end Scripts

end ScopedResources.Migration
