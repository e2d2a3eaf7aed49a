import ScopedResources.Scope
import ScopedResources.ResourceKey
import ScopedResources.Migration.Policy

/-!
# Declarations

A declaration says which image a test class needs, how far the instance is shared, on which network
it stands and how it is migrated. A blank image stands for the default image of the backend.
-/

namespace ScopedResources

/-- Whether a resource joins the shared network, and under which alias. -/
structure NetworkSettings where
  shared : Bool := false
  networkAlias : Option String := none
  deriving DecidableEq, Inhabited

/-- What a test class declares about one backend. -/
structure Declaration where
  image : String := ""
  mode : Scope := .testClass
  network : NetworkSettings := {}
  migration : Migration.Policy := {}
  deriving DecidableEq, Inhabited

namespace Declaration

open Migration

/-- The identity of the declared resource, once its image is resolved. -/
def keyFor (decl : Declaration) (resolvedImage : String) : ResourceKey :=
  { image := resolvedImage
    sharedNetwork := decl.network.shared
    networkAlias := decl.network.networkAlias }

/-- Why the parts of a declaration do not fit together. -/
inductive Conflict where
  | engineWithoutLocation (engine : Engine)
  | boundaryWithoutEngine (apply drop : Boundary)
  | appliedPerClass (apply : Boundary) (mode : Scope)
  | droppedPerClass (drop : Boundary) (mode : Scope)
  | boundariesDiffer (apply drop : Boundary)
  deriving DecidableEq

def Conflict.message : Conflict → String
  | .engineWithoutLocation engine =>
    "migration engine " ++ engine.name ++ " requires at least one location"
  | .boundaryWithoutEngine apply drop =>
    "migration apply=" ++ apply.name ++ " drop=" ++ drop.name ++ " declared without an engine"
  | .appliedPerClass apply mode =>
    "migration apply " ++ apply.name ++ " is not allowed for a " ++ mode.name ++ " scoped resource"
  | .droppedPerClass drop mode =>
    "migration drop " ++ drop.name ++ " is not allowed for a " ++ mode.name ++ " scoped resource"
  | .boundariesDiffer apply drop =>
    "migration drop " ++ drop.name ++ " does not match apply " ++ apply.name

/-- The first conflict of a declaration. An engine needs a location, a boundary needs an engine, a
resource of one method has no boundary per class, and two boundaries must agree. -/
def conflict? (decl : Declaration) : Option Conflict :=
  let p := decl.migration
  if p.isEnabled && p.locations.isEmpty then some (.engineWithoutLocation p.engine)
  else if !p.isEnabled && (p.apply.isSet || p.drop.isSet) then
    some (.boundaryWithoutEngine p.apply p.drop)
  else if decl.mode = .testMethod && p.apply = .perClass then
    some (.appliedPerClass p.apply decl.mode)
  else if decl.mode = .testMethod && p.drop = .perClass then
    some (.droppedPerClass p.drop decl.mode)
  else if p.apply.isSet && p.drop.isSet && p.apply ≠ p.drop then
    some (.boundariesDiffer p.apply p.drop)
  else none

/-- Whether migrations run again before every method on an instance that outlives the method, with
no drop in between: such migrations must be idempotent. -/
def needsIdempotentMigrations (decl : Declaration) : Bool :=
  let p := decl.migration
  p.isEnabled && p.apply = .perMethod && p.drop ≠ .perMethod && decl.mode.outlives .testMethod

end Declaration

end ScopedResources
