import ScopedResources.Migration.Changelog
import ScopedResources.Migration.Versioned
import ScopedResources.Warning

/-!
# Running migrations

The plan of a policy is the plan of its engine at its locations, to apply or to drop. Running it
gives the error of the first statement that is rejected, or what stopped the plan. -/

namespace ScopedResources.Migration

open Files

/-- What is done with migrations. -/
inductive Direction where
  | apply
  | drop
  deriving DecidableEq

def plan (direction : Direction) (engine : Engine) (tree : Tree) (root : String)
    (locations : List String) : Plan :=
  match direction, engine with
  | _, .none => {}
  | .apply, .scripts => Scripts.apply tree root locations
  | .drop, .scripts => Scripts.drop tree root locations
  | .apply, .flyway => Flyway.apply tree root locations
  | .drop, .flyway => Flyway.drop tree root locations
  | .apply, .liquibase => Changelog.apply tree root locations
  | .drop, .liquibase => Changelog.drop tree root locations
  | .apply, .cognitor => Cognitor.apply tree root locations
  | .drop, .cognitor => Cognitor.drop tree root locations

/-- What is worth a warning before a plan runs. -/
def warnings (direction : Direction) (engine : Engine) (tree : Tree) (root : String)
    (locations : List String) : List Warning :=
  if direction = .drop && engine = .scripts && Scripts.lacksDrop tree root locations then
    [.nothingToDrop locations]
  else []

def run {m : Type → Type} [Monad m] (send : String → m (Except StatementError Unit))
    (direction : Direction) (engine : Engine) (tree : Tree) (root : String)
    (locations : List String) : m (Except LifecycleError Unit) := do
  let result ← (plan direction engine tree root locations).run send
  return result.mapError (Failure.toError engine)

end ScopedResources.Migration
