import ScopedResources.Error
import ScopedResources.Files.Tree
import ScopedResources.Migration.Policy

/-!
# Failures of migrations

A migration fails at a place: a location, a file, a change set, or the joined locations. The cause
says why. -/

namespace ScopedResources.Migration

/-- Why a migration fails. -/
inductive Cause where
  | locationMissing
  | unreadable (fault : Files.Fault)
  /-- Two files have the same version. -/
  | versionTaken (other : String)
  /-- Two files have the same number. -/
  | numberTaken (number : Nat) (other : String)
  | includesTooDeep
  /-- A changelog is no YAML, or its values have the wrong form. -/
  | malformed
  | unclearEntry
  | emptyChangeSet
  | rejected (error : StatementError)
  deriving DecidableEq

/-- The wording of a cause. The wording of a malformed changelog is left to its reader. -/
def Cause.message : Cause → String
  | .locationMissing => "location does not exist"
  | .unreadable fault => fault.message
  | .versionTaken other => "duplicate version also used by " ++ other
  | .numberTaken number other =>
      "duplicate version " ++ toString number ++ " also used by " ++ other
  | .includesTooDeep => "include depth exceeded; check for include cycles"
  | .malformed => "<yaml>"
  | .unclearEntry => "each changelog entry needs exactly one of changeSet or include"
  | .emptyChangeSet => "change set has neither sql nor sqlFile"
  | .rejected error => error.message

/-- A cause and the place where it arises. -/
structure Failure where
  origin : String
  cause : Cause
  deriving DecidableEq

def Failure.toError (engine : Engine) (failure : Failure) : LifecycleError :=
  .migration engine.name failure.origin failure.cause.message

end ScopedResources.Migration
