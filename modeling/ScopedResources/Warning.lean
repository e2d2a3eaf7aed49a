import ScopedResources.Error
import ScopedResources.ResourceKey
import ScopedResources.Text.Quoted

/-!
# Warnings

What is wrong but stops nothing is written to the log.
-/

namespace ScopedResources

/-- An entry of the log that calls for attention. -/
inductive Warning where
  /-- Of host and port of an external instance only one is given. -/
  | incompleteOverride (backend : String)
  /-- Migrations run again before every method on an instance that is not fresh. -/
  | repeatedMigrations (key : ResourceKey)
  /-- There is nothing at the locations that could be dropped. -/
  | nothingToDrop (locations : List String)
  | stopFailed (key : ResourceKey) (error : ContainerError)
  /-- A container that did not become ready did not stop either. -/
  | discardFailed (image : String) (error : ContainerError)
  /-- A shared resource did not stop at the end of the run. -/
  | sharedStopFailed (key : ResourceKey) (error : ContainerError)

namespace Warning

def message : Warning → String
  | incompleteOverride backend =>
    "External " ++ backend ++ " override needs both HOST and PORT (or a URL); ignoring"
  | repeatedMigrations _ =>
    "Migrations apply before every method on a shared instance without a matching drop; " ++
      "they must be idempotent"
  | nothingToDrop _ => "No drop scripts found; nothing to drop"
  | stopFailed _ _ => "Failed to stop resource"
  | discardFailed _ _ => "Failed to stop container after a failed start"
  | sharedStopFailed _ _ => "Failed to stop shared resource"

/-- What a warning is about, by the names of its fields. -/
def fields : Warning → List (String × String)
  | incompleteOverride backend => [("backend", backend)]
  | repeatedMigrations key => [("key", key.shown)]
  | nothingToDrop locations => [("locations", Text.quotedList locations)]
  | stopFailed key error | sharedStopFailed key error =>
    [("key", key.shown), ("error", error.message)]
  | discardFailed image error => [("image", image), ("error", error.message)]

end Warning

end ScopedResources
