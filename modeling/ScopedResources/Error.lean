/-!
# Errors that reach a test

Four kinds of failure reach the test that caused them. Two smaller kinds come from the parts below:
a container that does not do what it is told, and a connection that rejects a statement.
-/

namespace ScopedResources

/-- An operation on a container that failed. -/
structure ContainerError where
  operation : String
  reason : String
  deriving DecidableEq

def ContainerError.message (e : ContainerError) : String :=
  "Container " ++ e.operation ++ " failed: " ++ e.reason

/-- A statement that a connection rejected. -/
structure StatementError where
  statement : String
  reason : String
  deriving DecidableEq

def StatementError.message (e : StatementError) : String :=
  "Statement `" ++ e.statement ++ "` failed: " ++ e.reason

/-- A failure of a hook or of a request for a connection. None of them is retried. -/
inductive LifecycleError where
  /-- What is declared or set does not make sense, or nothing is declared. -/
  | configuration (message : String)
  /-- A container or an external instance did not become ready. -/
  | resourceStart (image reason : String)
  | migration (engine location reason : String)
  /-- The requested connection is not available at this place. -/
  | injection (requested reason : String)
  deriving DecidableEq

namespace LifecycleError

def message : LifecycleError → String
  | configuration text => "Configuration error: " ++ text
  | resourceStart image reason => "Resource " ++ image ++ " failed to start: " ++ reason
  | migration engine location reason =>
    "Migration via " ++ engine ++ " failed at " ++ location ++ ": " ++ reason
  | injection requested reason => "Cannot inject " ++ requested ++ ": " ++ reason

/-- Whether an error lies in what was declared or set. -/
def isConfiguration : LifecycleError → Bool
  | configuration _ => true
  | _ => false

end LifecycleError

end ScopedResources
