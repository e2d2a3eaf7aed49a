import ScopedResources.Lifecycle.State
import ScopedResources.Migration.Run

/-!
# Handles at work

Stopping a handle closes its connection and stops its container; only the first stop does anything,
and an external instance is left running. Migrations run through the connection of a handle.
-/

namespace ScopedResources.Lifecycle

/-- Stops a handle. Only the first call does anything. -/
def stopHandle (id : HandleId) : Action ContainerError Unit := do
  let handle := (← get).handle id
  if handle.stopped then pure ()
  else
    -- marked before the container is told to stop, so a stop that fails is not tried again
    modify (·.modifyHandle id fun handle =>
      { handle with stopped := true, connection := handle.connection.close })
    note (.closed id)
    match handle.origin with
    | .external => pure ()
    | .container index =>
      note (.stopAsked handle.server index)
      onServer handle.server (Memory.stop index)

/-- Stops a handle; a failure is only worth a warning. -/
def stopOrWarn (id : HandleId) : StateM State Unit := do
  match (← stopHandle id) with
  | .ok () => pure ()
  | .error error => note (.warned (.stopFailed ((← get).handle id).key error))

def send (id : HandleId) (statement : String) : StateM State (Except StatementError Unit) := do
  note (.sent id statement)
  let state ← get
  let handle := state.handle id
  match handle.connection.execute (state.server handle.server) statement with
  | .ok server =>
    set (state.setServer handle.server server)
    return .ok ()
  | .error error => return .error error

/-- Applies or drops the migrations of a policy through the connection of a handle. -/
def migrate (direction : Migration.Direction) (root : String) (id : HandleId)
    (policy : Migration.Policy) : Action LifecycleError Unit := do
  let files := (← get).files
  for warning in Migration.warnings direction policy.engine files root policy.locations do
    note (.warned warning)
  ExceptT.mk (Migration.run (send id) direction policy.engine files root policy.locations)

/-- Applies migrations to a shared instance, unless another class has applied them and still relies
on them; one more class relies on them from now on. -/
def acquire (root : String) (id : HandleId) (policy : Migration.Policy) :
    Action LifecycleError Unit := do
  let holders := Assoc.find? (migrationSet policy) ((← get).handle id).holders
  -- migrations that fail to be applied are held by nobody
  if holders.isNone then migrate .apply root id policy
  modify (·.modifyHandle id fun handle =>
    { handle with
      holders := Assoc.insert (migrationSet policy) (holders.getD 0 + 1) handle.holders })

/-- Drops migrations from a shared instance, unless another class still relies on them. -/
def release (root : String) (id : HandleId) (policy : Migration.Policy) :
    Action LifecycleError Unit := do
  let remaining := (Assoc.find? (migrationSet policy) ((← get).handle id).holders).getD 0 - 1
  if 0 < remaining then
    modify (·.modifyHandle id fun handle =>
      { handle with holders := Assoc.insert (migrationSet policy) remaining handle.holders })
  else
    -- forgotten before they are dropped, so they are applied again even if the drop fails
    modify (·.modifyHandle id fun handle =>
      { handle with holders := Assoc.erase (migrationSet policy) handle.holders })
    migrate .drop root id policy

end ScopedResources.Lifecycle
