import ScopedResources.Lifecycle.Handle

/-!
# Making instances

An instance is made by creating a container, starting it and connecting to it. A container that does
not get that far is stopped again, so a failure leaves nothing running.
-/

namespace ScopedResources.Lifecycle

/-- The error of an instance that did not become ready. -/
def startError (image : String) (error : ContainerError) : LifecycleError :=
  .resourceStart image error.message

/-- Creates the container for a key: one of the test's own if the node sees an override. -/
def createContainer (backend : Backend) (node : ScopeNode) (key : ResourceKey) :
    Action ContainerError Nat := do
  let index ← match (← get).overrides.find? node backend.name with
    | some override => do
      note (.overrideAsked backend.name key)
      onServer backend.server (override.create key)
    | none => onServer backend.server (createFor key)
  note (.created backend.server index)
  return index

def bringUp (backend : Backend) (index : Nat) : Action ContainerError Memory.Connection := do
  note (.startAsked backend.server index)
  onServer backend.server (Memory.start index)
  return backend.connection (← onServer backend.server (Memory.connect index))

/-- Stops a container that did not become ready; a failure is only worth a warning. -/
def discard (backend : Backend) (index : Nat) : StateM State Unit := do
  note (.stopAsked backend.server index)
  match (← onServer backend.server (Memory.stop index)) with
  | .ok () => pure ()
  | .error error =>
    let image := ((← get).server backend.server).containers[index]?.map Memory.Container.image
    note (.warned (.discardFailed (image.getD "") error))

/-- Starts a container and connects to it, or stops it again. -/
def bringUpOrDiscard (backend : Backend) (index : Nat) :
    Action ContainerError Memory.Connection :=
  tryCatch (bringUp backend index) fun error => do
    discard backend index
    throw error

def handleOf (backend : Backend) (key : ResourceKey) (index : Nat)
    (connection : Memory.Connection) : Handle where
  key := key
  origin := .container index
  server := backend.server
  connectionType := backend.connectionType
  connection := connection

def externalHandle (backend : Backend) (key : ResourceKey) (connection : Memory.Connection) :
    Handle where
  key := key
  origin := .external
  server := backend.server
  connectionType := backend.connectionType
  connection := connection

/-- Makes an instance for a node. -/
def provision (backend : Backend) (node : ScopeNode) (key : ResourceKey) :
    Action LifecycleError HandleId :=
  ExceptT.adapt (startError key.image) do
    let index ← createContainer backend node key
    let connection ← bringUpOrDiscard backend index
    addHandle (handleOf backend key index connection)

end ScopedResources.Lifecycle
