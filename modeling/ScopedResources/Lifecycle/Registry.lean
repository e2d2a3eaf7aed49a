import ScopedResources.Lifecycle.Handle

/-!
# The registry of shared handles

For every backend and key the registry holds the one live handle that all requests for it share. A
handle that was stopped counts as absent, and a factory that fails leaves nothing behind. Only
shutting down empties the registry.
-/

namespace ScopedResources.Lifecycle

namespace State

def live? (state : State) (backend : String) (key : ResourceKey) : Option HandleId :=
  (Assoc.find? (backend, key) state.registry).filter fun id => !(state.handle id).stopped

def countLive (state : State) : Nat :=
  state.registry.countP fun entry => !(state.handle entry.2).stopped

end State

/-- A registered handle, if it has the connection type that is asked for. -/
def ofType (backend connectionType : String) (id : HandleId) : Action LifecycleError HandleId := do
  if ((← get).handle id).connectionType = connectionType then return id
  else throw (.injection connectionType
    ("shared " ++ backend ++ " resource was registered with a different connection type"))

/-- The live handle of a backend under a key, which is made if there is none. The second component
says whether it was made by this call. -/
def getOrCreate (backend connectionType : String) (key : ResourceKey)
    (factory : Action LifecycleError HandleId) : Action LifecycleError (HandleId × Bool) := do
  match (← get).live? backend key with
  | some id => return (← ofType backend connectionType id, false)
  | none =>
    let id ← factory
    modify fun state => { state with registry := Assoc.insert (backend, key) id state.registry }
    return (id, true)

/-- The live handle of a backend under a key, if there is one. -/
def getShared (backend connectionType : String) (key : ResourceKey) :
    Action LifecycleError (Option HandleId) := do
  match (← get).live? backend key with
  | some id => return some (← ofType backend connectionType id)
  | none => return none

/-- What shutting down came to: how many handles were stopped and which ones could not be. -/
structure Report where
  stopped : Nat := 0
  failures : List (ResourceKey × ContainerError) := []

def Report.isClean (report : Report) : Bool :=
  report.failures.isEmpty

/-- Stops one registered handle, unless it was stopped before. -/
def shutdownOne (report : Report) (id : HandleId) : StateM State Report := do
  let handle := (← get).handle id
  if handle.stopped then return report
  else
    match (← stopHandle id) with
    | .ok () => return { report with stopped := report.stopped + 1 }
    | .error error =>
      note (.warned (.sharedStopFailed handle.key error))
      return { report with failures := report.failures ++ [(handle.key, error)] }

/-- Stops every registered handle and empties the registry. A handle that does not stop does not
keep the others from it. -/
def shutdown : StateM State Report := do
  let shared := (← get).registry
  -- emptied first: a request that comes later makes a handle of its own
  modify fun state => { state with registry := [] }
  (shared.map Prod.snd).foldlM shutdownOne {}

/-- Ends a run: everything shared is stopped, and the root holds nothing any more. -/
def finishRun (root : ScopeNode) : StateM State Report := do
  let report ← shutdown
  modify (·.clearNode root)
  return report

end ScopedResources.Lifecycle
