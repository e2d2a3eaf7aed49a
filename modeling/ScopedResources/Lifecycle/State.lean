import ScopedResources.Declaration
import ScopedResources.Environment
import ScopedResources.Files.Tree
import ScopedResources.Lifecycle.Backend
import ScopedResources.Store
import ScopedResources.Warning

/-!
# The state of a run

The state of a run is what its surroundings hold (the environment, the files, the servers), the
handles that were made so far, the registry of shared ones, and what the nodes of the tree of scopes
hold. A journal keeps what was done, in order.
-/

namespace ScopedResources.Lifecycle

/-- Where the instance behind a handle came from. -/
inductive Origin where
  /-- It is a container of a server, with this index, and is stopped with the handle. -/
  | container (index : Nat)
  /-- It is managed elsewhere and never stopped. -/
  | external
  deriving DecidableEq, Inhabited

def Origin.name : Origin → String
  | container _ => "Container"
  | external => "External"

/-- Migrations that are applied together: an engine and its locations. -/
abbrev MigrationSet := Migration.Engine × List String

def migrationSet (policy : Migration.Policy) : MigrationSet :=
  (policy.engine, policy.locations)

/-- A live instance with the connection to it. A shared one counts, for every set of migrations that
is applied to it, the classes that rely on the set. -/
structure Handle where
  key : ResourceKey
  origin : Origin
  server : String
  connectionType : String
  connection : Memory.Connection
  stopped : Bool := false
  holders : Assoc MigrationSet Nat := []
  deriving Inhabited

/-- Handles are numbered in the order in which they are made. -/
abbrev HandleId := Nat

/-- The main fields of a handle by name; `id` is how the handle itself is called. -/
def Handle.diagnostic (handle : Handle) (id : String) : String :=
  "ResourceHandle \x7b id: " ++ id ++ ", key: " ++ handle.key.diagnostic ++
    ", origin: " ++ handle.origin.name ++ ", stopped: " ++
      Text.shownBool handle.stopped ++ ", .. \x7d"

/-- What a node has to do with the instance that it is bound to. -/
inductive Ownership where
  /-- The instance was made for the node and is stopped at its end. -/
  | owned
  /-- The instance is registered or external. -/
  | shared
  /-- The instance is that of the class around a method. -/
  | borrowed
  deriving DecidableEq, Inhabited

/-- The instance that a node is bound to. -/
structure Binding where
  handle : HandleId
  ownership : Ownership
  deriving DecidableEq, Inhabited

/-- Something that was done in the course of a run. -/
inductive Event where
  | warned (warning : Warning)
  /-- A container of a test's own was asked for. -/
  | overrideAsked (backend : String) (key : ResourceKey)
  | created (server : String) (index : Nat)
  | startAsked (server : String) (index : Nat)
  | stopAsked (server : String) (index : Nat)
  | closed (handle : HandleId)
  /-- Migrations sent a statement through the connection of a handle. -/
  | sent (handle : HandleId) (statement : String)

def Event.warning? : Event → Option Warning
  | warned warning => some warning
  | _ => none

/-- The state of a run. -/
structure State where
  environment : Environment := {}
  files : Files.Tree
  servers : Assoc String Memory.Server := []
  handles : Array Handle := #[]
  /-- The shared handles by backend and key. -/
  registry : Assoc (String × ResourceKey) HandleId := []
  declarations : Store String Declaration := {}
  overrides : Store String ContainerOverride := {}
  /-- The bindings by backend and connection type. -/
  bindings : Store (String × String) Binding := {}
  /-- The marks that after-hooks leave. -/
  finished : Store String Unit := {}
  nextNode : Nat := 1
  /-- The keys that a coordinator warned about. -/
  warnedKeys : List (String × ResourceKey) := []
  journal : List Event := []

namespace State

def handle (state : State) (id : HandleId) : Handle :=
  state.handles.getD id default

def server (state : State) (name : String) : Memory.Server :=
  (Assoc.find? name state.servers).getD {}

def setServer (state : State) (name : String) (server : Memory.Server) : State :=
  { state with servers := Assoc.insert name server state.servers }

def modifyHandle (state : State) (id : HandleId) (change : Handle → Handle) : State :=
  { state with handles := state.handles.modify id change }

/-- The number of values that a node holds. -/
def entries (state : State) (node : ScopeNode) : Nat :=
  state.declarations.size node + state.overrides.size node + state.bindings.size node +
    state.finished.size node

def clearNode (state : State) (node : ScopeNode) : State :=
  { state with
    declarations := state.declarations.clear node
    overrides := state.overrides.clear node
    bindings := state.bindings.clear node
    finished := state.finished.clear node }

end State

/-- A task of a run, which may fail. What was done before a failure stays done. -/
abbrev Action (ε : Type) := ExceptT ε (StateM State)

def note (event : Event) : StateM State Unit :=
  modify fun state => { state with journal := state.journal ++ [event] }

def onServer {α : Type} (name : String) (task : Memory.Task α) : Action ContainerError α :=
  fun state =>
    let (result, server) := task (state.server name)
    (result, state.setServer name server)

def addHandle (handle : Handle) : StateM State HandleId :=
  modifyGet fun state => (state.handles.size, { state with handles := state.handles.push handle })

def newNode (parent : ScopeNode) (kind : Scope) (name : String) : StateM State ScopeNode :=
  modifyGet fun state =>
    (parent.child state.nextNode kind name, { state with nextNode := state.nextNode + 1 })

end ScopedResources.Lifecycle
