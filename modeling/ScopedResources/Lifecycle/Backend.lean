import ScopedResources.Memory.Connection
import ScopedResources.ResourceKey

/-!
# Backends

A backend is one kind of resource. It names the server that its containers run on and says what its
connections are. Containers of a test's own may stand in for those that the server would make.
-/

namespace ScopedResources.Lifecycle

/-- One kind of resource. -/
structure Backend where
  name : String
  /-- The scheme of an external instance that is given by host and port. -/
  scheme : String
  /-- The image that a blank image stands for. -/
  defaultImage : String
  /-- What is asked for when a connection is asked for. -/
  connectionType : String
  server : String
  /-- Whether statements reach a database, or are accepted and dropped. -/
  reachesDatabase : Bool := true
  /-- Why external instances cannot be used, if they cannot. -/
  externalRefusal : Option ContainerError := none

namespace Backend

def memory (connectionType : String) : Backend where
  name := "MEMORY"
  scheme := "memory"
  defaultImage := "harbor/memory:latest"
  connectionType := connectionType
  server := "MEMORY"

/-- The connection of a backend over a connection of its server. -/
def connection (backend : Backend) (inner : Memory.Connection) : Memory.Connection :=
  if backend.reachesDatabase then inner else { inner with target := .nowhere }

def connectExternal (backend : Backend) (params : ConnectionParams) :
    Except ContainerError Memory.Connection :=
  match backend.externalRefusal with
  | some error => .error error
  | none => .ok (backend.connection (Memory.connectExternal params))

end Backend

/-- The containers that stand in for those of the server, or the refusal to make any. -/
structure ContainerOverride where
  image : String
  aliases : List String := []
  faults : List Memory.Fault := []
  refuses : Bool := false

/-- Creates the container for a key in place of the one that the server would make. -/
def ContainerOverride.create (override : ContainerOverride) (key : ResourceKey) : Memory.Task Nat :=
  if override.refuses then throw ⟨"create", "no container for " ++ key.shown⟩
  else Memory.create override.image override.aliases override.faults

def createFor (key : ResourceKey) : Memory.Task Nat :=
  Memory.create key.image key.networkAlias.toList []

end ScopedResources.Lifecycle
