import ScopedResources.Connection.Params
import ScopedResources.Error
import ScopedResources.ResourceKey
import ScopedResources.Settings

/-!
# Services in containers of a runtime

Two services run in containers of a container runtime. The runtime stands outside of this library,
so what is here is what a container does before it is started and after it was stopped. -/

namespace ScopedResources

/-- A service that runs in a container. -/
inductive Service where
  | postgres
  | redis
  deriving DecidableEq

namespace Service

def all : List Service := [postgres, redis]

def name : Service → String
  | postgres => "POSTGRES"
  | redis => "REDIS"

def scheme : Service → String
  | postgres => "postgres"
  | redis => "redis"

/-- The image that a blank image stands for. -/
def defaultImage : Service → String
  | postgres => "postgres:16-alpine"
  | redis => "redis:7-alpine"

def port : Service → Nat
  | postgres => 5432
  | redis => 6379

/-- What the containers of a service have in common. -/
structure Setup where
  network : String
  username : String := "test"
  password : String := "test"
  database : String := "test"

/-- The setup on the network of some settings, which the environment refines. -/
def Setup.ofSettings (settings : Settings) (env : Environment) : Setup :=
  { network := (settings.withEnvironment env).network }

def diagnostic (service : Service) (setup : Setup) : String :=
  match service with
  | postgres =>
    "PostgresProvider \x7b network: " ++ Text.quoted setup.network ++
      ", username: " ++ Text.quoted setup.username ++
      ", password: " ++ Text.quoted setup.password ++
      ", database: " ++ Text.quoted setup.database ++ " \x7d"
  | redis => "RedisProvider \x7b network: " ++ Text.quoted setup.network ++ " \x7d"

/-- Whether a container that is not running was stopped. -/
inductive Phase where
  | pending
  | stopped
  deriving DecidableEq

/-- A container that is not running. -/
structure Container where
  image : String
  aliases : List String
  phase : Phase := .pending

namespace Container

/-- The container for a key. An alias counts only on a shared network. -/
def ofKey (key : ResourceKey) : Container :=
  { image := key.image, aliases := if key.sharedNetwork then key.networkAlias.toList else [] }

def notRunning (container : Container) (operation : String) : ContainerError :=
  ⟨operation, container.image ++ " is not running"⟩

def host (container : Container) : Except ContainerError String :=
  .error (container.notRunning "host")

/-- The port at which a port inside a container is reached. -/
def mappedPort (container : Container) : Except ContainerError Nat :=
  .error (container.notRunning "mapped_port")

/-- The parameters of a connection to a container: its host is asked for first. -/
def params (service : Service) (setup : Setup) (container : Container) :
    Except ContainerError ConnectionParams := do
  let host ← container.host
  let port ← container.mappedPort
  return match service with
    | postgres =>
      { scheme := service.scheme, host, port, username := some setup.username
        password := some setup.password, database := some setup.database }
    | redis => { scheme := service.scheme, host, port }

/-- Stops a container, after which it cannot be started. -/
def stop (container : Container) : Container :=
  { container with phase := .stopped }

/-- Why a container cannot be started; none if that is for the runtime to say. -/
def startFault? (container : Container) : Option ContainerError :=
  match container.phase with
  | .pending => none
  | .stopped => some ⟨"start", container.image ++ " was already stopped"⟩

end Container

end Service

end ScopedResources
