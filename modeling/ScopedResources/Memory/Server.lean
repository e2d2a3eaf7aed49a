import ScopedResources.Connection.Params
import ScopedResources.Memory.Database
import ScopedResources.Numeral

/-!
# The in-process server

A server hands out containers. Each container has a database and a port of its own; the ports are
given out in order and never again. Beside them stand the databases of instances that are managed
elsewhere, one for each port. The server counts what was created, started and stopped.
-/

namespace ScopedResources.Memory

/-- An operation of a container that is made to fail. -/
inductive Fault where
  /-- The container does not start, and so cannot be stopped. -/
  | start
  /-- The container starts and reports a failure all the same. -/
  | afterStart
  /-- The container does not stop. -/
  | stop
  | host
  | port
  deriving DecidableEq

namespace Fault

def all : List Fault := [start, afterStart, stop, host, port]

def operation : Fault → String
  | start => "start"
  | afterStart => "after_start"
  | stop => "stop"
  | host => "host"
  | port => "port"

def error (fault : Fault) : ContainerError :=
  ⟨fault.operation, "injected fault"⟩

end Fault

/-- A container of the server. -/
structure Container where
  image : String
  aliases : List String := []
  faults : List Fault := []
  running : Bool := false
  database : Database := {}
  deriving Inhabited

/-- The containers of a server, the databases that are managed elsewhere, and what was counted. -/
structure Server where
  containers : Array Container := #[]
  external : Assoc Nat Database := []
  refusesStarts : Bool := false
  started : Nat := 0
  stopped : Nat := 0
  deriving Inhabited

def containerPort : Nat := 7070

/-- The first port that a container is reached at from outside. -/
def firstPort : Nat := 20000

/-- How many containers can have a port of their own. -/
def capacity : Nat := Numeral.maxPort + 1 - firstPort

namespace Server

def created (server : Server) : Nat :=
  server.containers.size

/-- How many containers were started and not stopped since. -/
def running (server : Server) : Nat :=
  server.started - server.stopped

def externalDatabase (server : Server) (port : Nat) : Database :=
  (Assoc.find? port server.external).getD {}

/-- The container that is reached at a port. -/
def listening? (server : Server) (port : Nat) : Option Nat :=
  if firstPort ≤ port ∧ port - firstPort < server.containers.size then some (port - firstPort)
  else none

end Server

/-- A task for a server, which may fail. What was done before a failure stays done. -/
abbrev Task := ExceptT ContainerError (StateM Server)

def create (image : String) (aliases : List String) (faults : List Fault) : Task Nat :=
  fun server =>
    if server.containers.size < capacity then
      (.ok server.containers.size,
        { server with containers := server.containers.push { image, aliases, faults } })
    else (.error ⟨"create", "mapped port range exhausted"⟩, server)

def container (index : Nat) : Task Container := do
  match (← get).containers[index]? with
  | some found => return found
  | none => throw ⟨"find", "no such container"⟩

def check (found : Container) (fault : Fault) : Task Unit :=
  if fault ∈ found.faults then throw fault.error else pure ()

def setRunning (index : Nat) (running : Bool) (server : Server) : Server :=
  { server with containers := server.containers.modify index fun found => { found with running } }

/-- Starts a container. A container that is running is started, and counted, once more. -/
def start (index : Nat) : Task Unit := do
  let found ← container index
  check found .start
  if (← get).refusesStarts then throw ⟨"start", "wait strategy timed out"⟩
  modify fun server => { setRunning index true server with started := server.started + 1 }
  check found .afterStart

/-- Stops a container. Stopping a container that is not running does nothing. -/
def stop (index : Nat) : Task Unit := do
  let found ← container index
  if Fault.start ∈ found.faults then throw ⟨"stop", "never started"⟩
  check found .stop
  if found.running then
    modify fun server => { setRunning index false server with stopped := server.stopped + 1 }

def host (index : Nat) : Task String := do
  check (← container index) .host
  return "localhost"

/-- The port at which a port inside a running container is reached from outside. -/
def mappedPort (index internalPort : Nat) : Task Nat := do
  let found ← container index
  check found .port
  if !found.running then throw ⟨"mapped_port", "container is not running"⟩
  if internalPort ≠ containerPort then
    throw ⟨"mapped_port", "port " ++ toString internalPort ++ " is not exposed"⟩
  return firstPort + index

end ScopedResources.Memory
