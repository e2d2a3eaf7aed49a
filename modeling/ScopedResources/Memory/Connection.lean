import ScopedResources.Memory.Server

/-!
# Connections to the in-process server

A connection sends statements to one database. Once it is closed it sends none, though the rows of a
table can still be counted.
-/

namespace ScopedResources.Memory

/-- Where the statements of a connection go. -/
inductive Target where
  /-- To the database of a container. -/
  | container (index : Nat)
  /-- To the database behind a port that is managed elsewhere. -/
  | external (port : Nat)
  /-- Nowhere: every statement is accepted and dropped. -/
  | nowhere
  deriving DecidableEq, Inhabited

namespace Server

def database (server : Server) : Target → Database
  | .container index => (server.containers[index]?.map Container.database).getD {}
  | .external port => server.externalDatabase port
  | .nowhere => {}

def setDatabase (server : Server) (database : Database) : Target → Server
  | .container index =>
    { server with containers := server.containers.modify index fun found =>
      { found with database } }
  | .external port => { server with external := Assoc.insert port database server.external }
  | .nowhere => server

def execute (server : Server) (target : Target) (statement : String) :
    Except StatementError Server :=
  match target with
  | .nowhere => .ok server
  | _ =>
    match (server.database target).execute statement with
    | .ok next => .ok (server.setDatabase next target)
    | .error rejection => .error ⟨statement, rejection.message⟩

end Server

/-- A connection: what describes it, where its statements go, and whether it is closed. -/
structure Connection where
  params : ConnectionParams
  target : Target
  closed : Bool := false
  deriving Inhabited

namespace Connection

def close (connection : Connection) : Connection :=
  { connection with closed := true }

def execute (connection : Connection) (server : Server) (statement : String) :
    Except StatementError Server :=
  if connection.closed then .error ⟨statement, "connection is closed"⟩
  else server.execute connection.target statement

def count (connection : Connection) (server : Server) (table : String) :
    Except StatementError Nat :=
  match (server.database connection.target).count? table with
  | some rows => .ok rows
  | none => .error ⟨"SELECT count(*) FROM " ++ table, Database.Rejection.absent.message⟩

def hasTable (connection : Connection) (server : Server) (table : String) : Bool :=
  ((server.database connection.target).count? table).isSome

end Connection

/-- Connects to a container at its host and its mapped port. -/
def connect (index : Nat) : Task Connection := do
  let host ← host index
  let port ← mappedPort index containerPort
  match (← get).listening? port with
  | some found =>
      return { params := { scheme := "memory", host, port }, target := .container found }
  | none => throw ⟨"connect", "nothing listens on port " ++ toString port⟩

def connectExternal (params : ConnectionParams) : Connection :=
  { params, target := .external params.port }

end ScopedResources.Memory
