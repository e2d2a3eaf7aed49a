import ScopedResources.Assoc
import ScopedResources.Connection.Params
import ScopedResources.Environment
import ScopedResources.Numeral
import ScopedResources.Url.Parse

/-!
# External instances

Instead of starting containers, a run may use one instance that is managed elsewhere. Six variables
of the environment describe it for one backend: a URL, a host, a port, a user name, a password and a
database. The URL alone, or host and port together, name an instance; the other variables refine it.
A variable that is blank, or that holds no text, counts as absent. -/

namespace ScopedResources.Override

/-- The variable that holds one part of the description for a backend. -/
def variableName (backend suffix : String) : String :=
  "EXTERNAL_TEST_" ++ backend.toUpper ++ "_" ++ suffix

/-- Why the variables of a backend cannot be read. -/
inductive Fault where
  | invalidUrl (backend : String) (fault : Url.Fault)
  | urlWithoutHost (backend : String)
  | urlWithoutPort (backend : String)
  | invalidPort (backend written : String) (fault : Numeral.Fault)
  deriving DecidableEq

def Fault.message : Fault → String
  | .invalidUrl backend fault =>
    variableName backend "JDBC_URL" ++ " is not a valid URL: " ++ fault.message
  | .urlWithoutHost backend => variableName backend "JDBC_URL" ++ " has no host"
  | .urlWithoutPort backend => variableName backend "JDBC_URL" ++ " has no port"
  | .invalidPort backend written fault =>
    variableName backend "PORT" ++ " must be a port number, got " ++ Text.quoted written ++ ": " ++
      fault.message

/-- The variables of one backend. -/
structure Variables where
  url : Option String
  host : Option String
  port : Option String
  username : Option String
  password : Option String
  database : Option String

def Variables.ofEnvironment (env : Environment) (backend : String) : Variables :=
  let value := fun suffix => env.nonBlank? (variableName backend suffix)
  { url := value "JDBC_URL", host := value "HOST", port := value "PORT"
    username := value "USERNAME", password := value "PASSWORD", database := value "DATABASE" }

def readPort (backend written : String) : Except Fault Nat :=
  (Numeral.read Numeral.maxPort (Text.trim written.toList)).mapError (.invalidPort backend written)

/-- The text without one `jdbc:` in front. -/
def withoutLabel (url : String) : String :=
  match url.toList with
  | 'j' :: 'd' :: 'b' :: 'c' :: ':' :: rest => String.ofList rest
  | _ => url

def paramsOfUrl (backend written : String) : Except Fault ConnectionParams := do
  let url ← (Url.parse (withoutLabel written)).mapError (.invalidUrl backend)
  match url.host, url.portOrDefault? with
  | none, _ => throw (.urlWithoutHost backend)
  | some _, none => throw (.urlWithoutPort backend)
  | some host, some port =>
    return {
      scheme := url.scheme, host, port
      username := if url.username.isEmpty then none else some url.username
      password := url.password
      database := if url.pathText.isEmpty then none else some url.pathText }

/-- What the variables of a backend amount to. -/
inductive Decision where
  /-- Containers are used. -/
  | unset
  /-- One of host and port is missing, so what is there is passed over. -/
  | incomplete
  /-- The instance with these parameters is used. -/
  | external (params : ConnectionParams)
  deriving DecidableEq

/-- The parameters with the single variables in place of what they refine. -/
def refine (v : Variables) (port : Option Nat) (params : ConnectionParams) : ConnectionParams :=
  { params with
    host := v.host.getD params.host
    port := port.getD params.port
    username := v.username <|> params.username
    password := v.password <|> params.password
    database := v.database <|> params.database }

/-- What the variables of a backend amount to. The port is read first, whether it is needed or not.
-/
def decide (backend defaultScheme : String) (v : Variables) : Except Fault Decision := do
  let port ← v.port.mapM (readPort backend)
  match v.url, v.host, port with
  | some url, _, _ => return .external (refine v port (← paramsOfUrl backend url))
  | none, some host, some number =>
    return .external (refine v port { scheme := defaultScheme, host, port := number })
  | none, none, none => return .unset
  | none, _, _ => return .incomplete

def ofEnvironment (env : Environment) (backend defaultScheme : String) : Except Fault Decision :=
  decide backend defaultScheme (Variables.ofEnvironment env backend)

/-- Where the decision for a backend is taken from. -/
inductive Source where
  /-- The environment, which is read at every request. -/
  | environment
  /-- A table of instances under the names of backends in upper case. -/
  | fixed (instances : Assoc String ConnectionParams)
  /-- No instance is used. -/
  | disabled

/-- A table of instances; the last one for a backend stands. -/
def Source.ofInstances (instances : List (String × ConnectionParams)) : Source :=
  .fixed (instances.foldl (fun all (name, params) => Assoc.insert name.toUpper params all) [])

def Source.decide (source : Source) (env : Environment) (backend defaultScheme : String) :
    Except Fault Decision :=
  match source with
  | .environment => ofEnvironment env backend defaultScheme
  | .disabled => .ok .unset
  | .fixed instances =>
    .ok <| match Assoc.find? backend.toUpper instances with
      | some params => .external params
      | none => .unset

end ScopedResources.Override
