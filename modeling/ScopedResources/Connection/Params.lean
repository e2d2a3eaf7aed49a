import ScopedResources.Text.Quoted

/-!
# Connection parameters

Where a service is reached and with which credentials. The parameters are written as a URL; every
text meant for people shows three asterisks where the password stands.
-/

namespace ScopedResources

/-- What is needed to reach a service. -/
structure ConnectionParams where
  scheme : String
  host : String
  port : Nat
  username : Option String := none
  password : Option String := none
  database : Option String := none
  deriving DecidableEq, Inhabited

namespace ConnectionParams

/-- What stands in the place of a password. -/
def mask : String := "***"

/-- The parameters as a URL that shows `password`. A password without a user name is left out. -/
def render (p : ConnectionParams) (password : Option String) : String :=
  let login := match p.username, password with
    | some user, some secret => user ++ ":" ++ secret ++ "@"
    | some user, none => user ++ "@"
    | none, _ => ""
  let path := match p.database with
    | some database => "/" ++ database
    | none => ""
  p.scheme ++ "://" ++ login ++ p.host ++ ":" ++ toString p.port ++ path

def url (p : ConnectionParams) : String :=
  p.render p.password

/-- The URL as it is shown to people. -/
def shown (p : ConnectionParams) : String :=
  p.render (p.password.map fun _ => mask)

def diagnostic (p : ConnectionParams) : String :=
  "ConnectionParams \x7b scheme: " ++ Text.quoted p.scheme ++ ", host: " ++ Text.quoted p.host ++
    ", port: " ++ toString p.port ++ ", username: " ++ Text.quotedOption p.username ++
    ", password: " ++ Text.quotedOption (p.password.map fun _ => mask) ++
    ", database: " ++ Text.quotedOption p.database ++ " \x7d"

end ConnectionParams

end ScopedResources
