import ScopedResources.Lifecycle.Hooks

/-!
# Asking for a connection

A test asks for the instance that its node sees. The hook before the node runs first if it has not
run; after the node is closed nothing is available there.
-/

namespace ScopedResources.Lifecycle.Coordinator

variable (c : Coordinator)

/-- The error of a request that cannot be met. -/
def refusal (reason : String) : LifecycleError :=
  .injection c.backend.connectionType reason

/-- Runs the hook before a node, as far as a connection may be asked for there. -/
def prepare (node : ScopeNode) : Action LifecycleError Unit := do
  match node.kind with
  | .testMethod => c.beforeEach node
  | .testClass =>
    let decl ← c.declarationAt (← get) node
    if decl.mode = .testMethod then
      throw (c.refusal (c.backend.name ++
        " resource is METHOD scoped; request it from a test method, not class " ++ node.path))
    c.beforeAll node
  | .run => throw (c.refusal "connections are resolved within a class or a method")

def resolve (node : ScopeNode) : Action LifecycleError HandleId := do
  c.prepare node
  match c.binding? (← get) node with
  | none => throw (c.refusal ("no live resource at " ++ node.path))
  | some binding =>
    if ((← get).handle binding.handle).stopped then
      throw (c.refusal ("resource at " ++ node.path ++ " was already stopped"))
    return binding.handle

def resolveParams (node : ScopeNode) : Action LifecycleError ConnectionParams := do
  let id ← c.resolve node
  return ((← get).handle id).connection.params

end ScopedResources.Lifecycle.Coordinator
