import ScopedResources.Lifecycle.Coordinator

/-!
# Hooks

The hooks stand at the boundaries of the tree. Before a class its instance is made, or the shared
one is taken; before a method its own instance is made, or that of its class is borrowed. After a
node its migrations are dropped and what was made for it is stopped, and the node is closed for
good. Before-hooks change nothing on a node that is bound. -/

namespace ScopedResources.Lifecycle.Coordinator

variable (c : Coordinator)

/-- The instance for a class: the external one, the shared one, or one of its own. -/
def obtainForClass (node : ScopeNode) (decl : Declaration) : Action LifecycleError Binding := do
  match (← c.external?) with
  | some id => return ⟨id, .shared⟩
  | none =>
    let key ← c.keyFor (← get) decl
    if decl.mode = .run then
      let (id, _) ← getOrCreate c.backend.name c.backend.connectionType key
        (provision c.backend node key)
      return ⟨id, .shared⟩
    else return ⟨← provision c.backend node key, .owned⟩

/-- Stops the instance of a binding if it was made for the node. -/
def stopOwned (binding : Binding) : StateM State Unit :=
  if binding.ownership = .owned then stopOrWarn binding.handle else pure ()

/-- Does a task for a binding; what was made for the node is stopped if the task fails. -/
def orStop (binding : Binding) (task : Action LifecycleError Unit) : Action LifecycleError Unit :=
  tryCatch task fun error => do
    stopOwned binding
    throw error

def applyForClass (binding : Binding) (policy : Migration.Policy) : Action LifecycleError Unit :=
  if policy.appliesAt .perClass then
    orStop binding <| match binding.ownership with
      | .shared => acquire c.migrationRoot binding.handle policy
      | _ => c.migrate .apply binding.handle policy
  else pure ()

/-- What is done before a class that is open and not bound. -/
def openClass (node : ScopeNode) : Action LifecycleError Unit := do
  let decl ← c.declarationAt (← get) node
  if decl.mode = .testMethod then pure ()
  else
    validate decl
    let binding ← c.obtainForClass node decl
    c.applyForClass binding decl.migration
    c.bind node binding

/-- The hook before the methods of a class. -/
def beforeAll (node : ScopeNode) : Action LifecycleError Unit := do
  expectKind node .testClass "before_all"
  c.ensureOpen node
  -- a class that is bound is left as it is, however often it is asked for
  if (c.binding? (← get) node).isSome then pure ()
  else c.openClass node

/-- The instance for a method of its own: the external one, or a new one. -/
def obtainForMethod (node : ScopeNode) (decl : Declaration) : Action LifecycleError Binding := do
  match (← c.external?) with
  | some id => return ⟨id, .shared⟩
  | none => return ⟨← provision c.backend node (← c.keyFor (← get) decl), .owned⟩

/-- The instance of the class around a method, which is opened first. -/
def borrowFromClass (node : ScopeNode) : Action LifecycleError Binding := do
  match node.ancestor? .testClass with
  | none => throw (.configuration ("method " ++ node.path ++ " has no enclosing class"))
  | some outer =>
    c.beforeAll outer
    match c.binding? (← get) outer with
    | some binding => return ⟨binding.handle, .borrowed⟩
    | none => throw (.configuration
        ("class " ++ outer.path ++ " holds no " ++ c.backend.name ++ " resource"))

/-- Warns, once for every key, of migrations that run again on an instance that is not fresh. -/
def warnOfRepetition (decl : Declaration) (id : HandleId) : StateM State Unit := do
  let key := ((← get).handle id).key
  if decl.needsIdempotentMigrations && !(← get).warnedKeys.contains (c.name, key) then
    modify fun state => { state with warnedKeys := (c.name, key) :: state.warnedKeys }
    note (.warned (.repeatedMigrations key))

def applyForMethod (binding : Binding) (policy : Migration.Policy) : Action LifecycleError Unit :=
  if policy.appliesAt .perMethod then orStop binding (c.migrate .apply binding.handle policy)
  else pure ()

/-- What is done before a method that is open and not bound. -/
def openMethod (node : ScopeNode) : Action LifecycleError Unit := do
  let decl ← c.declarationAt (← get) node
  validate decl
  let binding ← if decl.mode = .testMethod then c.obtainForMethod node decl
    else c.borrowFromClass node
  c.warnOfRepetition decl binding.handle
  c.applyForMethod binding decl.migration
  c.bind node binding

/-- The hook before a method. -/
def beforeEach (node : ScopeNode) : Action LifecycleError Unit := do
  expectKind node .testMethod "before_each"
  c.ensureOpen node
  if (c.binding? (← get) node).isSome then pure ()
  else c.openMethod node

/-- Closes a node and takes its binding away. -/
def close (node : ScopeNode) : StateM State (Option Binding) := do
  let binding := c.binding? (← get) node
  modify fun state =>
    { state with
      finished := state.finished.put node c.backend.name ()
      bindings := state.bindings.remove node c.bindingKey }
  return binding

def dropForClass (binding : Binding) (policy : Migration.Policy) : Action LifecycleError Unit :=
  if policy.dropsAt .perClass then
    match binding.ownership with
    | .shared => release c.migrationRoot binding.handle policy
    | _ => c.migrate .drop binding.handle policy
  else pure ()

def dropForMethod (binding : Binding) (policy : Migration.Policy) : Action LifecycleError Unit :=
  if policy.dropsAt .perMethod then c.migrate .drop binding.handle policy else pure ()

/-- Does the last task for a binding. What was made for the node is stopped whether the task
succeeds or fails. -/
def settle (binding : Binding) (task : Action LifecycleError Unit) :
    Action LifecycleError Unit := do
  orStop binding task
  stopOwned binding

/-- The hook after a method. -/
def afterEach (node : ScopeNode) : Action LifecycleError Unit := do
  match (← c.close node) with
  | none => pure ()
  | some binding =>
    let decl ← c.declarationAt (← get) node
    settle binding (c.dropForMethod binding decl.migration)

/-- The hook after the methods of a class. -/
def afterAll (node : ScopeNode) : Action LifecycleError Unit := do
  match (← c.close node) with
  | none => pure ()
  | some binding =>
    -- the binding is gone already when no declaration is found
    let decl ← c.declarationAt (← get) node
    settle binding (c.dropForClass binding decl.migration)

end ScopedResources.Lifecycle.Coordinator
