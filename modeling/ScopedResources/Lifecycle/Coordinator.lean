import ScopedResources.DeclarationFile
import ScopedResources.Image
import ScopedResources.Lifecycle.Provision
import ScopedResources.Lifecycle.Registry
import ScopedResources.Override

/-!
# Coordinators

A coordinator looks after one backend. It knows where external instances come from and below which
directory migrations are found; what it needs about a node it reads off the tree.
-/

namespace ScopedResources.Lifecycle

/-- One who looks after a backend. -/
structure Coordinator where
  /-- Tells coordinators of one run apart. -/
  name : String
  backend : Backend
  external : Override.Source
  migrationRoot : String

namespace Coordinator

variable (c : Coordinator)

def bindingKey : String × String :=
  (c.backend.name, c.backend.connectionType)

def binding? (state : State) (node : ScopeNode) : Option Binding :=
  state.bindings.get? node c.bindingKey

def bind (node : ScopeNode) (binding : Binding) : StateM State Unit :=
  modify fun state => { state with bindings := state.bindings.put node c.bindingKey binding }

def declarationAt (state : State) (node : ScopeNode) : Except LifecycleError Declaration :=
  match state.declarations.find? node c.backend.name with
  | some decl => .ok decl
  | none => .error (.configuration
      ("no " ++ c.backend.name ++ " resource declared for " ++ node.path))

/-- Fails if the parts of a declaration do not fit together. -/
def validate (decl : Declaration) : Except LifecycleError Unit :=
  match decl.conflict? with
  | none => .ok ()
  | some conflict => .error (.configuration conflict.message)

/-- Declares a resource on a node, for the node and everything below it. -/
def declare (node : ScopeNode) (decl : Declaration) : StateM State Unit :=
  modify fun state =>
    { state with declarations := state.declarations.put node c.backend.name decl }

/-- Declares on a node what a declaration file holds for the backend. -/
def declareFrom (node : ScopeNode) (file : DeclarationFile) : Action LifecycleError Unit := do
  match file.declaration? c.backend.name with
  | none => throw (.configuration
      ("declaration file has no " ++ c.backend.name ++ " resource"))
  | some decl => do
    validate decl
    c.declare node decl

/-- Makes containers of a test's own stand in for those of the server, at a node and below it. -/
def overrideContainer (node : ScopeNode) (override : ContainerOverride) : StateM State Unit :=
  modify fun state =>
    { state with overrides := state.overrides.put node c.backend.name override }

/-- Fails at a node whose after-hook has run, and below it. -/
def ensureOpen (node : ScopeNode) : Action LifecycleError Unit := do
  if ((← get).finished.find? node c.backend.name).isSome then
    throw (.injection c.backend.connectionType
      (node.path ++ " already finished; no " ++ c.backend.name ++ " resource is available there"))

/-- Fails at a node of another kind than a hook is for. -/
def expectKind (node : ScopeNode) (kind : Scope) (hook : String) : Except LifecycleError Unit :=
  if node.kind = kind then .ok ()
  else .error (.configuration
    (hook ++ " expects a " ++ kind.name ++ " node, got " ++ node.kind.name ++ " (" ++
      node.path ++ ")"))

/-- The key of the declared resource; a blank image stands for that of the backend. -/
def keyFor (state : State) (decl : Declaration) : Except LifecycleError ResourceKey :=
  if Text.isAllBlank decl.image then .ok (decl.keyFor c.backend.defaultImage)
  else match Image.resolve state.environment decl.image with
    | .ok image => .ok (decl.keyFor image)
    | .error fault => .error (.configuration fault.message)

/-- The parameters of the external instance in place of all containers, if there is one. -/
def externalParams? : Action LifecycleError (Option ConnectionParams) := do
  match c.external.decide (← get).environment c.backend.name c.backend.scheme with
  | .error fault => throw (.configuration fault.message)
  | .ok .unset => return none
  | .ok .incomplete =>
    note (.warned (.incompleteOverride c.backend.name))
    return none
  | .ok (.external params) => return some params

/-- The key that the handle of an external instance is registered under. -/
def externalKey (params : ConnectionParams) : ResourceKey :=
  { image := "external:" ++ params.shown }

def adoptExternal (params : ConnectionParams) : Action LifecycleError HandleId :=
  match c.backend.connectExternal params with
  | .error error => throw (startError params.shown error)
  | .ok connection => addHandle (externalHandle c.backend (externalKey params) connection)

def external? : Action LifecycleError (Option HandleId) := do
  match (← c.externalParams?) with
  | none => return none
  | some params =>
    let (id, _) ← getOrCreate c.backend.name c.backend.connectionType (externalKey params)
      (c.adoptExternal params)
    return some id

def migrate (direction : Migration.Direction) (id : HandleId) (policy : Migration.Policy) :
    Action LifecycleError Unit :=
  Lifecycle.migrate direction c.migrationRoot id policy

end Coordinator

end ScopedResources.Lifecycle
