import ScopedResources.Scope
import ScopedResources.Text.Quoted

/-!
# The tree of scopes

A test run is a tree: the run at the root, test classes below it and test methods below those. A
node knows its way up to the root, so a question about what encloses it needs no tree beside it. -/

namespace ScopedResources

/-- One place in the tree of scopes. No two places of a tree have the same number. -/
structure ScopePlace where
  number : Nat
  kind : Scope
  name : String
  deriving DecidableEq, Inhabited

/-- A node of the tree of scopes: its own place, and the places above it from the nearest to the
root. -/
structure ScopeNode where
  place : ScopePlace
  above : List ScopePlace := []
  deriving DecidableEq, Inhabited

namespace ScopeNode

def root (name : String) : ScopeNode :=
  { place := ⟨0, .run, name⟩ }

def child (node : ScopeNode) (number : Nat) (kind : Scope) (name : String) : ScopeNode :=
  { place := ⟨number, kind, name⟩, above := node.place :: node.above }

def kind (node : ScopeNode) : Scope :=
  node.place.kind

/-- The name of a node among the children of its parent. -/
def name (node : ScopeNode) : String :=
  node.place.name

/-- The number of a node, which tells it from every other node of its tree. -/
def number (node : ScopeNode) : Nat :=
  node.place.number

def parent? (node : ScopeNode) : Option ScopeNode :=
  match node.above with
  | [] => none
  | place :: above => some ⟨place, above⟩

/-- The nodes at a place and above it. -/
def nodesFrom (place : ScopePlace) : List ScopePlace → List ScopeNode
  | [] => [⟨place, []⟩]
  | next :: above => ⟨place, next :: above⟩ :: nodesFrom next above

/-- A node and everything that encloses it, from the node itself to the root. -/
def enclosing (node : ScopeNode) : List ScopeNode :=
  nodesFrom node.place node.above

/-- The nearest node of a kind, beginning with the node itself. -/
def ancestor? (kind : Scope) (node : ScopeNode) : Option ScopeNode :=
  node.enclosing.find? fun outer => outer.kind = kind

/-- The names from the root down to a node, with slashes between them. -/
def path (node : ScopeNode) : String :=
  "/".intercalate ((node.place :: node.above).reverse.map ScopePlace.name)

def diagnostic (node : ScopeNode) (size : Nat) : String :=
  "ScopeNode \x7b kind: " ++ node.kind.diagnosticName ++ ", path: " ++ Text.quoted node.path ++
    ", entries: " ++ toString size ++ " \x7d"

theorem enclosing_root (name : String) : (root name).enclosing = [root name] := rfl

theorem enclosing_child (node : ScopeNode) (number : Nat) (kind : Scope) (name : String) :
    (node.child number kind name).enclosing = node.child number kind name :: node.enclosing := rfl

end ScopeNode

end ScopedResources
