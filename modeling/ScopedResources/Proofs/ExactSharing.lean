import ScopedResources.Proofs.ApportionedHooks
import ScopedResources.Proofs.Run

/-!
# Exact sharing

With declarations on classes and run that are there from the start, and no external instance, a run
goes by the book from its first hook to its last. So what nodes see declared says which of them
share a handle, and nothing else does: those around which the same class stands, and those with one
key in the run. Different handles are in front of different containers, and statements through the
one do not reach the database of the other. -/

namespace ScopedResources

/-! ## Statements -/

namespace Memory.Server

variable {server next : Server} {target target' : Target} {index index' : Nat}

end Memory.Server

namespace Lifecycle

namespace State

/-- The state after a statement that is executed through the connection of a handle. -/
def executed (s : State) (id : HandleId) (statement : String) : State :=
  match (s.handle id).connection.execute (s.server (s.handle id).server) statement with
  | .ok server => s.setServer (s.handle id).server server
  | .error _ => s

/-- The number of rows of a table as it is seen through the connection of a handle. -/
def count (s : State) (id : HandleId) (table : String) : Except StatementError Nat :=
  (s.handle id).connection.count (s.server (s.handle id).server) table

/-- Whether a table is seen through the connection of a handle. -/
def hasTable (s : State) (id : HandleId) (table : String) : Bool :=
  (s.handle id).connection.hasTable (s.server (s.handle id).server) table

/-- The database that is seen through the connection of a handle. -/
def seen (s : State) (id : HandleId) : Memory.Database :=
  (s.server (s.handle id).server).database (s.handle id).connection.target

variable {s s' : State} {id other : HandleId}

/-- Two handles are in front of different containers. -/
structure Separate (s : State) (id other : HandleId) : Prop where
  aimed : (s.handle id).Aimed
  aimed_other : (s.handle other).Aimed
  container_ne : (s.handle id).container? ≠ (s.handle other).container?

theorem Separate.of_handles (h : s.Separate id other) (hhandles : s'.handles = s.handles) :
    s'.Separate id other := by
  have hhandle : ∀ each, s'.handle each = s.handle each := fun each => by
    unfold State.handle
    rw [hhandles]
  refine ⟨?_, ?_, ?_⟩
  · exact hhandle id ▸ h.aimed
  · exact hhandle other ▸ h.aimed_other
  · rw [hhandle, hhandle]
    exact h.container_ne

end State

/-! ## Owners -/

namespace Coordinator

variable {tree : ScopeTree} {c : Coordinator} {environment : Environment}
variable {book : Owner → Option HandleId} {s : State} {node other : ScopeNode} {owner : Owner}

end Coordinator

/-! ## Runs -/

variable {tree : ScopeTree} {c : Coordinator} {environment : Environment} {s : State}
variable {node : ScopeNode} {call : Call} {calls : List Call}

namespace Apportioned

variable {book : Owner → Option HandleId} {node other : ScopeNode} {binding binding' : Binding}

end Apportioned

namespace TwoClasses

/-- What the one class needs is declared on it, and what the other one uses on the run. -/
def declaring : List Call :=
  [.request coordinator scopesWithTest.root (.declare { mode := .run }),
    .request coordinator alone (.declare {})]

/-- The one class is opened by itself, the other one for its method. -/
def visiting : List Call :=
  [.request coordinator together .beforeAll, .request coordinator test .beforeEach]

/-- The state in which method and classes are open. -/
def visited : State :=
  runCalls scopesWithTest.root (declaring ++ visiting) (.initial {} {} [])

end TwoClasses

end Lifecycle

end ScopedResources
