import ScopedResources.Assoc
import ScopedResources.ScopeNode

/-!
# Values on the nodes of a tree

Every node holds values under keys. Writing stays on the node; looking for a value goes outward, so
a method sees what its class or the run holds unless something nearer is in the way. -/

namespace ScopedResources

/-- Values under keys of type `κ` on the nodes of a tree. -/
structure Store (κ α : Type) where
  entries : Assoc (Nat × κ) α := []
  deriving Inhabited

namespace Store

variable {κ α : Type} [DecidableEq κ]

def put (store : Store κ α) (node : ScopeNode) (key : κ) (value : α) : Store κ α :=
  ⟨Assoc.insert (node.number, key) value store.entries⟩

/-- The value on the node itself. -/
def get? (store : Store κ α) (node : ScopeNode) (key : κ) : Option α :=
  Assoc.find? (node.number, key) store.entries

/-- The value on the node or on the nearest enclosing node that has one. -/
def find? (store : Store κ α) (node : ScopeNode) (key : κ) : Option α :=
  node.enclosing.findSome? fun outer => store.get? outer key

def remove (store : Store κ α) (node : ScopeNode) (key : κ) : Store κ α :=
  ⟨Assoc.erase (node.number, key) store.entries⟩

def clear (store : Store κ α) (node : ScopeNode) : Store κ α :=
  ⟨store.entries.filter fun entry => entry.1.1 ≠ node.number⟩

def size (store : Store κ α) (node : ScopeNode) : Nat :=
  store.entries.countP fun entry => entry.1.1 = node.number

theorem get?_put (store : Store κ α) (node other : ScopeNode) (key key' : κ) (value : α) :
    (store.put node key value).get? other key' =
      if node.number = other.number ∧ key = key' then some value else store.get? other key' := by
  simp [get?, put, Assoc.find?_insert]

theorem get?_remove (store : Store κ α) (node other : ScopeNode) (key key' : κ) :
    (store.remove node key).get? other key' =
      if node.number = other.number ∧ key = key' then none else store.get? other key' := by
  simp [get?, remove, Assoc.find?_erase]

end Store

end ScopedResources
