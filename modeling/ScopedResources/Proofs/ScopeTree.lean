import ScopedResources.Store
import Mathlib.Data.Set.Insert

/-!
# Trees of scopes as sets of nodes

A node carries its way up to the root, so a tree is a set of nodes: with every node it holds the
nodes around it, and the number of a node tells it from all others. Every tree grows from its root
by new nodes with numbers that are not taken. -/

namespace ScopedResources

/-- A tree of scopes below the node of a run. -/
structure ScopeTree where
  nodes : Set ScopeNode
  root : ScopeNode
  root_mem : root ∈ nodes
  root_kind : root.kind = .run
  enclosing_mem : ∀ {node outer : ScopeNode}, node ∈ nodes → outer ∈ node.enclosing → outer ∈ nodes
  eq_of_number_eq : ∀ {node other : ScopeNode}, node ∈ nodes → other ∈ nodes →
    node.number = other.number → node = other

theorem ScopeNode.ancestor?_self {kind : Scope} {node : ScopeNode} (hkind : node.kind = kind) :
    node.ancestor? kind = some node := by
  obtain ⟨place, above⟩ := node
  cases above <;> exact List.find?_cons_of_pos (decide_eq_true hkind)

namespace ScopeTree

instance : Membership ScopeNode ScopeTree := ⟨fun tree node => node ∈ tree.nodes⟩

/-- The tree of a run without any class. -/
def single (name : String) : ScopeTree where
  nodes := {ScopeNode.root name}
  root := ScopeNode.root name
  root_mem := rfl
  root_kind := rfl
  enclosing_mem := by
    rintro node outer rfl houter
    simpa [ScopeNode.enclosing_root] using houter
  eq_of_number_eq := by
    rintro node other rfl rfl _
    rfl

/-- The tree with a new node below one of its nodes. -/
def grow (tree : ScopeTree) (parent : ScopeNode) (hparent : parent ∈ tree) (number : Nat)
    (hnumber : ∀ node ∈ tree.nodes, node.number ≠ number) (kind : Scope) (name : String) :
    ScopeTree where
  nodes := insert (parent.child number kind name) tree.nodes
  root := tree.root
  root_mem := Set.mem_insert_of_mem _ tree.root_mem
  root_kind := tree.root_kind
  enclosing_mem := by
    rintro node outer (rfl | hnode) houter
    · rw [ScopeNode.enclosing_child] at houter
      rcases List.mem_cons.mp houter with rfl | houter
      · exact Set.mem_insert _ _
      · exact Set.mem_insert_of_mem _ (tree.enclosing_mem hparent houter)
    · exact Set.mem_insert_of_mem _ (tree.enclosing_mem hnode houter)
  eq_of_number_eq := by
    rintro node other (rfl | hnode) (rfl | hother) hnumbers
    · rfl
    · exact absurd hnumbers.symm (hnumber other hother)
    · exact absurd hnumbers (hnumber node hnode)
    · exact tree.eq_of_number_eq hnode hother hnumbers

variable {tree : ScopeTree} {node outer : ScopeNode}

theorem number_ne_of_kind_ne (hnode : node ∈ tree) (houter : outer ∈ tree)
    (hkind : node.kind ≠ outer.kind) : node.number ≠ outer.number := by
  intro hnumber
  exact hkind (congrArg ScopeNode.kind (tree.eq_of_number_eq hnode houter hnumber))

theorem ancestor?_mem {kind : Scope} (hnode : node ∈ tree) (h : node.ancestor? kind = some outer) :
    outer ∈ tree ∧ outer.kind = kind := by
  refine ⟨tree.enclosing_mem hnode (List.mem_of_find?_eq_some h), ?_⟩
  simpa using List.find?_some h

end ScopeTree

namespace Store

variable {κ α : Type} [DecidableEq κ]

theorem isSome_find?_iff (store : Store κ α) (node : ScopeNode) (key : κ) :
    (store.find? node key).isSome ↔ ∃ outer ∈ node.enclosing, (store.get? outer key).isSome := by
  simp [find?, List.findSome?_isSome_iff]

/-- A value that a node sees is not lost by writing, wherever and whatever is written. -/
theorem isSome_find?_put {store : Store κ α} {node : ScopeNode} {key : κ}
    (h : (store.find? node key).isSome) (other : ScopeNode) (key' : κ) (value : α) :
    ((store.put other key' value).find? node key).isSome := by
  obtain ⟨outer, houter, hsome⟩ := (isSome_find?_iff ..).mp h
  refine (isSome_find?_iff ..).mpr ⟨outer, houter, ?_⟩
  rw [get?_put]
  split
  · rfl
  · exact hsome

end Store

end ScopedResources
