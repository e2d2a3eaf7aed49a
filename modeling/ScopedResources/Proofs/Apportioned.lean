import ScopedResources.Proofs.Confined
import Mathlib.Logic.Function.Basic

/-!
# Whose instance a node uses

What a node sees declared says whose instance it uses: its own, that of the class around it, or the
one that stands for a key in the whole run. The book of a run says which handle belongs to which
owner. It is only ever added to, no handle belongs to two owners, and every binding is as the book
says. -/

namespace ScopedResources

namespace ScopeNode

theorem enclosing_eq_cons (node : ScopeNode) : ∃ outside, node.enclosing = node :: outside := by
  obtain ⟨place, above⟩ := node
  cases above with
  | nil => exact ⟨[], rfl⟩
  | cons next above => exact ⟨nodesFrom next above, rfl⟩

end ScopeNode

namespace Store

variable {κ α : Type} [DecidableEq κ] {store : Store κ α} {node outer : ScopeNode} {key : κ}

theorem get?_eq_none_of_find? (h : store.find? node key = none) : store.get? node key = none := by
  obtain ⟨outside, henclosing⟩ := node.enclosing_eq_cons
  unfold find? at h
  rw [henclosing, List.findSome?_eq_none_iff] at h
  exact h node (List.mem_cons_self ..)

end Store

namespace Lifecycle

/-- Whose instance a node uses. -/
inductive Owner where
  /-- The instance was made for the node with this number. -/
  | node (number : Nat)
  /-- The instance stands for the key as long as the run. -/
  | key (key : ResourceKey)
  deriving DecidableEq

namespace Coordinator

variable (c : Coordinator)

/-- How far the instance is shared that a node sees declared. -/
def mode? (s : State) (node : ScopeNode) : Option Scope :=
  (s.declarations.find? node c.backend.name).map Declaration.mode

/-- The key of the instance that a node sees declared for the run. -/
def runKey? (s : State) (node : ScopeNode) : Option ResourceKey :=
  (s.declarations.find? node c.backend.name).bind fun decl =>
    if decl.mode = .run then (c.keyFor s decl).toOption else none

/-- Whose instance a node uses, if it uses any: a class has none of its methods' own. -/
def owner? (s : State) (node : ScopeNode) : Option Owner :=
  (c.mode? s node).bind fun
    | .testMethod => if node.kind = .testMethod then some (.node node.number) else none
    | .testClass => (node.ancestor? .testClass).map fun outer => .node outer.number
    | .run => (c.runKey? s node).map .key

variable {c} {s s' : State} {node outer : ScopeNode} {decl : Declaration}

theorem runKey?_congr (henvironment : s'.environment = s.environment)
    (hfind : s'.declarations.find? node c.backend.name =
      s.declarations.find? outer c.backend.name) :
    c.runKey? s' node = c.runKey? s outer := by
  unfold runKey?
  simp only [hfind, c.keyFor_congr henvironment]

theorem owner?_congr (henvironment : s'.environment = s.environment)
    (hdeclarations : s'.declarations = s.declarations) : c.owner? s' node = c.owner? s node := by
  unfold owner? mode?
  rw [runKey?_congr henvironment (by rw [hdeclarations]), hdeclarations]

theorem owner?_push (c : Coordinator) (s : State) (handle : Handle) (node : ScopeNode) :
    c.owner? { s with handles := s.handles.push handle } node = c.owner? s node :=
  owner?_congr rfl rfl

theorem owner?_register (c : Coordinator) (s : State) (backend : String) (key : ResourceKey)
    (id : HandleId) (node : ScopeNode) :
    c.owner? (s.register backend key id) node = c.owner? s node :=
  owner?_congr rfl rfl

theorem owner?_bind (c : Coordinator) (s : State) (bound : ScopeNode) (binding : Binding)
    (node : ScopeNode) : c.owner? (c.bind bound binding s).2 node = c.owner? s node :=
  owner?_congr rfl rfl

theorem owner?_close (c : Coordinator) (s : State) (closed node : ScopeNode) :
    c.owner? (c.close closed s).2 node = c.owner? s node :=
  owner?_congr rfl rfl

theorem mode?_of_declared (hdecl : s.declarations.find? node c.backend.name = some decl) :
    c.mode? s node = some decl.mode := by
  unfold mode?
  rw [hdecl]
  rfl

theorem declared_of_declarationAt (h : c.declarationAt s node = .ok decl) :
    s.declarations.find? node c.backend.name = some decl := by
  unfold declarationAt at h
  split at h
  next hfound =>
    cases h
    exact hfound
  next => cases h

end Coordinator

/-- Statements that go anywhere go to the container of the handle. -/
def Handle.Aimed (handle : Handle) : Prop :=
  ∃ box, handle.container? = some box ∧
    (handle.connection.target = .container box.2 ∨ handle.connection.target = .nowhere)

/-- Handles, registry and bindings are as the book says. -/
structure Apportioned (tree : ScopeTree) (c : Coordinator) (environment : Environment)
    (book : Owner → Option HandleId) (s : State) : Prop where
  environment : s.environment = environment
  undeclared : ∀ {node}, node ∈ tree → node.kind = .testMethod →
    s.declarations.get? node c.backend.name = none
  known : ∀ {owner id}, book owner = some id → id < s.handles.size
  unique : ∀ {owner owner' id}, book owner = some id → book owner' = some id → owner = owner'
  registered : ∀ key, Assoc.find? (c.backend.name, key) s.registry = book (.key key)
  live : ∀ {key id}, book (.key key) = some id → (s.handle id).stopped = false
  bound : ∀ {node binding}, node ∈ tree → c.binding? s node = some binding →
    ∃ owner, c.owner? s node = some owner ∧ book owner = some binding.handle ∧
      (binding.ownership = .owned → owner = .node node.number)
  /-- A node gets an instance of its own once, since an after-hook closes it for good. -/
  taken : ∀ {node}, node ∈ tree → (book (.node node.number)).isSome →
    (c.binding? s node).isSome ∨ (s.finished.get? node c.backend.name).isSome
  aimed : ∀ id < s.handles.size, (s.handle id).Aimed

/-- An instance that a node may be bound to. -/
inductive Offered (c : Coordinator) (book : Owner → Option HandleId) (s : State)
    (node : ScopeNode) : Binding → Prop where
  /-- It was made for the node, and nobody has it yet. -/
  | own {id : HandleId} (hid : id < s.handles.size)
    (howner : c.owner? s node = some (.node node.number)) (hnone : book (.node node.number) = none)
    (hnew : ∀ owner, book owner ≠ some id) : Offered c book s node ⟨id, .owned⟩
  /-- It belongs to the owner whose instance the node uses. -/
  | common {id : HandleId} {ownership : Ownership} {owner : Owner} (hshared : ownership ≠ .owned)
    (howner : c.owner? s node = some owner) (hbook : book owner = some id) :
    Offered c book s node ⟨id, ownership⟩

variable {tree : ScopeTree} {c : Coordinator} {environment : Environment}
variable {book : Owner → Option HandleId} {s s' : State} {node : ScopeNode} {binding : Binding}
variable {id : HandleId} {key : ResourceKey}

theorem Offered.confined {halted : List HandleId} (h : Offered c book s node binding)
    (hs : Confined halted s s') : Offered c book s' node binding := by
  have howner : c.owner? s' node = c.owner? s node :=
    Coordinator.owner?_congr hs.environment hs.declarations
  cases h with
  | own hid hnode hnone hnew => exact .own (hs.size ▸ hid) (howner.trans hnode) hnone hnew
  | common hshared hnode hbook => exact .common hshared (howner.trans hnode) hbook

theorem Offered.spared (h : Offered c book s node binding) (hkey : book (.key key) = some id) :
    id ∉ binding.hand := by
  cases h with
  | own hid howner hnone hnew =>
      intro hmem
      rw [Binding.hand, if_pos rfl, List.mem_singleton] at hmem
      subst hmem
      exact hnew _ hkey
  | common hshared howner hbook =>
      rw [Binding.hand, if_neg hshared]
      exact List.not_mem_nil

namespace Apportioned

/-- Handles of the run are not stopped by what is done for a binding. -/
theorem confined {halted : List HandleId} (h : Apportioned tree c environment book s)
    (hs : Confined halted s s') (hspared : ∀ {key id}, book (.key key) = some id → id ∉ halted) :
    Apportioned tree c environment book s' where
  environment := hs.environment.trans h.environment
  undeclared hmem hkind := by
    rw [hs.declarations]
    exact h.undeclared hmem hkind
  known hbook := by
    rw [hs.size]
    exact h.known hbook
  unique := h.unique
  registered key := by
    rw [hs.registry]
    exact h.registered key
  live hbook := by
    rw [hs.stopped (hspared hbook)]
    exact h.live hbook
  bound hmem hbinding := by
    rw [Coordinator.binding?, hs.bindings] at hbinding
    rw [Coordinator.owner?_congr hs.environment hs.declarations]
    exact h.bound hmem hbinding
  taken hmem hbook := by
    rw [Coordinator.binding?, hs.bindings, hs.finished]
    exact h.taken hmem hbook
  aimed id hid := by
    rw [hs.size] at hid
    unfold Handle.Aimed
    rw [hs.container?, hs.target]
    exact h.aimed id hid

/-- A new handle belongs to nobody yet. -/
theorem push {handle : Handle} (h : Apportioned tree c environment book s) (haimed : handle.Aimed) :
    Apportioned tree c environment book { s with handles := s.handles.push handle } where
  environment := h.environment
  undeclared := h.undeclared
  known hbook := by
    rw [Array.size_push]
    exact Nat.lt_succ_of_lt (h.known hbook)
  unique := h.unique
  registered := h.registered
  live hbook := by
    rw [State.handle_push, if_neg (Nat.ne_of_lt (h.known hbook))]
    exact h.live hbook
  bound hmem hbinding := by
    obtain ⟨owner, howner, hbook⟩ := h.bound hmem hbinding
    exact ⟨owner, (Coordinator.owner?_push ..).trans howner, hbook⟩
  taken := h.taken
  aimed id hid := by
    rw [State.handle_push]
    split
    next => exact haimed
    next hne =>
      rw [Array.size_push, Nat.lt_succ_iff_lt_or_eq] at hid
      exact h.aimed id (hid.resolve_right hne)

theorem known_update (h : Apportioned tree c environment book s) {owner other : Owner}
    {id' : HandleId} (hid : id < s.handles.size)
    (hbook : Function.update book owner (some id) other = some id') : id' < s.handles.size := by
  rw [Function.update_apply] at hbook
  split at hbook
  next =>
    cases hbook
    exact hid
  next => exact h.known hbook

theorem unique_update (h : Apportioned tree c environment book s) {owner first second : Owner}
    {id' : HandleId} (hnew : ∀ owner, book owner ≠ some id)
    (hfirst : Function.update book owner (some id) first = some id')
    (hsecond : Function.update book owner (some id) second = some id') : first = second := by
  rw [Function.update_apply] at hfirst hsecond
  split at hfirst
  next hto =>
    cases hfirst
    split at hsecond
    next hto' => rw [hto, hto']
    next => exact absurd hsecond (hnew second)
  next =>
    split at hsecond
    next =>
      cases hsecond
      exact absurd hfirst (hnew first)
    next => exact h.unique hfirst hsecond

/-- What belongs to others is not touched by an entry for an owner that has none. -/
theorem update_of_some {owner other : Owner} {id' : HandleId} (hnone : book owner = none)
    (hbook : book other = some id') (entry : Option HandleId) :
    Function.update book owner entry other = some id' := by
  rw [Function.update_of_ne, hbook]
  rintro rfl
  cases hnone.symm.trans hbook

theorem register (h : Apportioned tree c environment book s) (hid : id < s.handles.size)
    (hnew : ∀ owner, book owner ≠ some id) (hlive : (s.handle id).stopped = false)
    (hnone : book (.key key) = none) :
    Apportioned tree c environment (Function.update book (.key key) (some id))
      (s.register c.backend.name key id) where
  environment := h.environment
  undeclared := h.undeclared
  known := h.known_update hid
  unique := h.unique_update hnew
  registered other := by
    refine (Assoc.find?_insert ..).trans ?_
    rw [Function.update_apply, h.registered]
    by_cases heq : key = other
    · rw [if_pos (by rw [heq]), if_pos (by rw [heq])]
    · rw [if_neg (by simpa using heq), if_neg]
      rintro ⟨⟩
      exact heq rfl
  live {other id'} hbook := by
    change (s.handle id').stopped = false
    rw [Function.update_apply] at hbook
    split at hbook
    next =>
      cases hbook
      exact hlive
    next => exact h.live hbook
  bound hmem hbinding := by
    obtain ⟨owner, howner, hbook, howned⟩ := h.bound hmem hbinding
    rw [Coordinator.owner?_register]
    exact ⟨owner, howner, update_of_some hnone hbook _, howned⟩
  taken hmem hbook := by
    rw [Function.update_of_ne (by simp)] at hbook
    exact h.taken hmem hbook
  aimed := h.aimed

theorem isSome_binding?_bind {other : ScopeNode} (h : (c.binding? s other).isSome)
    (node : ScopeNode) (binding : Binding) :
    (c.binding? (c.bind node binding s).2 other).isSome := by
  rw [binding?_bind]
  split
  next => rfl
  next => exact h

/-- A node is bound to an instance of its own, which the book says from then on. -/
theorem bind_own (h : Apportioned tree c environment book s) (hmem : node ∈ tree)
    (hid : id < s.handles.size) (howner : c.owner? s node = some (.node node.number))
    (hnone : book (.node node.number) = none) (hnew : ∀ owner, book owner ≠ some id) :
    Apportioned tree c environment (Function.update book (.node node.number) (some id))
      (c.bind node ⟨id, .owned⟩ s).2 where
  environment := h.environment
  undeclared := h.undeclared
  known := h.known_update hid
  unique := h.unique_update hnew
  registered key := by
    rw [Function.update_of_ne (by simp)]
    exact h.registered key
  live hbook := by
    rw [Function.update_of_ne (by simp)] at hbook
    exact h.live hbook
  bound {other found} hother hfound := by
    rw [Coordinator.owner?_bind]
    rw [binding?_bind] at hfound
    split at hfound
    next hnumber =>
      obtain rfl := tree.eq_of_number_eq hmem hother hnumber
      cases hfound
      exact ⟨_, howner, Function.update_self .., fun _ => rfl⟩
    next =>
      obtain ⟨owner, howner', hbook, howned⟩ := h.bound hother hfound
      exact ⟨owner, howner', update_of_some hnone hbook _, howned⟩
  taken {other} hother hbook := by
    by_cases hnumber : node.number = other.number
    · rw [binding?_bind, if_pos hnumber]
      exact .inl rfl
    · have hne : Owner.node other.number ≠ .node node.number :=
        fun heq => hnumber (Owner.node.inj heq).symm
      rw [Function.update_of_ne hne] at hbook
      exact (h.taken hother hbook).imp_left fun hsome => isSome_binding?_bind hsome ..
  aimed := h.aimed

/-- A node is bound to the instance of its owner. -/
theorem bind_common (h : Apportioned tree c environment book s) (hmem : node ∈ tree)
    {owner : Owner} (hshared : binding.ownership ≠ .owned) (howner : c.owner? s node = some owner)
    (hbook : book owner = some binding.handle) :
    Apportioned tree c environment book (c.bind node binding s).2 where
  environment := h.environment
  undeclared := h.undeclared
  known := h.known
  unique := h.unique
  registered := h.registered
  live := h.live
  bound {other found} hother hfound := by
    rw [Coordinator.owner?_bind]
    rw [binding?_bind] at hfound
    split at hfound
    next hnumber =>
      obtain rfl := tree.eq_of_number_eq hmem hother hnumber
      cases hfound
      exact ⟨owner, howner, hbook, fun howned => absurd howned hshared⟩
    next => exact h.bound hother hfound
  taken hother hbook :=
    (h.taken hother hbook).imp_left fun hsome => isSome_binding?_bind hsome ..
  aimed := h.aimed

theorem bind (h : Apportioned tree c environment book s) (hmem : node ∈ tree)
    (hoffered : Offered c book s node binding) :
    ∃ book', Apportioned tree c environment book' (c.bind node binding s).2 := by
  cases hoffered with
  | own hid howner hnone hnew => exact ⟨_, h.bind_own hmem hid howner hnone hnew⟩
  | common hshared howner hbook => exact ⟨book, h.bind_common hmem hshared howner hbook⟩

/-- A node that is closed has had its instance. -/
theorem close (h : Apportioned tree c environment book s) (node : ScopeNode) :
    Apportioned tree c environment book (c.close node s).2 where
  environment := h.environment
  undeclared := h.undeclared
  known := h.known
  unique := h.unique
  registered := h.registered
  live := h.live
  bound hmem hbinding := by
    rw [Coordinator.owner?_close]
    rw [binding?_close] at hbinding
    split at hbinding
    · cases hbinding
    · exact h.bound hmem hbinding
  taken {other} hmem hbook := by
    have hfinished : (c.close node s).2.finished = s.finished.put node c.backend.name () := rfl
    rw [binding?_close, hfinished, Store.get?_put]
    by_cases hnumber : node.number = other.number
    · rw [if_pos hnumber, if_pos ⟨hnumber, rfl⟩]
      exact .inr rfl
    · rw [if_neg hnumber, if_neg fun hboth => hnumber hboth.1]
      exact h.taken hmem hbook
  aimed := h.aimed

end Apportioned

end Lifecycle

end ScopedResources
