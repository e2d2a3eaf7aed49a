import ScopedResources.Proofs.Requests

/-!
# The hooks of a class in parts

Until a class is bound its before-hook only looks for an instance: what nodes declare and what they
are bound to, and how often sets of migrations are held on instances, does not change.
-/

namespace ScopedResources.Lifecycle

variable {s s' s'' : State} {node : ScopeNode}

/-- Handles may be new, but declarations and bindings, and holders of migrations, are as they were.
-/
structure Undisturbed (s s' : State) : Prop where
  size : s.handles.size ≤ s'.handles.size
  holders : ∀ id, (s'.handle id).holders = (s.handle id).holders
  bindings : s'.bindings = s.bindings
  declarations : s'.declarations = s.declarations

namespace Undisturbed

theorem refl (s : State) : Undisturbed s s :=
  ⟨Nat.le_refl _, fun _ => rfl, rfl, rfl⟩

theorem trans (h : Undisturbed s s') (h' : Undisturbed s' s'') : Undisturbed s s'' where
  size := Nat.le_trans h.size h'.size
  holders id := (h'.holders id).trans (h.holders id)
  bindings := h'.bindings.trans h.bindings
  declarations := h'.declarations.trans h.declarations

end Undisturbed

theorem Working.undisturbed {started stopped : List ContainerId}
    (h : Working started stopped s s') : Undisturbed s s' where
  size := by rw [h.handles]
  holders id := by rw [h.handle]
  bindings := h.bindings
  declarations := h.declarations

/-- Nobody holds anything on a new handle, and nobody did on its number before. -/
theorem push_undisturbed {handle : Handle} (h : handle.holders = []) (s : State) :
    Undisturbed s { s with handles := s.handles.push handle } where
  size := by simp
  holders id := by
    rw [State.handle_push]
    split
    next hid =>
      rw [h, State.handle_of_size_le s (Nat.le_of_eq hid.symm)]
      rfl
    next => rfl
  bindings := rfl
  declarations := rfl

namespace Coordinator

variable (c : Coordinator)

theorem undisturbed_provides : c.Provides Undisturbed where
  refl := .refl
  trans := .trans
  working := Working.undisturbed
  pushed := push_undisturbed
  registered _ _ _ := ⟨Nat.le_refl _, fun _ => rfl, rfl, rfl⟩

theorem obtainForClass_undisturbed (node : ScopeNode) (decl : Declaration) :
    Action.Leaves Undisturbed (c.obtainForClass node decl) :=
  c.undisturbed_provides.obtainForClass node decl

theorem obtainForMethod_undisturbed (node : ScopeNode) (decl : Declaration) :
    Action.Leaves Undisturbed (c.obtainForMethod node decl) :=
  c.undisturbed_provides.obtainForMethod node decl

theorem declarationAt_of_declarations (h : s'.declarations = s.declarations) (node : ScopeNode) :
    c.declarationAt s' node = c.declarationAt s node := by
  rw [declarationAt, declarationAt, h]

/-- What a before-hook does for a class that is not bound, up to the migrations. -/
def takeUp (node : ScopeNode) : Action LifecycleError Binding := do
  let decl ← c.declarationAt (← get) node
  validate decl
  c.obtainForClass node decl

theorem takeUp_undisturbed (node : ScopeNode) (s : State) :
    (c.takeUp node).Yields s fun _ s' => Undisturbed s s' := by
  have hrefl := Undisturbed.refl s
  refine Action.Yields.get_bind (Action.Yields.except_bind ?_ fun _ _ => hrefl)
  intro decl _
  refine Action.Yields.except_bind ?_ fun _ _ => hrefl
  exact fun _ _ => c.obtainForClass_undisturbed node decl s

theorem openClass_of_error {error : LifecycleError} (h : c.declarationAt s node = .error error) :
    c.openClass node s = (.error error, s) ∧ c.takeUp node s = (.error error, s) := by
  unfold openClass takeUp
  simp only [Action.run_bind, Action.run_get, Action.run_except, h, and_self]

theorem openClass_eq {decl : Declaration} (h : c.declarationAt s node = .ok decl)
    (hmode : decl.mode ≠ .testMethod) :
    c.openClass node s = (do
      let binding ← c.takeUp node
      c.applyForClass binding decl.migration
      c.bind node binding) s := by
  unfold openClass takeUp
  simp only [Action.run_bind, Action.run_get, Action.run_except, h, if_neg hmode]
  cases validate decl with
  | error error => rfl
  | ok _ => rfl

end Coordinator

end ScopedResources.Lifecycle
