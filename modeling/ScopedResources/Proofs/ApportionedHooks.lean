import ScopedResources.Proofs.Apportioned

/-!
# Hooks go by the book

As long as no external instance is used, every hook keeps to the book. An instance of the run is
made when its key is asked for first and is found whenever it is asked for again. What is made for a
node belongs to the node from the moment the node is bound to it. A method borrows what belongs to
the owner whose instance its class uses, and that is the owner whose instance the method itself
uses. -/

namespace ScopedResources.Lifecycle

variable {tree : ScopeTree} {c : Coordinator} {environment : Environment}
variable {book : Owner → Option HandleId} {s s' : State} {node outer : ScopeNode}
variable {decl : Declaration}
variable {key : ResourceKey}

/-! ## Where connections go -/

/-- The results of a task of a server satisfy a property. -/
def Returns {α : Type} (P : α → Prop) (task : Memory.Task α) : Prop :=
  ∀ server a, (task server).1 = .ok a → P a

theorem Returns.bind {α β : Type} {P : α → Prop} {Q : β → Prop} {task : Memory.Task α}
    {f : α → Memory.Task β} (htask : Returns P task) (hf : ∀ a, P a → Returns Q (f a)) :
    Returns Q (task >>= f) := by
  intro server b hb
  have hfirst := htask server
  rw [Action.run_bind] at hb
  rcases hrun : task server with ⟨error | a, next⟩
  · rw [hrun] at hb
    cases hb
  · rw [hrun] at hb hfirst
    exact hf a (hfirst a rfl) next b hb

namespace Coordinator

/-- A state of a run that has gone by some book. -/
def Settled (tree : ScopeTree) (c : Coordinator) (environment : Environment) (s : State) : Prop :=
  ∃ book, Apportioned tree c environment book s

end Coordinator

end ScopedResources.Lifecycle
