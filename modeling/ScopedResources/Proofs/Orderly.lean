import ScopedResources.Proofs.Accounted
import ScopedResources.Proofs.Entries
import ScopedResources.Proofs.ScopeTree

/-!
# States in order

Between two calls of a run no handle is in hand, every key of the registry stands there once, and
every binding is on a class or a method of the tree, which sees a declaration if the account is
strict. What the hooks are made of is shown here to keep a state in order, with what they make or
take in hand until it is bound, registered or stopped. -/

namespace ScopedResources.Lifecycle

/-- The account of a state is in order, with some handles in hand. -/
structure Orderly (tree : ScopeTree) (strict : Prop) (hand : List HandleId) (s : State) : Prop where
  ledger : Ledger s
  kept : Kept strict hand s
  keys : (s.registry.map Prod.fst).Nodup
  placed : ∀ {number key binding}, Assoc.find? (number, key) s.bindings.entries = some binding →
    ∃ node ∈ tree, node.number = number ∧ node.kind ≠ .run ∧
      (strict → (s.declarations.find? node key.1).isSome)

/-- Nodes hold the same bindings and declarations in both states. -/
structure SameNodes (s s' : State) : Prop where
  bindings : s'.bindings = s.bindings
  declarations : s'.declarations = s.declarations

/-- Handles may be new, but what was there is as it was. -/
structure Steady (s s' : State) : Prop extends SameNodes s s' where
  container? : ∀ id < s.handles.size, (s'.handle id).container? = (s.handle id).container?
  stopped : ∀ id < s.handles.size, (s'.handle id).stopped = (s.handle id).stopped
  registry : s'.registry = s.registry

variable {s s' s'' : State}

theorem SameNodes.refl (s : State) : SameNodes s s :=
  ⟨rfl, rfl⟩

theorem SameNodes.trans (h : SameNodes s s') (h' : SameNodes s' s'') : SameNodes s s'' :=
  ⟨h'.bindings.trans h.bindings, h'.declarations.trans h.declarations⟩

theorem Quiet.sameNodes (h : Quiet s s') : SameNodes s s' :=
  ⟨h.bindings, h.declarations⟩

theorem Quiet.steady (h : Quiet s s') : Steady s s' where
  toSameNodes := h.sameNodes
  container? id _ := h.container? id
  stopped id _ := h.stopped id
  registry := h.registry

/-- A new handle leaves those that were there as they were. -/
theorem Steady.push {handle : Handle} (hnodes : SameNodes s s') (hhandles : s'.handles = s.handles)
    (hregistry : s'.registry = s.registry) :
    Steady s { s' with handles := s'.handles.push handle } := by
  have hold : ∀ id < s.handles.size,
      ({ s' with handles := s'.handles.push handle } : State).handle id = s.handle id := by
    intro id hid
    rw [State.handle_push, if_neg (by rw [hhandles]; exact Nat.ne_of_lt hid), State.handle,
      State.handle, hhandles]
  refine ⟨⟨hnodes.bindings, hnodes.declarations⟩, ?_, ?_, hregistry⟩
  · exact fun id hid => by rw [hold id hid]
  · exact fun id hid => by rw [hold id hid]

theorem Steady.kept? (h : Steady s s') (keeper : Keeper) : s'.kept? keeper = s.kept? keeper := by
  cases keeper with
  | node number key => rw [State.kept?, State.kept?, h.bindings]
  | registry backend key => rw [State.kept?, State.kept?, h.registry]

/-- An instance that is bound or registered as made for a node is a live container. -/
def State.Running (s : State) (id : HandleId) : Prop :=
  (s.handle id).container?.isSome ∧ (s.handle id).stopped = false

/-- A handle was stopped, and its container is the one it was. -/
def Halted (id : HandleId) (s s' : State) : Prop :=
  (s'.handle id).stopped = true ∧ (s'.handle id).container? = (s.handle id).container?

theorem Quiet.halted {id : HandleId} (h : Quiet s s') (hhalted : Halted id s' s'') :
    Halted id s s'' :=
  ⟨hhalted.1, hhalted.2.trans (h.container? id)⟩

/-- The handle of a binding is in hand as long as the node it was made for does not hold it. -/
def Binding.hand (binding : Binding) : List HandleId :=
  if binding.ownership = .owned then [binding.handle] else []

namespace Orderly

variable {tree : ScopeTree} {strict : Prop} {hand : List HandleId} {id : HandleId}

theorem placed_of_sameNodes (h : Orderly tree strict hand s) (hs : SameNodes s s') {number : Nat}
    {key : String × String} {binding : Binding}
    (hfound : Assoc.find? (number, key) s'.bindings.entries = some binding) :
    ∃ node ∈ tree, node.number = number ∧ node.kind ≠ .run ∧
      (strict → (s'.declarations.find? node key.1).isSome) := by
  rw [hs.bindings] at hfound
  rw [hs.declarations]
  exact h.placed hfound

theorem quiet (h : Orderly tree strict hand s) (hs : Quiet s s') : Orderly tree strict hand s' where
  ledger := h.ledger.quiet hs
  kept := h.kept.congr hs.size hs.container? hs.stopped hs.steady.kept?
  keys := by
    rw [hs.registry]
    exact h.keys
  placed := h.placed_of_sameNodes hs.sameNodes

theorem stopping (h : Orderly tree strict (id :: hand) s) (hlive : (s.handle id).stopped = false)
    (hs : Stopping id s s') : Orderly tree strict hand s' where
  ledger := h.ledger.stopping (h.kept.held (List.mem_cons_self ..)).1 hlive hs
  kept := h.kept.stopping hs
  keys := by
    rw [hs.registry]
    exact h.keys
  placed := h.placed_of_sameNodes ⟨hs.bindings, hs.declarations⟩

theorem drop (h : Orderly tree strict (id :: hand) s) (hstopped : (s.handle id).stopped = true) :
    Orderly tree strict hand s :=
  { h with kept := h.kept.drop hstopped }

end Orderly

/-! ## Making and stopping -/

section Making

variable {tree : ScopeTree} {strict : Prop} {hand : List HandleId} {id : HandleId}

/-- What making a handle comes to: either it is in hand, or nothing is. -/
def InHand {ε : Type} (tree : ScopeTree) (strict : Prop) : Except ε HandleId → State → Prop
  | .ok id, s => Orderly tree strict [id] s
  | .error _, s => Orderly tree strict [] s

theorem provision_orderly (backend : Backend) (node : ScopeNode) (key : ResourceKey)
    (h : Orderly tree strict [] s) :
    (provision backend node key).Yields s fun r s' => Steady s s' ∧ InHand tree strict r s' ∧
      ∀ id, r = .ok id → s'.Running id := by
  refine (provision_provisioned backend node key s).mono ?_
  rintro (error | id) s' hprovided
  · obtain ⟨boxes, hnodup, hnew, hwork⟩ := hprovided
    have hsteady : Steady s s' :=
      ⟨⟨hwork.bindings, hwork.declarations⟩, fun id _ => by rw [hwork.handle],
        fun id _ => by rw [hwork.handle], hwork.registry⟩
    refine ⟨hsteady, ⟨h.ledger.working hnodup hnew hwork, ?_, ?_, ?_⟩, fun _ heq => by cases heq⟩
    · refine h.kept.congr ?_ ?_ ?_ hsteady.kept?
      · rw [hwork.handles]
      · intro id
        rw [hwork.handle]
      · intro id
        rw [hwork.handle]
    · rw [hwork.registry]
      exact h.keys
    · exact h.placed_of_sameNodes hsteady.toSameNodes
  · obtain ⟨box, handle, s₁, rfl, hnew, hthere, hwork, hbox, hlive, -, rfl⟩ := hprovided
    have hsteady : Steady s { s₁ with handles := s₁.handles.push handle } :=
      Steady.push ⟨hwork.bindings, hwork.declarations⟩ hwork.handles hwork.registry
    refine ⟨hsteady, ⟨h.ledger.provide hnew hthere hwork hbox hlive, ?_, ?_, ?_⟩, ?_⟩
    · refine h.kept.push ?_ hsteady.container? hsteady.stopped hsteady.kept?
      rw [Array.size_push, hwork.handles]
    · exact hwork.registry ▸ h.keys
    · exact h.placed_of_sameNodes hsteady.toSameNodes
    · rintro _ ⟨⟩
      unfold State.Running
      rw [State.handle_push, if_pos (by rw [hwork.handles]), hbox]
      exact ⟨rfl, hlive⟩

theorem stopOrWarn_orderly (h : Orderly tree strict (id :: hand) s) :
    Orderly tree strict hand (stopOrWarn id s).2 ∧ SameNodes s (stopOrWarn id s).2 ∧
      Halted id s (stopOrWarn id s).2 := by
  unfold stopOrWarn
  simp only [Action.step_bind]
  cases hlive : (s.handle id).stopped with
  | true =>
      rw [stopHandle_of_stopped hlive]
      exact ⟨h.drop hlive, SameNodes.refl s, hlive, rfl⟩
  | false =>
      have hs := stopHandle_stopping (h.kept.held (List.mem_cons_self ..)).1 hlive
      have hdone := h.stopping hlive hs
      have hnodes : SameNodes s (stopHandle id s).2 := ⟨hs.bindings, hs.declarations⟩
      cases (stopHandle id s).1 with
      | ok _ => exact ⟨hdone, hnodes, hs.stopped, hs.container?⟩
      | error error =>
          have hwarn := (note_sending (Event.neutral_warned
            (.stopFailed ((stopHandle id s).2.handle id).key error)) (stopHandle id s).2).quiet
          refine ⟨hdone.quiet hwarn, hnodes.trans hwarn.sameNodes, ?_, ?_⟩
          · exact (hwarn.stopped id).trans hs.stopped
          · exact (hwarn.container? id).trans hs.container?

theorem shutdownOne_of_stopped (report : Report) (hstopped : (s.handle id).stopped = true) :
    shutdownOne report id s = (report, s) :=
  congrFun (if_pos hstopped) s

theorem shutdownOne_of_live (report : Report) (hlive : (s.handle id).stopped = false) :
    (shutdownOne report id s).2 = match stopHandle id s with
      | (.ok _, s') => s'
      | (.error error, s') =>
          (note (.warned (.sharedStopFailed (s.handle id).key error)) s').2 := by
  have hnot : ¬ (s.handle id).stopped = true := by simp [hlive]
  refine (congrArg Prod.snd (congrFun (if_neg hnot) s)).trans ?_
  rw [Action.step_bind]
  rcases stopHandle id s with ⟨_ | _, s'⟩ <;> rfl

theorem shutdownOne_orderly (report : Report) (h : Orderly tree strict (id :: hand) s) :
    Orderly tree strict hand (shutdownOne report id s).2 ∧
      SameNodes s (shutdownOne report id s).2 ∧
      (shutdownOne report id s).2.registry = s.registry := by
  cases hlive : (s.handle id).stopped with
  | true =>
      rw [shutdownOne_of_stopped report hlive]
      exact ⟨h.drop hlive, SameNodes.refl s, rfl⟩
  | false =>
      rw [shutdownOne_of_live report hlive]
      have hs := stopHandle_stopping (h.kept.held (List.mem_cons_self ..)).1 hlive
      have hdone := h.stopping hlive hs
      rcases hrun : stopHandle id s with ⟨error | _, s'⟩
      · rw [hrun] at hs hdone
        have hwarn := (note_sending (Event.neutral_warned
          (.sharedStopFailed (s.handle id).key error)) s').quiet
        exact ⟨hdone.quiet hwarn, SameNodes.trans ⟨hs.bindings, hs.declarations⟩ hwarn.sameNodes,
          hwarn.registry.trans hs.registry⟩
      · rw [hrun] at hs hdone
        exact ⟨hdone, ⟨hs.bindings, hs.declarations⟩, hs.registry⟩

end Making

/-! ## Registering, binding and closing -/

section Keeping

variable {tree : ScopeTree} {strict : Prop} {hand : List HandleId} {id : HandleId}

/-- A state in which a handle is registered under a key. -/
def State.register (s : State) (backend : String) (key : ResourceKey) (id : HandleId) : State :=
  { s with registry := Assoc.insert (backend, key) id s.registry }

theorem Orderly.register {backend : String} {key : ResourceKey} (h : Orderly tree strict [id] s)
    (hstale : ∀ old, Assoc.find? (backend, key) s.registry = some old →
      (s.handle old).stopped = true) :
    Orderly tree strict [] (s.register backend key id) where
  ledger := h.ledger.congr rfl rfl rfl
  kept := by
    refine h.kept.give (.registry backend key) rfl ?_ hstale ?_ List.not_mem_nil
    · rintro (⟨number, name⟩ | ⟨backend', key'⟩)
      · rw [if_neg (by simp)]
        rfl
      · refine (Assoc.find?_insert ..).trans ?_
        by_cases heq : (backend, key) = (backend', key')
        · cases heq
          rw [if_pos rfl, if_pos rfl]
        · rw [if_neg heq, if_neg]
          · rfl
          · rintro ⟨⟩
            exact heq rfl
    · rintro number name ⟨⟩
  keys := Assoc.nodup_keys_insert h.keys _ _
  placed := h.placed

/-- A request to the registry finds the live handle and changes nothing, or it runs the factory and
registers what that makes. -/
theorem getOrCreate_yields {backend connectionType : String} {key : ResourceKey}
    {factory : Action LifecycleError HandleId} {P : Except LifecycleError HandleId → State → Prop}
    {Q : State → Prop} (hstay : Q s) (hfactory : factory.Yields s P)
    (hmade : s.live? backend key = none → ∀ id s', P (.ok id) s' → Q (s'.register backend key id))
    (hfailed : ∀ error s', P (.error error) s' → Q s') :
    (getOrCreate backend connectionType key factory).Yields s fun _ s' => Q s' := by
  unfold getOrCreate
  refine Action.Yields.get_bind ?_
  cases hlive : s.live? backend key with
  | some id =>
      refine Action.Yields.bind (P := fun _ s' => s' = s) ?_ ?_ ?_
      · unfold ofType
        refine Action.Yields.get_bind ?_
        split <;> rfl
      · rintro _ _ rfl
        exact hstay
      · rintro _ _ rfl
        exact hstay
  | none => exact hfactory.bind (hmade hlive) hfailed

theorem getOrCreate_orderly {backend connectionType : String} {key : ResourceKey}
    {factory : Action LifecycleError HandleId} (h : Orderly tree strict [] s)
    (hfactory : factory.Yields s fun r s' => Steady s s' ∧ InHand tree strict r s') :
    (getOrCreate backend connectionType key factory).Yields s fun _ s' =>
      Orderly tree strict [] s' ∧ SameNodes s s' := by
  refine getOrCreate_yields ⟨h, SameNodes.refl s⟩ hfactory ?_ ?_
  · rintro hnone id s' ⟨hsteady, hhand⟩
    -- the factory stops nothing, so a handle that is replaced was stopped before it ran
    have hstale : ∀ old, Assoc.find? (backend, key) s'.registry = some old →
        (s'.handle old).stopped = true := by
      intro old hold
      rw [hsteady.registry] at hold
      have hkeep : s.kept? (.registry backend key) = some old := hold
      have hknown := h.kept.known hkeep
      unfold State.live? at hnone
      rw [hold, Option.filter_eq_none_iff] at hnone
      rw [hsteady.stopped old hknown]
      simpa using hnone old rfl
    exact ⟨Orderly.register hhand hstale, hsteady.bindings, hsteady.declarations⟩
  · rintro error s' ⟨hsteady, hhand⟩
    exact ⟨hhand, hsteady.toSameNodes⟩

variable (c : Coordinator) {node : ScopeNode} {binding : Binding}

theorem find?_bind (s : State) (number : Nat) (key : String × String) :
    Assoc.find? (number, key) (c.bind node binding s).2.bindings.entries =
      if (node.number, c.bindingKey) = (number, key) then some binding
      else Assoc.find? (number, key) s.bindings.entries :=
  Assoc.find?_insert ..

theorem find?_close (s : State) (number : Nat) (key : String × String) :
    Assoc.find? (number, key) (c.close node s).2.bindings.entries =
      if (node.number, c.bindingKey) = (number, key) then none
      else Assoc.find? (number, key) s.bindings.entries :=
  Assoc.find?_erase ..

theorem binding?_bind (s : State) (node other : ScopeNode) (binding : Binding) :
    c.binding? (c.bind node binding s).2 other =
      if node.number = other.number then some binding else c.binding? s other := by
  refine (find?_bind c s other.number c.bindingKey).trans ?_
  simp [Coordinator.binding?, Store.get?]

theorem binding?_close (s : State) (node other : ScopeNode) :
    c.binding? (c.close node s).2 other =
      if node.number = other.number then none else c.binding? s other := by
  refine (find?_close c s other.number c.bindingKey).trans ?_
  simp [Coordinator.binding?, Store.get?]

theorem kept?_bind (s : State) (number : Nat) (key : String × String) :
    (c.bind node binding s).2.kept? (.node number key) =
      if (node.number, c.bindingKey) = (number, key) then
        ((some binding).filter (·.ownership = .owned)).map (·.handle)
      else s.kept? (.node number key) := by
  rw [State.kept?, find?_bind]
  split <;> rfl

theorem kept?_close (s : State) (number : Nat) (key : String × String) :
    (c.close node s).2.kept? (.node number key) =
      if (node.number, c.bindingKey) = (number, key) then none else s.kept? (.node number key) := by
  rw [State.kept?, find?_close]
  split <;> rfl

theorem bind_orderly (h : Orderly tree strict binding.hand s)
    (hrunning : binding.ownership = .owned → s.Running binding.handle)
    (hfree : c.binding? s node = none) (hmem : node ∈ tree) (hkind : node.kind ≠ .run)
    (hdeclared : (s.declarations.find? node c.backend.name).isSome) :
    Orderly tree strict [] (c.bind node binding s).2 where
  ledger := h.ledger.congr rfl rfl rfl
  kept := by
    have hnone : s.kept? (.node node.number c.bindingKey) = none := by
      have hfind : Assoc.find? (node.number, c.bindingKey) s.bindings.entries = none := hfree
      rw [State.kept?, hfind]
      rfl
    have hkept := h.kept
    unfold Binding.hand at hkept
    -- a node keeps only what it owns; any other binding changes nothing for the keepers
    by_cases howned : binding.ownership = .owned
    · rw [if_pos howned] at hkept
      refine hkept.give (.node node.number c.bindingKey) rfl ?_ ?_ ?_ List.not_mem_nil
      · rintro (⟨number, key⟩ | ⟨backend, key⟩)
        · rw [kept?_bind]
          by_cases heq : (node.number, c.bindingKey) = (number, key)
          · cases heq
            rw [if_pos rfl, if_pos rfl]
            simp [howned]
          · rw [if_neg heq, if_neg]
            rintro ⟨⟩
            exact heq rfl
        · rw [if_neg (by simp)]
          rfl
      · intro old hold
        rw [hnone] at hold
        cases hold
      · rintro number key ⟨⟩
        exact hrunning howned
    · rw [if_neg howned] at hkept
      refine hkept.congr rfl (fun _ => rfl) (fun _ => rfl) ?_
      rintro (⟨number, key⟩ | ⟨backend, key⟩)
      · rw [kept?_bind]
        split
        next heq =>
          cases heq
          rw [hnone]
          simp [howned]
        next => rfl
      · rfl
  keys := h.keys
  placed := by
    intro number key found hfound
    rw [find?_bind] at hfound
    split at hfound
    next heq =>
      cases heq
      exact ⟨node, hmem, rfl, hkind, fun _ => hdeclared⟩
    next => exact h.placed hfound

theorem close_orderly (node : ScopeNode) (h : Orderly tree strict [] s) :
    Orderly tree strict ((c.binding? s node).elim [] Binding.hand) (c.close node s).2 where
  ledger := h.ledger.congr rfl rfl rfl
  kept := by
    -- in hand comes what the node kept, and nothing if it owned nothing
    have hhand : ∀ id, id ∈ (c.binding? s node).elim [] Binding.hand ↔
        s.kept? (.node node.number c.bindingKey) = some id := by
      intro id
      rw [State.kept?_node_iff]
      change _ ↔ c.binding? s node = some _
      cases c.binding? s node with
      | none => simp
      | some binding =>
          obtain ⟨handle, ownership⟩ := binding
          unfold Option.elim Binding.hand
          by_cases howned : ownership = .owned <;> simp [howned, eq_comm]
    refine h.kept.take rfl ?_ ?_ ?_
    · rintro (⟨number, key⟩ | ⟨backend, key⟩) id hkeep
      · rw [kept?_close] at hkeep
        split at hkeep
        · cases hkeep
        · exact hkeep
      · exact hkeep
    · intro id hmem
      refine .inr ⟨.node node.number c.bindingKey, (hhand id).mp hmem, ?_⟩
      rw [kept?_close, if_pos rfl]
      simp
    · intro _ id
      refine ⟨fun hmem => absurd hmem List.not_mem_nil, ?_⟩
      rintro (⟨number, key⟩ | ⟨backend, key⟩) hkeep
      · rw [kept?_close]
        by_cases heq : (node.number, c.bindingKey) = (number, key)
        · cases heq
          exact .inr ((hhand id).mpr hkeep)
        · rw [if_neg heq]
          exact .inl hkeep
      · exact .inl hkeep
  keys := h.keys
  placed := by
    intro number key found hfound
    rw [find?_close] at hfound
    split at hfound
    · cases hfound
    · exact h.placed hfound

/-- What is in hand may be forgotten if the account is not strict. -/
theorem Orderly.forget (hnot : ¬ strict) (h : Orderly tree strict hand s) :
    Orderly tree strict [] s :=
  { h with
    kept := h.kept.take rfl (fun hkeep => hkeep) (fun hmem => absurd hmem List.not_mem_nil)
      fun hstrict => absurd hstrict hnot }

end Keeping

end ScopedResources.Lifecycle
