import ScopedResources.Proofs.Requests

/-!
# What a task for a binding leaves as it was

A task for a binding runs migrations, counts who relies on them, and stops what was made for the
node if it fails. None of this changes what nodes and registry hold, or where the statements of a
handle go. -/

namespace ScopedResources.Lifecycle

/-- Nodes, registry and environment are the same in both states, and so are the handles, except that
those of the list may have been stopped. -/
structure Confined (halted : List HandleId) (s s' : State) : Prop where
  environment : s'.environment = s.environment
  declarations : s'.declarations = s.declarations
  finished : s'.finished = s.finished
  bindings : s'.bindings = s.bindings
  registry : s'.registry = s.registry
  size : s'.handles.size = s.handles.size
  container? : ∀ id, (s'.handle id).container? = (s.handle id).container?
  target : ∀ id, (s'.handle id).connection.target = (s.handle id).connection.target
  stopped : ∀ {id}, id ∉ halted → (s'.handle id).stopped = (s.handle id).stopped

variable {halted halted' : List HandleId} {s s' s'' : State} {id : HandleId}

namespace Confined

theorem refl (halted : List HandleId) (s : State) : Confined halted s s :=
  ⟨rfl, rfl, rfl, rfl, rfl, rfl, fun _ => rfl, fun _ => rfl, fun _ => rfl⟩

theorem trans (h : Confined halted s s') (h' : Confined halted s' s'') : Confined halted s s'' where
  environment := h'.environment.trans h.environment
  declarations := h'.declarations.trans h.declarations
  finished := h'.finished.trans h.finished
  bindings := h'.bindings.trans h.bindings
  registry := h'.registry.trans h.registry
  size := h'.size.trans h.size
  container? id := (h'.container? id).trans (h.container? id)
  target id := (h'.target id).trans (h.target id)
  stopped hid := (h'.stopped hid).trans (h.stopped hid)

theorem mono (h : Confined halted s s') (hsub : halted ⊆ halted') : Confined halted' s s' :=
  { h with stopped := fun hid => h.stopped fun hmem => hid (hsub hmem) }

end Confined

theorem Working.confined {started stopped : List ContainerId} (h : Working started stopped s s')
    (halted : List HandleId) : Confined halted s s' := by
  have hhandle := h.handle
  rw [h.rest] at hhandle ⊢
  exact ⟨rfl, rfl, rfl, rfl, rfl, rfl, fun id => by rw [hhandle], fun id => by rw [hhandle],
    fun _ => by rw [hhandle]⟩

theorem note_warned_confined (halted : List HandleId) (warning : Warning) (s : State) :
    Confined halted s (note (.warned warning) s).2 :=
  (note_sending (Event.neutral_warned warning) s).confined halted

theorem modifyHolders_confined (s : State) (id : HandleId)
    (change : Assoc MigrationSet Nat → Assoc MigrationSet Nat) :
    Confined [] s (s.modifyHandle id fun handle => { handle with holders := change handle.holders })
    where
  environment := rfl
  declarations := rfl
  finished := rfl
  bindings := rfl
  registry := rfl
  size := s.size_modifyHandle id _
  container? other := by
    rw [State.handle_modifyHandle]
    split <;> rfl
  target other := by
    rw [State.handle_modifyHandle]
    split <;> rfl
  stopped {other} _ := by
    rw [State.handle_modifyHandle]
    split <;> rfl

/-! ## Stopping -/

theorem closeHandle_confined (s : State) (id : HandleId) : Confined [id] s (s.closeHandle id) where
  environment := rfl
  declarations := rfl
  finished := rfl
  bindings := rfl
  registry := rfl
  size := s.size_modifyHandle id _
  container? other := by
    rw [State.handle_closeHandle]
    split <;> rfl
  target other := by
    rw [State.handle_closeHandle]
    split <;> rfl
  stopped {other} hother := by
    rw [State.handle_closeHandle, if_neg]
    rintro ⟨rfl, -⟩
    exact hother (List.mem_singleton_self _)

theorem stopHandle_confined (id : HandleId) : Action.Leaves (Confined [id]) (stopHandle id) :=
  stopHandle_leaves (Confined.refl _) .trans (fun s => closeHandle_confined s id)
    fun hwork => hwork.confined _

theorem stopOrWarn_confined (id : HandleId) (s : State) : Confined [id] s (stopOrWarn id s).2 :=
  stopOrWarn_leaves .trans (note_warned_confined _) (stopHandle_confined id) s

theorem shutdownOne_confined (report : Report) (id : HandleId) (s : State) :
    Confined [id] s (shutdownOne report id s).2 :=
  shutdownOne_leaves (Confined.refl _) .trans (note_warned_confined _) (stopHandle_confined id)
    report s

namespace Coordinator

variable (c : Coordinator) {binding : Binding} {task : Action LifecycleError Unit}

theorem stopOwned_confined (binding : Binding) (s : State) :
    Confined binding.hand s (stopOwned binding s).2 := by
  unfold stopOwned Binding.hand
  split
  next => exact stopOrWarn_confined binding.handle s
  next => exact Confined.refl _ s

theorem settle_confined (htask : Action.Leaves (Confined []) task) :
    Action.Leaves (Confined binding.hand) (settle binding task) :=
  settle_leaves .trans (stopOwned_confined binding) fun s => (htask s).mono (List.nil_subset _)

theorem confined_tends (halted : List HandleId) (id : HandleId) :
    c.Tends id (Confined halted) where
  refl := Confined.refl halted
  trans := .trans
  migrate direction policy s :=
    (migrate_sending direction c.migrationRoot id policy s).confined halted
  counted s change := (modifyHolders_confined s id change).mono (List.nil_subset _)

theorem applyForClass_confined (binding : Binding) (policy : Migration.Policy) :
    Action.Leaves (Confined binding.hand) (c.applyForClass binding policy) :=
  (c.confined_tends _ _).applyForClass (stopOwned_confined binding) policy

theorem applyForMethod_confined (binding : Binding) (policy : Migration.Policy) :
    Action.Leaves (Confined binding.hand) (c.applyForMethod binding policy) :=
  (c.confined_tends _ _).applyForMethod (stopOwned_confined binding) policy

theorem dropForClass_confined (binding : Binding) (policy : Migration.Policy) :
    Action.Leaves (Confined []) (c.dropForClass binding policy) :=
  (c.confined_tends _ _).dropForClass policy

theorem dropForMethod_confined (binding : Binding) (policy : Migration.Policy) :
    Action.Leaves (Confined []) (c.dropForMethod binding policy) :=
  (c.confined_tends _ _).dropForMethod policy

theorem warnOfRepetition_confined (decl : Declaration) (id : HandleId) (s : State) :
    Confined [] s (c.warnOfRepetition decl id s).2 := by
  rcases c.warnOfRepetition_cases decl id s with hrun | hrun
  · rw [hrun]
    exact ⟨rfl, rfl, rfl, rfl, rfl, rfl, fun _ => rfl, fun _ => rfl, fun _ => rfl⟩
  · rw [hrun]
    exact Confined.refl _ s

/-- After a node is closed its hook stops at most the instance that was made for the node. -/
theorem closeDown_confined {drop : Binding → Migration.Policy → Action LifecycleError Unit}
    (hdrop : ∀ binding policy, Action.Leaves (Confined []) (drop binding policy)) (node : ScopeNode)
    (s : State) : (c.closeDown node drop).Yields s fun _ s' =>
      Confined ((c.binding? s node).elim [] Binding.hand) (c.close node s).2 s' := by
  have hrefl : ∀ halted, Confined halted (c.close node s).2 (c.close node s).2 :=
    fun halted => Confined.refl halted _
  unfold closeDown
  refine Action.Yields.lift_bind ?_
  rw [show (c.close node s).1 = c.binding? s node from rfl]
  cases c.binding? s node with
  | none => exact hrefl _
  | some binding =>
      refine Action.Yields.get_bind (Action.Yields.except_bind ?_ fun _ _ => hrefl _)
      exact fun decl _ => settle_confined (hdrop binding _) _

end Coordinator

end ScopedResources.Lifecycle
