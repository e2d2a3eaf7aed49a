import ScopedResources.Proofs.Confined
import ScopedResources.Proofs.Entering
import ScopedResources.Proofs.Run
import ScopedResources.Proofs.Trace

/-!
# The course of a run

Besides the calls of a run, tests make new nodes, stop handles that they were given, close
connections and may shut the registry down before the end. Whatever happens, marks stay on classes
and methods; a new binding was opened, and a set of migrations that is newly held was applied, by a
request. -/

namespace ScopedResources.Lifecycle

open Trace

/-- Something that happens in the course of a run. -/
inductive Act where
  | call (call : Call)
  /-- A node is added to the tree. -/
  | grow (parent : ScopeNode) (kind : Scope) (name : String)
  /-- A handle is stopped by a test. -/
  | stop (id : HandleId)
  /-- The connection of a handle is closed by a test. -/
  | disconnect (id : HandleId)
  /-- The registry is shut down, and the run goes on. -/
  | shutdown

namespace Act

/-- The state after an act in a run with this root. -/
def perform (root : ScopeNode) (s : State) : Act → State
  | .call made => made.perform root s
  | .grow parent kind name => (newNode parent kind name s).2
  | .stop id => (stopHandle id s).2
  | .disconnect id => s.modifyHandle id fun handle =>
      { handle with connection := handle.connection.close }
  | .shutdown => (Lifecycle.shutdown s).2

/-- An act at a node of the tree, or at none. -/
def Within (tree : ScopeTree) : Act → Prop
  | .call made => made.Within tree
  | _ => True

/-- What may happen without an end to anything: no after-hook, no stop and no end of the run. -/
def Calm : Act → Prop
  | .call (.request _ _ .afterEach) | .call (.request _ _ .afterAll) | .call .finish => False
  | .stop _ | .shutdown => False
  | _ => True

end Act

/-- The state after some acts. -/
abbrev course (root : ScopeNode) (s : State) (acts : List Act) : State :=
  outcome (Act.perform root) s acts

variable {tree : ScopeTree} {s s' s'' : State} {node : ScopeNode} {id : HandleId}
variable {set : MigrationSet}
variable {binding : Binding} {act : Act}

/-- What any act does to marks, bindings and those who rely on migrations. -/
structure Advance (tree : ScopeTree) (act : Act) (s s' : State) : Prop where
  marked : ∀ {node key}, node ∈ tree → node.kind ≠ .run → (s.finished.get? node key).isSome →
    (s'.finished.get? node key).isSome
  bound : ∀ {place binding}, Assoc.find? place s'.bindings.entries = some binding →
    Assoc.find? place s.bindings.entries = some binding ∨
      ∃ c node asked opened, act = .call (.request c node asked) ∧ MayOpen node opened ∧
        opened ∈ tree ∧ place = (opened.number, c.bindingKey) ∧ c.Opens s opened binding
  held : ∀ {id set}, s'.Holds id set → s.Holds id set ∨
    ∃ c node asked, act = .call (.request c node asked) ∧ c.Acquires s id set

/-- Nothing is bound or held that was not so before, and all marks stay. -/
structure Waning (s s' : State) : Prop where
  marked : ∀ {node key}, (s.finished.get? node key).isSome → (s'.finished.get? node key).isSome
  bound : ∀ {place binding}, Assoc.find? place s'.bindings.entries = some binding →
    Assoc.find? place s.bindings.entries = some binding
  held : ∀ {id set}, s'.Holds id set → s.Holds id set

namespace Waning

theorem refl (s : State) : Waning s s :=
  ⟨fun h => h, fun h => h, fun h => h⟩

theorem trans (h : Waning s s') (h' : Waning s' s'') : Waning s s'' :=
  ⟨fun hmark => h'.marked (h.marked hmark), fun hfound => h.bound (h'.bound hfound),
    fun hholds => h.held (h'.held hholds)⟩

theorem of_eq (hfinished : s'.finished = s.finished) (hbindings : s'.bindings = s.bindings)
    (hheld : ∀ {id set}, s'.Holds id set → s.Holds id set) : Waning s s' where
  marked hmark := by rwa [hfinished]
  bound hfound := by rwa [hbindings] at hfound
  held := hheld

theorem advance (h : Waning s s') (tree : ScopeTree) (act : Act) : Advance tree act s s' :=
  ⟨fun _ _ hmark => h.marked hmark, fun hfound => .inl (h.bound hfound),
    fun hholds => .inl (h.held hholds)⟩

end Waning

theorem Entering.advance {c : Coordinator} (h : Entering c node s s') (hmem : node ∈ tree)
    (asked : Request) : Advance tree (.call (.request c node asked)) s s' where
  marked _ _ hmark := by rwa [h.finished]
  bound hfound := by
    rcases h.bound hfound with hbefore | ⟨opened, hmay, hplace, hopens⟩
    · exact .inl hbefore
    · exact .inr ⟨c, node, asked, opened, rfl, hmay, hmay.mem hmem, hplace, hopens⟩
  held hholds := (h.held hholds).imp_right fun hacquires => ⟨c, node, asked, rfl, hacquires⟩

/-! ## Stopping and letting go -/

theorem Working.waning {started stopped : List ContainerId} (h : Working started stopped s s') :
    Waning s s' :=
  .of_eq (by rw [h.rest]) h.bindings h.sameHolders.holds.mp

theorem migrate_waning (direction : Migration.Direction) (root : String) (id : HandleId)
    (policy : Migration.Policy) : Action.Leaves Waning (migrate direction root id policy) :=
  fun s => (migrate_sending direction root id policy s).waning

theorem stopHandle_waning (id : HandleId) : Action.Leaves Waning (stopHandle id) := by
  intro s
  have hholders := stopHandle_sameHolders id s
  obtain ⟨_, _, _, hrest⟩ := stopHandle_rest id s
  exact .of_eq (by rw [hrest]) (by rw [hrest]) hholders.holds.mp

theorem note_warned_waning (warning : Warning) (s : State) :
    Waning s (note (.warned warning) s).2 :=
  (note_sending (Event.neutral_warned warning) s).waning

theorem stopOrWarn_waning (id : HandleId) (s : State) : Waning s (stopOrWarn id s).2 :=
  stopOrWarn_leaves .trans note_warned_waning (stopHandle_waning id) s

theorem release_waning (root : String) (id : HandleId) (policy : Migration.Policy) :
    Action.Leaves Waning (release root id policy) := by
  intro s
  unfold release
  simp only [Action.run_bind, Action.run_get]
  split
  next hremain =>
    refine .of_eq rfl rfl fun {other set} hholds => ?_
    rcases holds_insert hholds with hbefore | ⟨hid, hset⟩
    · exact hbefore
    · -- some remain only if there were holders before
      rw [State.Holds, hid, ← hset]
      cases hfound : Assoc.find? (migrationSet policy) (s.handle id).holders with
      | some _ => rfl
      | none =>
          rw [hfound] at hremain
          exact absurd hremain (by decide)
  next =>
    have herased : Waning s (s.modifyHandle id fun handle =>
        { handle with holders := Assoc.erase (migrationSet policy) handle.holders }) :=
      .of_eq rfl rfl fun hholds => holds_erase hholds
    rw [Action.run_bind]
    exact herased.trans (migrate_waning .drop root id policy _)

namespace Coordinator

variable (c : Coordinator) {task : Action LifecycleError Unit}

theorem settle_waning (htask : Action.Leaves Waning task) :
    Action.Leaves Waning (settle binding task) :=
  settle_leaves .trans (stopOwned_leaves Waning.refl (stopOrWarn_waning binding.handle)) htask

theorem dropForClass_waning (binding : Binding) (policy : Migration.Policy) :
    Action.Leaves Waning (c.dropForClass binding policy) := by
  unfold dropForClass
  split
  next =>
    cases binding.ownership with
    | shared => exact release_waning _ _ _
    | owned => exact migrate_waning _ _ _ _
    | borrowed => exact migrate_waning _ _ _ _
  next => exact Waning.refl

theorem dropForMethod_waning (binding : Binding) (policy : Migration.Policy) :
    Action.Leaves Waning (c.dropForMethod binding policy) := by
  unfold dropForMethod
  split
  next => exact migrate_waning _ _ _ _
  next => exact Waning.refl

theorem close_waning (node : ScopeNode) (s : State) : Waning s (c.close node s).2 where
  marked {other key} hmark := by
    change ((s.finished.put node c.backend.name ()).get? other key).isSome
    rw [Store.get?_put]
    split
    · rfl
    · exact hmark
  bound {place found} hfound := by
    obtain ⟨number, key⟩ := place
    rw [find?_close] at hfound
    split at hfound
    · cases hfound
    · exact hfound
  held h := h

/-- What follows once the node is closed. -/
theorem closeDown_waning {drop : Binding → Migration.Policy → Action LifecycleError Unit}
    (hdrop : ∀ binding policy, Action.Leaves Waning (drop binding policy)) (node : ScopeNode)
    (s : State) :
    (c.closeDown node drop).Yields s fun _ s' => Waning (c.close node s).2 s' := by
  have hrefl := Waning.refl (c.close node s).2
  unfold closeDown
  refine Action.Yields.lift_bind ?_
  cases (c.close node s).1 with
  | none => exact hrefl
  | some binding =>
      refine Action.Yields.get_bind (Action.Yields.except_bind ?_ fun _ _ => hrefl)
      exact fun decl _ => settle_waning (hdrop binding _) _

/-- The hook after a node closes it, and the rest of it only takes away. -/
theorem afterHook_waning {asked : Request} (hasked : asked = .afterEach ∨ asked = .afterAll)
    (node : ScopeNode) (s : State) : Waning (c.close node s).2 (asked.perform c node s) := by
  rcases hasked with rfl | rfl
  · unfold Request.perform
    rw [afterEach_eq_closeDown]
    exact c.closeDown_waning (fun _ _ => c.dropForMethod_waning _ _) node s
  · unfold Request.perform
    rw [afterAll_eq_closeDown]
    exact c.closeDown_waning (fun _ _ => c.dropForClass_waning _ _) node s

end Coordinator

/-! ## The end of a run -/

theorem shutdown_waning (s : State) : Waning s (shutdown s).2 := by
  have hone : ∀ id report s, Waning s (shutdownOne report id s).2 := fun id =>
    shutdownOne_leaves .refl .trans note_warned_waning (stopHandle_waning id)
  have hemptied : Waning s { s with registry := [] } := .of_eq rfl rfl fun h => h
  exact hemptied.trans (shutdownAll_leaves .refl .trans hone _ _ _)

/-- The end of a run takes away only what its root holds. -/
theorem finish_advance (tree : ScopeTree) (s : State) :
    Advance tree (.call .finish) s (finishRun tree.root s).2 := by
  have hdone := shutdown_waning s
  change Advance tree _ s ((shutdown s).2.clearNode tree.root)
  generalize (shutdown s).2 = emptied at hdone ⊢
  refine ⟨fun {node key} hmem hkind hmark => ?_,
    fun hfound => .inl (hdone.bound (Store.find?_of_clear hfound)),
    fun hholds => .inl (hdone.held hholds)⟩
  have hne : node.number ≠ tree.root.number :=
    ScopeTree.number_ne_of_kind_ne hmem tree.root_mem (by rwa [tree.root_kind])
  have hkept : (emptied.clearNode tree.root).finished.get? node key =
      emptied.finished.get? node key :=
    (Store.find?_entries_clear emptied.finished tree.root node.number key).trans (if_neg hne)
  rw [hkept]
  exact hdone.marked hmark

/-! ## Any act -/

theorem request_advance (c : Coordinator) (hmem : node ∈ tree) (asked : Request) (s : State) :
    Advance tree (.call (.request c node asked)) s (asked.perform c node s) := by
  have hwaning : ∀ {s'}, Waning s s' → Advance tree (.call (.request c node asked)) s s' :=
    fun h => h.advance tree _
  have hentering : ∀ {s'}, Entering c node s s' →
      Advance tree (.call (.request c node asked)) s s' :=
    fun h => h.advance hmem asked
  exact Coordinator.request_cases (Q := Advance tree (.call (.request c node asked)) s)
    (fun _ => hwaning (.of_eq rfl rfl fun h => h)) (fun _ => hwaning (.of_eq rfl rfl fun h => h))
    (hwaning (Waning.refl s))
    (fun _ => hentering (c.beforeAll_entering node s))
    (fun _ => hentering (c.beforeEach_entering hmem s))
    (fun _ => hentering (c.prepare_entering hmem s))
    (fun _ => hwaning ((c.close_waning node s).trans (c.afterHook_waning (.inl rfl) node s)))
    (fun _ => hwaning ((c.close_waning node s).trans (c.afterHook_waning (.inr rfl) node s)))

theorem disconnect_waning (id : HandleId) (root : ScopeNode) (s : State) :
    Waning s ((Act.disconnect id).perform root s) := by
  refine .of_eq rfl rfl fun {other set} hholds => ?_
  unfold State.Holds Act.perform at hholds
  rw [State.handle_modifyHandle] at hholds
  split at hholds
  · exact hholds
  · exact hholds

theorem perform_advance (hwithin : act.Within tree) (s : State) :
    Advance tree act s (act.perform tree.root s) := by
  have hsame : ∀ {s'}, s'.finished = s.finished → s'.bindings = s.bindings →
      s'.handles = s.handles → Waning s s' := by
    intro s' hfinished hbindings hhandles
    refine .of_eq hfinished hbindings fun hholds => ?_
    unfold State.Holds State.handle at hholds ⊢
    rwa [hhandles] at hholds
  cases act with
  | grow parent kind name =>
      refine Waning.advance ?_ tree _
      exact hsame rfl rfl rfl
  | stop id => exact (stopHandle_waning id s).advance tree _
  | shutdown => exact (shutdown_waning s).advance tree _
  | disconnect id => exact (disconnect_waning id tree.root s).advance tree _
  | call made =>
      cases made with
      | request c node asked => exact request_advance c hwithin asked s
      | finish => exact finish_advance tree s
      | surround environment files =>
          refine Waning.advance ?_ tree _
          exact hsame rfl rfl rfl
      | disturb name server =>
          refine Waning.advance ?_ tree _
          dsimp only [Act.perform, Call.perform]
          split
          · exact hsame rfl rfl rfl
          · exact Waning.refl s

/-- The last act of a course. -/
theorem course_concat_advance (hwithin : act.Within tree) (start : State) (acts : List Act) :
    Advance tree act (course tree.root start acts) (course tree.root start (acts ++ [act])) := by
  rw [course, course, outcome_concat (Act.perform tree.root)]
  exact perform_advance hwithin _

end ScopedResources.Lifecycle
