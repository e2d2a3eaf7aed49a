import ScopedResources.Proofs.BeforeHook
import ScopedResources.Proofs.Run

/-!
# What every request keeps

A request is put together from a few steps: statements and containers at work, handles that are
made, registered, counted and closed, and values that are put into nodes or taken out. A relation
between states that each of these steps keeps is kept by every request, whichever way the request
ends. -/

namespace ScopedResources.Lifecycle

variable {rel : State → State → Prop} {id : HandleId}

/-! ## Stopping -/

theorem stopHandle_leaves (hrefl : ∀ s, rel s s) (htrans : ∀ {a b c}, rel a b → rel b c → rel a c)
    (hclosed : ∀ s, rel s (s.closeHandle id))
    (hworking : ∀ {started stopped s s'}, Working started stopped s s' → rel s s') :
    Action.Leaves rel (stopHandle id) := by
  intro s
  cases hstopped : (s.handle id).stopped with
  | true =>
      rw [stopHandle_of_stopped hstopped]
      exact hrefl s
  | false =>
      rw [stopHandle_of_live hstopped]
      cases (s.handle id).origin with
      | external => exact hclosed s
      | container index =>
          have hstop := (note_stopAsked (s.handle id).server index (s.closeHandle id)).trans
            (onServer_sending (stop_sameSize index) (s.handle id).server _)
          exact htrans (hclosed s) (hworking hstop)

theorem stopOrWarn_leaves (htrans : ∀ {a b c}, rel a b → rel b c → rel a c)
    (hwarned : ∀ warning s, rel s (note (.warned warning) s).2)
    (hstop : Action.Leaves rel (stopHandle id)) (s : State) : rel s (stopOrWarn id s).2 := by
  have hdone := hstop s
  unfold stopOrWarn
  simp only [Action.step_bind]
  cases (stopHandle id s).1 with
  | ok _ => exact hdone
  | error _ => exact htrans hdone (hwarned _ _)

theorem shutdownOne_leaves (hrefl : ∀ s, rel s s) (htrans : ∀ {a b c}, rel a b → rel b c → rel a c)
    (hwarned : ∀ warning s, rel s (note (.warned warning) s).2)
    (hstop : Action.Leaves rel (stopHandle id)) (report : Report) (s : State) :
    rel s (shutdownOne report id s).2 := by
  have hdone := hstop s
  cases hstopped : (s.handle id).stopped with
  | true =>
      rw [shutdownOne_of_stopped report hstopped]
      exact hrefl s
  | false =>
      rw [shutdownOne_of_live report hstopped]
      rcases hrun : stopHandle id s with ⟨error | _, s'⟩
      · rw [hrun] at hdone
        exact htrans hdone (hwarned _ _)
      · rw [hrun] at hdone
        exact hdone

theorem shutdownAll_leaves (hrefl : ∀ s, rel s s) (htrans : ∀ {a b c}, rel a b → rel b c → rel a c)
    (hone : ∀ id report s, rel s (shutdownOne report id s).2) (ids : List HandleId)
    (report : Report) (s : State) : rel s (ids.foldlM shutdownOne report s).2 := by
  induction ids generalizing report s with
  | nil => exact hrefl s
  | cons id rest ih =>
      rw [List.foldlM_cons, Action.step_bind]
      exact htrans (hone id report s) (ih _ _)

namespace Coordinator

variable {binding : Binding} {task : Action LifecycleError Unit} {s s' : State}

theorem run_orStop (binding : Binding) (task : Action LifecycleError Unit) (s : State) :
    orStop binding task s = match task s with
      | (.ok _, s') => (.ok (), s')
      | (.error error, s') => (.error error, (stopOwned binding s').2) := by
  unfold orStop
  rw [Action.run_tryCatch]
  rcases task s with ⟨_ | _, s'⟩ <;> rfl

theorem orStop_ok : orStop binding task s = (.ok (), s') ↔ task s = (.ok (), s') := by
  rw [run_orStop]
  rcases task s with ⟨_ | _, s₁⟩
  · constructor <;> rintro ⟨⟩
  · rfl

/-- What a node does not own is not stopped. -/
theorem stopOwned_of_ne (hnot : binding.ownership ≠ .owned) (s : State) :
    stopOwned binding s = ((), s) :=
  congrFun (if_neg hnot) s

theorem orStop_of_ne (hnot : binding.ownership ≠ .owned) (task : Action LifecycleError Unit) :
    orStop binding task = task := by
  funext s
  rw [run_orStop]
  rcases task s with ⟨_ | _, s'⟩
  · simp only [stopOwned_of_ne hnot]
  · rfl

theorem settle_of_ne (hnot : binding.ownership ≠ .owned) (task : Action LifecycleError Unit) :
    settle binding task = task := by
  funext s
  unfold settle
  rw [orStop_of_ne hnot, Action.run_bind]
  rcases task s with ⟨_ | _, s'⟩
  · rfl
  · simp only [Action.run_lift, stopOwned_of_ne hnot]

theorem orStop_leaves (htrans : ∀ {a b c}, rel a b → rel b c → rel a c)
    (hstop : ∀ s, rel s (stopOwned binding s).2) (htask : Action.Leaves rel task) :
    Action.Leaves rel (orStop binding task) := by
  intro s
  have hdone := htask s
  rw [run_orStop]
  rcases hrun : task s with ⟨error | _, s'⟩
  · rw [hrun] at hdone
    exact htrans hdone (hstop s')
  · rw [hrun] at hdone
    exact hdone

theorem settle_leaves (htrans : ∀ {a b c}, rel a b → rel b c → rel a c)
    (hstop : ∀ s, rel s (stopOwned binding s).2) (htask : Action.Leaves rel task) :
    Action.Leaves rel (settle binding task) :=
  Action.Leaves.bind @htrans (orStop_leaves htrans hstop htask) fun _ => hstop

theorem stopOwned_leaves (hrefl : ∀ s, rel s s)
    (hstop : ∀ s, rel s (stopOrWarn binding.handle s).2) (s : State) :
    rel s (stopOwned binding s).2 := by
  unfold stopOwned
  split
  · exact hstop s
  · exact hrefl s

/-! ## Tasks for an instance -/

/-- Every step of a task for an instance keeps the relation. -/
structure Tends (c : Coordinator) (id : HandleId) (rel : State → State → Prop) : Prop where
  refl : ∀ s, rel s s
  trans : ∀ {a b c}, rel a b → rel b c → rel a c
  migrate : ∀ direction policy, Action.Leaves rel (c.migrate direction id policy)
  counted : ∀ s (change : Assoc MigrationSet Nat → Assoc MigrationSet Nat),
    rel s (s.modifyHandle id fun handle => { handle with holders := change handle.holders })

namespace Tends

variable {c : Coordinator}

theorem seq {ε α β : Type} {x : Action ε α} {f : α → Action ε β} (h : c.Tends id rel)
    (hx : Action.Leaves rel x) (hf : ∀ a, Action.Leaves rel (f a)) : Action.Leaves rel (x >>= f) :=
  Action.Leaves.bind (@Tends.trans c id rel h) hx hf

theorem acquire (h : c.Tends id rel) (policy : Migration.Policy) :
    Action.Leaves rel (acquire c.migrationRoot id policy) := by
  unfold Lifecycle.acquire
  refine h.seq h.refl fun s => ?_
  dsimp only
  split
  · exact h.seq (h.migrate .apply policy) fun _ s => h.counted s (Assoc.insert _ _)
  · exact fun s => h.counted s (Assoc.insert _ _)

theorem release (h : c.Tends id rel) (policy : Migration.Policy) :
    Action.Leaves rel (release c.migrationRoot id policy) := by
  unfold Lifecycle.release
  refine h.seq h.refl fun s => ?_
  dsimp only
  split
  · exact fun s => h.counted s (Assoc.insert _ _)
  · exact h.seq (fun s => h.counted s (Assoc.erase _)) fun _ => h.migrate .drop policy

theorem applyForClass (h : c.Tends binding.handle rel) (hstop : ∀ s, rel s (stopOwned binding s).2)
    (policy : Migration.Policy) : Action.Leaves rel (c.applyForClass binding policy) := by
  unfold Coordinator.applyForClass
  split
  · refine orStop_leaves h.trans hstop ?_
    cases binding.ownership with
    | shared => exact h.acquire policy
    | owned => exact h.migrate .apply policy
    | borrowed => exact h.migrate .apply policy
  · exact h.refl

theorem applyForMethod (h : c.Tends binding.handle rel) (hstop : ∀ s, rel s (stopOwned binding s).2)
    (policy : Migration.Policy) : Action.Leaves rel (c.applyForMethod binding policy) := by
  unfold Coordinator.applyForMethod
  split
  · exact orStop_leaves h.trans hstop (h.migrate .apply policy)
  · exact h.refl

theorem dropForClass (h : c.Tends binding.handle rel) (policy : Migration.Policy) :
    Action.Leaves rel (c.dropForClass binding policy) := by
  unfold Coordinator.dropForClass
  split
  · cases binding.ownership with
    | shared => exact h.release policy
    | owned => exact h.migrate .drop policy
    | borrowed => exact h.migrate .drop policy
  · exact h.refl

theorem dropForMethod (h : c.Tends binding.handle rel) (policy : Migration.Policy) :
    Action.Leaves rel (c.dropForMethod binding policy) := by
  unfold Coordinator.dropForMethod
  split
  · exact h.migrate .drop policy
  · exact h.refl

end Tends

/-! ## Obtaining an instance -/

/-- Every step on the way to an instance keeps the relation. -/
structure Provides (c : Coordinator) (rel : State → State → Prop) : Prop where
  refl : ∀ s, rel s s
  trans : ∀ {a b c}, rel a b → rel b c → rel a c
  working : ∀ {started stopped s s'}, Working started stopped s s' → rel s s'
  pushed : ∀ {handle : Handle}, handle.holders = [] → ∀ s,
    rel s { s with handles := s.handles.push handle }
  registered : ∀ s key id, rel s (s.register c.backend.name key id)

namespace Provides

variable {c : Coordinator}

theorem seq {ε α β : Type} {x : Action ε α} {f : α → Action ε β} (h : c.Provides rel)
    (hx : Action.Leaves rel x) (hf : ∀ a, Action.Leaves rel (f a)) : Action.Leaves rel (x >>= f) :=
  Action.Leaves.bind (@Provides.trans c rel h) hx hf

theorem provision (h : c.Provides rel) (node : ScopeNode) (key : ResourceKey) :
    Action.Leaves rel (provision c.backend node key) := by
  intro s
  have hall : ∀ r s', Provisioned s r s' → rel s s' := by
    intro r s' hprovided
    cases r with
    | error _ =>
        obtain ⟨_, -, -, hwork⟩ := hprovided
        exact h.working hwork
    | ok _ =>
        obtain ⟨_, handle, s₁, -, -, -, hwork, -, -, hholders, rfl⟩ := hprovided
        exact h.trans (h.working hwork) (h.pushed hholders s₁)
  exact hall _ _ (provision_provisioned c.backend node key s)

theorem getOrCreate (h : c.Provides rel) {factory : Action LifecycleError HandleId}
    (hfactory : Action.Leaves rel factory) (key : ResourceKey) :
    Action.Leaves rel (getOrCreate c.backend.name c.backend.connectionType key factory) := by
  intro s
  refine getOrCreate_yields (P := fun _ s' => rel s s') (Q := fun s' => rel s s') (h.refl s)
    (hfactory s) ?_ fun _ _ hdone => hdone
  exact fun _ id s' hmade => h.trans hmade (h.registered s' key id)

theorem external? (h : c.Provides rel) : Action.Leaves rel c.external? := by
  have hadopt : ∀ params, Action.Leaves rel (c.adoptExternal params) := by
    intro params
    unfold adoptExternal
    cases c.backend.connectExternal params with
    | error _ => exact h.refl
    | ok _ => exact h.pushed rfl
  unfold Coordinator.external?
  have hparams : Action.Leaves rel c.externalParams? := fun s =>
    h.working (c.externalParams?_sending s)
  refine h.seq hparams fun params => ?_
  cases params with
  | none => exact h.refl
  | some params => exact h.seq (h.getOrCreate (hadopt params) _) fun _ => h.refl

theorem obtainForClass (h : c.Provides rel) (node : ScopeNode) (decl : Declaration) :
    Action.Leaves rel (c.obtainForClass node decl) := by
  unfold Coordinator.obtainForClass
  refine h.seq h.external? fun found => ?_
  cases found with
  | some _ => exact h.refl
  | none =>
      refine h.seq h.refl fun s => h.seq h.refl fun key => ?_
      dsimp only
      split
      · exact h.seq (h.getOrCreate (h.provision node key) key) fun _ => h.refl
      · exact h.seq (h.provision node key) fun _ => h.refl

theorem obtainForMethod (h : c.Provides rel) (node : ScopeNode) (decl : Declaration) :
    Action.Leaves rel (c.obtainForMethod node decl) := by
  unfold Coordinator.obtainForMethod
  refine h.seq h.external? fun found => ?_
  cases found with
  | some _ => exact h.refl
  | none =>
      refine h.seq h.refl fun s => h.seq h.refl fun key => ?_
      exact h.seq (h.provision node key) fun _ => h.refl

end Provides

/-! ## Requests -/

/-- What a request comes to, by the hook that it runs. Asking for a connection runs the hook before
the node, and looking the instance up changes nothing after that. -/
theorem request_cases {c : Coordinator} {node : ScopeNode} {s : State} {asked : Request}
    {Q : State → Prop} (hdeclared : ∀ decl, Q (c.declare node decl s).2)
    (hoverridden : ∀ override, Q (c.overrideContainer node override s).2) (hsame : Q s)
    (hbeforeAll : asked = .beforeAll → Q (c.beforeAll node s).2)
    (hbeforeEach : asked = .beforeEach → Q (c.beforeEach node s).2)
    (hprepare : asked = .resolve ∨ asked = .resolveParams → Q (c.prepare node s).2)
    (hafterEach : asked = .afterEach → Q (c.closeDown node c.dropForMethod s).2)
    (hafterAll : asked = .afterAll → Q (c.closeDown node c.dropForClass s).2) :
    Q (asked.perform c node s) := by
  cases asked with
  | declare decl => exact hdeclared decl
  | overrideContainer override => exact hoverridden override
  | declareFrom file =>
      have hdeclare : (c.declareFrom node file).Yields s fun _ s' => Q s' := by
        unfold declareFrom
        cases file.declaration? c.backend.name with
        | none => exact hsame
        | some decl => exact Action.Yields.except_bind (fun _ _ => hdeclared decl) fun _ _ => hsame
      exact hdeclare
  | beforeAll => exact hbeforeAll rfl
  | beforeEach => exact hbeforeEach rfl
  | resolve =>
      unfold Request.perform
      rw [c.state_resolve]
      exact hprepare (.inl rfl)
  | resolveParams =>
      unfold Request.perform
      rw [c.state_resolveParams]
      exact hprepare (.inr rfl)
  | afterEach => exact hafterEach rfl
  | afterAll => exact hafterAll rfl

/-- Every step of a request keeps the relation. -/
structure Respects (c : Coordinator) (rel : State → State → Prop) : Prop
    extends c.Provides rel where
  counted : ∀ s id (change : Assoc MigrationSet Nat → Assoc MigrationSet Nat),
    rel s (s.modifyHandle id fun handle => { handle with holders := change handle.holders })
  halted : ∀ s id, rel s (s.closeHandle id)
  recalled : ∀ s keys, rel s { s with warnedKeys := keys }
  bound : ∀ s node binding, rel s (c.bind node binding s).2
  closed : ∀ s node, rel s (c.close node s).2
  declared : ∀ s node decl, rel s (c.declare node decl s).2
  overridden : ∀ s node override, rel s (c.overrideContainer node override s).2

namespace Respects

variable {c : Coordinator} {node : ScopeNode}

theorem stopOwned (h : c.Respects rel) (binding : Binding) (s : State) :
    rel s (stopOwned binding s).2 := by
  have hstop : ∀ id, Action.Leaves rel (stopHandle id) := fun id =>
    stopHandle_leaves h.refl h.trans (fun s => h.halted s id) h.working
  have hwarned : ∀ warning s, rel s (note (.warned warning) s).2 := fun warning s =>
    h.working (note_sending (Event.neutral_warned warning) s)
  exact stopOwned_leaves h.refl (stopOrWarn_leaves h.trans hwarned (hstop binding.handle)) s

theorem tends (h : c.Respects rel) (id : HandleId) : c.Tends id rel where
  refl := h.refl
  trans := h.trans
  migrate direction policy s := h.working (migrate_sending direction c.migrationRoot id policy s)
  counted s change := h.counted s id change

theorem warnOfRepetition (h : c.Respects rel) (decl : Declaration) (id : HandleId) (s : State) :
    rel s (c.warnOfRepetition decl id s).2 := by
  rcases c.warnOfRepetition_cases decl id s with hrun | hrun
  · rw [hrun]
    exact h.trans (h.recalled s _) (h.working (note_sending (Event.neutral_warned _) _))
  · rw [hrun]
    exact h.refl s

theorem ensureOpen (h : c.Respects rel) (node : ScopeNode) :
    Action.Leaves rel (c.ensureOpen node) := by
  unfold Coordinator.ensureOpen
  refine h.seq h.refl fun s => ?_
  split
  · exact h.refl
  · exact h.refl

theorem beforeAll (h : c.Respects rel) (node : ScopeNode) :
    Action.Leaves rel (c.beforeAll node) := by
  have hopen : Action.Leaves rel (c.openClass node) := by
    unfold Coordinator.openClass
    refine h.seq h.refl fun s => h.seq h.refl fun decl => ?_
    split
    · exact h.refl
    · refine h.seq h.refl fun _ => h.seq (h.obtainForClass node decl) fun binding => ?_
      have happly := (h.tends binding.handle).applyForClass (h.stopOwned binding) decl.migration
      exact h.seq happly fun _ s => h.bound s node binding
  unfold Coordinator.beforeAll
  refine h.seq h.refl fun _ => h.seq (h.ensureOpen node) fun _ => ?_
  refine h.seq h.refl fun s => ?_
  split
  · exact h.refl
  · exact hopen

theorem borrowFromClass (h : c.Respects rel) (node : ScopeNode) :
    Action.Leaves rel (c.borrowFromClass node) := by
  unfold Coordinator.borrowFromClass
  cases node.ancestor? .testClass with
  | none => exact h.refl
  | some outer =>
      refine h.seq (h.beforeAll outer) fun _ => h.seq h.refl fun s => ?_
      cases c.binding? s outer with
      | none => exact h.refl
      | some _ => exact h.refl

theorem beforeEach (h : c.Respects rel) (node : ScopeNode) :
    Action.Leaves rel (c.beforeEach node) := by
  have hlast : ∀ decl binding, Action.Leaves rel (do
      c.warnOfRepetition decl binding.handle
      c.applyForMethod binding decl.migration
      c.bind node binding : Action LifecycleError Unit) := by
    intro decl binding
    refine h.seq (fun s => h.warnOfRepetition decl binding.handle s) fun _ => ?_
    have happly := (h.tends binding.handle).applyForMethod (h.stopOwned binding) decl.migration
    exact h.seq happly fun _ s => h.bound s node binding
  have hopen : Action.Leaves rel (c.openMethod node) := by
    unfold Coordinator.openMethod
    refine h.seq h.refl fun s => h.seq h.refl fun decl => ?_
    refine h.seq h.refl fun _ => ?_
    dsimp only
    split
    · exact h.seq (h.obtainForMethod node decl) (hlast decl)
    · exact h.seq (h.borrowFromClass node) (hlast decl)
  unfold Coordinator.beforeEach
  refine h.seq h.refl fun _ => h.seq (h.ensureOpen node) fun _ => ?_
  refine h.seq h.refl fun s => ?_
  split
  · exact h.refl
  · exact hopen

theorem prepare (h : c.Respects rel) (node : ScopeNode) : Action.Leaves rel (c.prepare node) := by
  unfold Coordinator.prepare
  cases node.kind with
  | testMethod => exact h.beforeEach node
  | run => exact h.refl
  | testClass =>
      refine h.seq h.refl fun s => h.seq h.refl fun decl => ?_
      dsimp only
      split
      · exact h.refl
      · exact h.beforeAll node

theorem closeDown (h : c.Respects rel)
    {drop : Binding → Migration.Policy → Action LifecycleError Unit}
    (hdrop : ∀ binding policy, Action.Leaves rel (drop binding policy)) (node : ScopeNode) :
    Action.Leaves rel (c.closeDown node drop) := by
  unfold Coordinator.closeDown
  refine h.seq (fun s => h.closed s node) fun found => ?_
  cases found with
  | none => exact h.refl
  | some binding =>
      refine h.seq h.refl fun s => h.seq h.refl fun decl => ?_
      exact settle_leaves h.trans (h.stopOwned binding) (hdrop binding _)

/-- Whatever every step keeps, every request keeps. -/
theorem request (h : c.Respects rel) (node : ScopeNode) (asked : Request) (s : State) :
    rel s (asked.perform c node s) :=
  request_cases (Q := rel s) (h.declared s node) (h.overridden s node) (h.refl s)
    (fun _ => h.beforeAll node s) (fun _ => h.beforeEach node s) (fun _ => h.prepare node s)
    (fun _ => h.closeDown (fun binding => (h.tends binding.handle).dropForMethod) node s)
    (fun _ => h.closeDown (fun binding => (h.tends binding.handle).dropForClass) node s)

end Respects

end Coordinator

end ScopedResources.Lifecycle
