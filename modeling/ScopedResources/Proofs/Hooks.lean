import ScopedResources.Proofs.Orderly

/-!
# Hooks keep a state in order

Whichever way a hook ends, the state is in order after it if it was so before. What a hook makes for
a node is stopped again unless it gets as far as the binding; what an after-hook takes from a node
is stopped, unless the node sees no declaration, which a strict account rules out. -/

namespace ScopedResources.Lifecycle

variable {tree : ScopeTree} {strict : Prop} {s s' s'' : State}

/-- Only bindings of the node with this number differ. -/
structure OnlyAt (number : Nat) (s s' : State) : Prop where
  elsewhere : ∀ {number' key}, number' ≠ number →
    Assoc.find? (number', key) s'.bindings.entries = Assoc.find? (number', key) s.bindings.entries
  declarations : s'.declarations = s.declarations

theorem SameNodes.onlyAt (h : SameNodes s s') (number : Nat) : OnlyAt number s s' where
  elsewhere _ := by rw [h.bindings]
  declarations := h.declarations

theorem OnlyAt.trans {number : Nat} (h : OnlyAt number s s') (h' : OnlyAt number s' s'') :
    OnlyAt number s s'' where
  elsewhere hne := (h'.elsewhere hne).trans (h.elsewhere hne)
  declarations := h'.declarations.trans h.declarations

/-- What obtaining an instance for a node comes to. -/
def Obtained {ε : Type} (tree : ScopeTree) (strict : Prop) : Except ε Binding → State → Prop
  | .ok binding, s => Orderly tree strict binding.hand s ∧
      (binding.ownership = .owned → s.Running binding.handle)
  | .error _, s => Orderly tree strict [] s

theorem Quiet.running {id : HandleId} (h : Quiet s s') (hrunning : s.Running id) :
    s'.Running id := by
  unfold State.Running
  rw [h.container?, h.stopped]
  exact hrunning

namespace Coordinator

variable (c : Coordinator) {node : ScopeNode} {binding : Binding}

/-! ## Instances -/

theorem keyFor_congr (henvironment : s'.environment = s.environment) (decl : Declaration) :
    c.keyFor s' decl = c.keyFor s decl := by
  unfold keyFor
  rw [henvironment]

theorem externalParams?_sending : Action.Leaves Sending c.externalParams? := by
  intro s
  unfold externalParams?
  simp only [Action.run_bind, Action.run_get]
  cases c.external.decide s.environment c.backend.name c.backend.scheme with
  | error fault => exact Working.refl s
  | ok decision =>
      cases decision with
      | unset => exact Working.refl s
      | incomplete => exact note_sending (Event.neutral_warned _) s
      | external params => exact Working.refl s

theorem adoptExternal_orderly (params : ConnectionParams) (h : Orderly tree strict [] s) :
    (c.adoptExternal params).Yields s fun r s' => Steady s s' ∧ InHand tree strict r s' := by
  unfold adoptExternal
  cases c.backend.connectExternal params with
  | error error => exact ⟨(Quiet.refl s).steady, h⟩
  | ok connection =>
      let handle := externalHandle c.backend (externalKey params) connection
      have hsteady : Steady s { s with handles := s.handles.push handle } :=
        Steady.push (SameNodes.refl s) rfl rfl
      refine ⟨hsteady, h.ledger.external rfl rfl, ?_, h.keys, h.placed⟩
      refine h.kept.push ?_ hsteady.container? hsteady.stopped hsteady.kept?
      exact Array.size_push _

theorem external?_orderly (h : Orderly tree strict [] s) :
    (c.external?).Yields s fun _ s' => Orderly tree strict [] s' ∧ SameNodes s s' := by
  unfold external?
  have hparams := (c.externalParams?_sending s).quiet
  refine Action.Yields.bind (P := fun _ s' => Quiet s s') hparams ?_ ?_
  · intro params? s' hs'
    have h' := h.quiet hs'
    cases params? with
    | none => exact ⟨h', hs'.sameNodes⟩
    | some params =>
        refine (getOrCreate_orderly h' (c.adoptExternal_orderly params h')).bind ?_ ?_
        · rintro ⟨id, _⟩ s'' ⟨hdone, hnodes⟩
          exact ⟨hdone, hs'.sameNodes.trans hnodes⟩
        · rintro error s'' ⟨hdone, hnodes⟩
          exact ⟨hdone, hs'.sameNodes.trans hnodes⟩
  · intro error s' hs'
    exact ⟨h.quiet hs', hs'.sameNodes⟩

/-- An external instance is shared with whoever else uses it; an instance of another kind is made
only if there is none. -/
theorem external?_bind_orderly {f : Option HandleId → Action LifecycleError Binding}
    (h : Orderly tree strict [] s) (hsome : ∀ id, f (some id) = pure ⟨id, .shared⟩)
    (hnone : ∀ s', Orderly tree strict [] s' →
      (f none).Yields s' fun r s'' => SameNodes s' s'' ∧ Obtained tree strict r s'') :
    (c.external? >>= f).Yields s fun r s' => SameNodes s s' ∧ Obtained tree strict r s' := by
  refine (c.external?_orderly h).bind ?_ ?_
  · rintro (_ | id) s' ⟨h', hs'⟩
    · exact (hnone s' h').mono fun r s'' hr => ⟨hs'.trans hr.1, hr.2⟩
    · rw [hsome]
      exact ⟨hs', h', fun howned => by cases howned⟩
  · rintro error s' ⟨h', hs'⟩
    exact ⟨hs', h'⟩

theorem provideOwned_orderly (key : ResourceKey) (h : Orderly tree strict [] s) :
    (do return ⟨← provision c.backend node key, .owned⟩ :
      Action LifecycleError Binding).Yields s fun r s' =>
        SameNodes s s' ∧ Obtained tree strict r s' := by
  refine (provision_orderly c.backend node key h).bind ?_ ?_
  · rintro id s' ⟨hsteady, hhand, hrunning⟩
    exact ⟨hsteady.toSameNodes, hhand, fun _ => hrunning id rfl⟩
  · rintro error s' ⟨hsteady, hhand, -⟩
    exact ⟨hsteady.toSameNodes, hhand⟩

theorem obtainForClass_orderly (decl : Declaration) (h : Orderly tree strict [] s) :
    (c.obtainForClass node decl).Yields s fun r s' =>
      SameNodes s s' ∧ Obtained tree strict r s' := by
  unfold obtainForClass
  refine c.external?_bind_orderly h (fun _ => rfl) fun s' h' => ?_
  refine Action.Yields.get_bind (Action.Yields.except_bind ?_ ?_)
  · intro key _
    by_cases hmode : decl.mode = .run
    · rw [if_pos hmode]
      have hfactory := (provision_orderly c.backend node key h').mono
        fun r s'' hr => And.intro hr.1 hr.2.1
      refine (getOrCreate_orderly h' hfactory).bind ?_ ?_
      · rintro ⟨id, _⟩ s'' ⟨hdone, hnodes⟩
        exact ⟨hnodes, hdone, fun howned => by cases howned⟩
      · rintro error s'' ⟨hdone, hnodes⟩
        exact ⟨hnodes, hdone⟩
    · rw [if_neg hmode]
      exact c.provideOwned_orderly key h'
  · exact fun error _ => ⟨SameNodes.refl s', h'⟩

theorem obtainForMethod_orderly (decl : Declaration) (h : Orderly tree strict [] s) :
    (c.obtainForMethod node decl).Yields s fun r s' =>
      SameNodes s s' ∧ Obtained tree strict r s' := by
  unfold obtainForMethod
  refine c.external?_bind_orderly h (fun _ => rfl) fun s' h' => ?_
  refine Action.Yields.get_bind (Action.Yields.except_bind ?_ ?_)
  · exact fun key _ => c.provideOwned_orderly key h'
  · exact fun error _ => ⟨SameNodes.refl s', h'⟩

/-! ## Tasks for a binding -/

theorem stopOwned_orderly (h : Orderly tree strict binding.hand s) :
    Orderly tree strict [] (stopOwned binding s).2 ∧ SameNodes s (stopOwned binding s).2 ∧
      (binding.ownership = .owned → Halted binding.handle s (stopOwned binding s).2) := by
  unfold Binding.hand at h
  unfold stopOwned
  by_cases howned : binding.ownership = .owned
  · rw [if_pos howned] at h ⊢
    have hdone := stopOrWarn_orderly h
    exact ⟨hdone.1, hdone.2.1, fun _ => hdone.2.2⟩
  · rw [if_neg howned] at h ⊢
    exact ⟨h, SameNodes.refl s, fun h => absurd h howned⟩

/-- What a task for a binding comes to: it is done, or it failed and what was made for the node is
stopped. -/
def Attempted (tree : ScopeTree) (strict : Prop) (binding : Binding) (s : State) :
    Except LifecycleError Unit → State → Prop
  | .ok _, s' => Quiet s s'
  | .error _, s' => Orderly tree strict [] s' ∧ SameNodes s s' ∧
      (binding.ownership = .owned → Halted binding.handle s s')

theorem orStop_attempted {task : Action LifecycleError Unit} (htask : Action.Leaves Quiet task)
    (h : Orderly tree strict binding.hand s) :
    (orStop binding task).Yields s (Attempted tree strict binding s) := by
  refine Action.Yields.tryCatch (P := fun _ s' => Quiet s s') (htask s) ?_ ?_
  · exact fun _ s' hs' => hs'
  · intro error s' hs'
    obtain ⟨hdone, hnodes, hhalted⟩ := stopOwned_orderly (h.quiet hs')
    exact ⟨hdone, hs'.sameNodes.trans hnodes, fun howned => hs'.halted (hhalted howned)⟩

theorem Attempted.obtained {r : Except LifecycleError Unit}
    (h : Attempted tree strict binding s r s')
    (hobtained : Obtained tree strict (.ok binding : Except LifecycleError Binding) s) :
    SameNodes s s' ∧ Obtained tree strict (r.map fun _ => binding) s' := by
  cases r with
  | ok _ =>
      refine ⟨Quiet.sameNodes h, hobtained.1.quiet h, ?_⟩
      exact fun howned => Quiet.running h (hobtained.2 howned)
  | error error => exact ⟨h.2.1, h.1⟩

theorem migrate_quiet (direction : Migration.Direction) (id : HandleId)
    (policy : Migration.Policy) : Action.Leaves Quiet (c.migrate direction id policy) :=
  fun s => (migrate_sending direction c.migrationRoot id policy s).quiet

theorem applyForClass_orderly (policy : Migration.Policy)
    (h : Obtained tree strict (.ok binding : Except LifecycleError Binding) s) :
    (c.applyForClass binding policy).Yields s fun r s' =>
      SameNodes s s' ∧ Obtained tree strict (r.map fun _ => binding) s' := by
  unfold applyForClass
  by_cases happlies : policy.appliesAt .perClass = true
  · rw [if_pos happlies]
    refine (orStop_attempted ?_ h.1).mono fun r s' hr => hr.obtained h
    cases binding.ownership with
    | shared => exact acquire_quiet _ _ _
    | owned => exact c.migrate_quiet _ _ _
    | borrowed => exact c.migrate_quiet _ _ _
  · rw [if_neg happlies]
    exact ⟨SameNodes.refl s, h⟩

theorem applyForMethod_orderly (policy : Migration.Policy)
    (h : Obtained tree strict (.ok binding : Except LifecycleError Binding) s) :
    (c.applyForMethod binding policy).Yields s fun r s' =>
      SameNodes s s' ∧ Obtained tree strict (r.map fun _ => binding) s' := by
  unfold applyForMethod
  by_cases happlies : policy.appliesAt .perMethod = true
  · rw [if_pos happlies]
    exact (orStop_attempted (c.migrate_quiet _ _ _) h.1).mono fun r s' hr => hr.obtained h
  · rw [if_neg happlies]
    exact ⟨SameNodes.refl s, h⟩

theorem dropForClass_quiet (policy : Migration.Policy) :
    Action.Leaves Quiet (c.dropForClass binding policy) := by
  unfold dropForClass
  split
  · cases binding.ownership with
    | shared => exact release_quiet _ _ _
    | owned => exact c.migrate_quiet _ _ _
    | borrowed => exact c.migrate_quiet _ _ _
  · exact Quiet.refl

theorem dropForMethod_quiet (policy : Migration.Policy) :
    Action.Leaves Quiet (c.dropForMethod binding policy) := by
  unfold dropForMethod
  split
  · exact c.migrate_quiet _ _ _
  · exact Quiet.refl

/-! ## Before-hooks -/

theorem declarationAt_isSome {decl : Declaration} (h : c.declarationAt s node = .ok decl) :
    (s.declarations.find? node c.backend.name).isSome := by
  unfold declarationAt at h
  cases hfound : s.declarations.find? node c.backend.name with
  | none =>
      rw [hfound] at h
      cases h
  | some _ => rfl

theorem ensureOpen_same (node : ScopeNode) (s : State) :
    (c.ensureOpen node).Yields s fun _ s' => s' = s := by
  unfold ensureOpen
  refine Action.Yields.get_bind ?_
  split <;> rfl

/-- The last steps before a node: its migrations are applied and it is bound. -/
theorem bind_yields (hmem : node ∈ tree) (hkind : node.kind ≠ .run)
    (hfree : c.binding? s node = none)
    (hdeclared : (s.declarations.find? node c.backend.name).isSome)
    (h : Obtained tree strict (.ok binding : Except LifecycleError Binding) s) :
    Action.Yields (ε := LifecycleError) (liftM (c.bind node binding)) s fun _ s' =>
      Orderly tree strict [] s' ∧ OnlyAt node.number s s' := by
  refine ⟨bind_orderly c h.1 h.2 hfree hmem hkind hdeclared, ?_, rfl⟩
  intro number' key hne
  refine (find?_bind c s number' key).trans (if_neg ?_)
  rintro ⟨⟩
  exact hne rfl

theorem openClass_orderly (hmem : node ∈ tree) (hkind : node.kind ≠ .run)
    (hfree : c.binding? s node = none) (h : Orderly tree strict [] s) :
    (c.openClass node).Yields s fun _ s' =>
      Orderly tree strict [] s' ∧ OnlyAt node.number s s' := by
  unfold openClass
  refine Action.Yields.get_bind (Action.Yields.except_bind ?_ ?_)
  · intro decl hdecl
    have hdeclared := c.declarationAt_isSome hdecl
    by_cases hmode : decl.mode = .testMethod
    · rw [if_pos hmode]
      exact ⟨h, (SameNodes.refl s).onlyAt _⟩
    · rw [if_neg hmode]
      refine Action.Yields.except_bind ?_ ?_
      · intro _ _
        refine (c.obtainForClass_orderly decl h).bind ?_ ?_
        · rintro binding s₁ ⟨hs₁, hobtained⟩
          -- migrations that fail stop what was made, so neither way anything stays in hand
          refine (c.applyForClass_orderly decl.migration hobtained).bind ?_ ?_
          · rintro _ s₂ ⟨hs₂, happlied⟩
            have hs := hs₁.trans hs₂
            have hfree₂ : c.binding? s₂ node = none := by
              rwa [binding?, hs.bindings]
            have hdeclared₂ : (s₂.declarations.find? node c.backend.name).isSome := by
              rwa [hs.declarations]
            refine (c.bind_yields hmem hkind hfree₂ hdeclared₂ happlied).mono ?_
            exact fun _ s₃ hdone => ⟨hdone.1, (hs.onlyAt _).trans hdone.2⟩
          · rintro error s₂ ⟨hs₂, hfailed⟩
            exact ⟨hfailed, (hs₁.trans hs₂).onlyAt _⟩
        · rintro error s₁ ⟨hs₁, hfailed⟩
          exact ⟨hfailed, hs₁.onlyAt _⟩
      · exact fun error _ => ⟨h, (SameNodes.refl s).onlyAt _⟩
  · exact fun error _ => ⟨h, (SameNodes.refl s).onlyAt _⟩

theorem kind_of_expectKind {kind : Scope} {hook : String}
    (h : expectKind node kind hook = .ok ()) : node.kind = kind := by
  unfold expectKind at h
  split at h
  next hkind => exact hkind
  next => cases h

theorem beforeAll_orderly (hmem : node ∈ tree) (h : Orderly tree strict [] s) :
    (c.beforeAll node).Yields s fun _ s' =>
      Orderly tree strict [] s' ∧ OnlyAt node.number s s' := by
  have hsame : Orderly tree strict [] s ∧ OnlyAt node.number s s :=
    ⟨h, (SameNodes.refl s).onlyAt _⟩
  unfold beforeAll
  refine Action.Yields.except_bind ?_ fun error _ => hsame
  intro _ hexpected
  have hkind : node.kind ≠ .run := by
    rw [kind_of_expectKind hexpected]
    decide
  refine (c.ensureOpen_same node s).bind ?_ ?_
  · rintro _ _ rfl
    refine Action.Yields.get_bind ?_
    split
    next => exact hsame
    next hfree => exact c.openClass_orderly hmem hkind (by simpa using hfree) h
  · rintro error _ rfl
    exact hsame

/-- What a method takes from its class leaves the method itself as it was. -/
theorem borrowFromClass_orderly (hmem : node ∈ tree) (hkind : node.kind = .testMethod)
    (h : Orderly tree strict [] s) :
    (c.borrowFromClass node).Yields s fun r s' =>
      Obtained tree strict r s' ∧ c.binding? s' node = c.binding? s node ∧
        s'.declarations = s.declarations := by
  unfold borrowFromClass
  cases houter : node.ancestor? .testClass with
  | none => exact ⟨h, rfl, rfl⟩
  | some outer =>
      obtain ⟨houtermem, houterkind⟩ := ScopeTree.ancestor?_mem hmem houter
      -- the class has another number than the method, so opening it binds nothing to the method
      have hnumber : node.number ≠ outer.number := by
        refine ScopeTree.number_ne_of_kind_ne hmem houtermem ?_
        rw [hkind, houterkind]
        decide
      refine (c.beforeAll_orderly houtermem h).bind ?_ ?_
      · rintro _ s' ⟨hdone, honly⟩
        refine Action.Yields.get_bind ?_
        cases c.binding? s' outer with
        | none => exact ⟨hdone, honly.elsewhere hnumber, honly.declarations⟩
        | some binding =>
            exact ⟨⟨hdone, fun howned => by cases howned⟩, honly.elsewhere hnumber,
              honly.declarations⟩
      · rintro error s' ⟨hdone, honly⟩
        exact ⟨hdone, honly.elsewhere hnumber, honly.declarations⟩

/-- A warning of a key is remembered, or nothing is done. -/
theorem warnOfRepetition_cases (decl : Declaration) (id : HandleId) (s : State) :
    c.warnOfRepetition decl id s = note (.warned (.repeatedMigrations (s.handle id).key))
        { s with warnedKeys := (c.name, (s.handle id).key) :: s.warnedKeys } ∨
      c.warnOfRepetition decl id s = ((), s) := by
  by_cases hwarn : (decl.needsIdempotentMigrations &&
      !s.warnedKeys.contains (c.name, (s.handle id).key)) = true
  · exact .inl (congrFun (if_pos hwarn) s)
  · exact .inr (congrFun (if_neg hwarn) s)

theorem warnOfRepetition_quiet (decl : Declaration) (id : HandleId) (s : State) :
    Quiet s (c.warnOfRepetition decl id s).2 := by
  rcases c.warnOfRepetition_cases decl id s with hrun | hrun
  · rw [hrun]
    refine Quiet.trans ?_ (note_sending (Event.neutral_warned _) _).quiet
    exact ⟨rfl, fun _ => rfl, rfl, rfl, rfl, fun _ => rfl, fun _ => rfl, fun _ => rfl, fun _ h => h⟩
  · rw [hrun]
    exact Quiet.refl s

theorem openMethod_orderly (hmem : node ∈ tree) (hkind : node.kind = .testMethod)
    (hfree : c.binding? s node = none) (h : Orderly tree strict [] s) :
    (c.openMethod node).Yields s fun _ s' => Orderly tree strict [] s' := by
  unfold openMethod
  refine Action.Yields.get_bind (Action.Yields.except_bind ?_ fun _ _ => h)
  intro decl hdecl
  have hdeclared := c.declarationAt_isSome hdecl
  refine Action.Yields.except_bind ?_ fun _ _ => h
  intro _ _
  -- the last steps are the same for an instance of the method's own and a borrowed one
  have hlast : ∀ binding s₁, Obtained tree strict (.ok binding : Except LifecycleError Binding) s₁ →
      c.binding? s₁ node = c.binding? s node → s₁.declarations = s.declarations →
      (do
        c.warnOfRepetition decl binding.handle
        c.applyForMethod binding decl.migration
        c.bind node binding : Action LifecycleError Unit).Yields s₁ fun _ s' =>
          Orderly tree strict [] s' := by
    intro binding s₁ hobtained hbinding hdeclarations
    have hwarn := c.warnOfRepetition_quiet decl binding.handle s₁
    have hwarned : Obtained tree strict (.ok binding : Except LifecycleError Binding)
        (c.warnOfRepetition decl binding.handle s₁).2 :=
      ⟨hobtained.1.quiet hwarn, fun howned => hwarn.running (hobtained.2 howned)⟩
    refine Action.Yields.lift_bind ((c.applyForMethod_orderly decl.migration hwarned).bind ?_ ?_)
    · rintro _ s₂ ⟨hs₂, happlied⟩
      have hs := hwarn.sameNodes.trans hs₂
      have hfree₂ : c.binding? s₂ node = none := by
        rw [binding?, hs.bindings]
        exact hbinding.trans hfree
      have hdeclared₂ : (s₂.declarations.find? node c.backend.name).isSome := by
        rwa [hs.declarations, hdeclarations]
      refine (c.bind_yields hmem (by rw [hkind]; decide) hfree₂ hdeclared₂ happlied).mono ?_
      exact fun _ _ hdone => hdone.1
    · rintro error s₂ ⟨-, hfailed⟩
      exact hfailed
  dsimp only
  by_cases hmode : decl.mode = .testMethod
  · rw [if_pos hmode]
    refine (c.obtainForMethod_orderly decl h).bind ?_ fun _ _ hfailed => hfailed.2
    rintro binding s₁ ⟨hs₁, hobtained⟩
    exact hlast binding s₁ hobtained (by rw [binding?, hs₁.bindings]; rfl) hs₁.declarations
  · rw [if_neg hmode]
    refine (c.borrowFromClass_orderly hmem hkind h).bind ?_ fun _ _ hfailed => hfailed.1
    rintro binding s₁ ⟨hobtained, hbinding, hdeclarations⟩
    exact hlast binding s₁ hobtained hbinding hdeclarations

theorem beforeEach_orderly (hmem : node ∈ tree) (h : Orderly tree strict [] s) :
    (c.beforeEach node).Yields s fun _ s' => Orderly tree strict [] s' := by
  unfold beforeEach
  refine Action.Yields.except_bind ?_ fun _ _ => h
  intro _ hexpected
  refine (c.ensureOpen_same node s).bind ?_ ?_
  · rintro _ _ rfl
    refine Action.Yields.get_bind ?_
    split
    next => exact h
    next hfree =>
      exact c.openMethod_orderly hmem (kind_of_expectKind hexpected) (by simpa using hfree) h
  · rintro error _ rfl
    exact h

/-! ## After-hooks -/

/-- Both after-hooks close their node and settle its binding; they differ in the migrations that
they drop. -/
def closeDown (node : ScopeNode) (drop : Binding → Migration.Policy → Action LifecycleError Unit) :
    Action LifecycleError Unit := do
  match (← c.close node) with
  | none => pure ()
  | some binding =>
    let decl ← c.declarationAt (← get) node
    settle binding (drop binding decl.migration)

theorem afterEach_eq_closeDown (node : ScopeNode) :
    c.afterEach node = c.closeDown node c.dropForMethod := rfl

theorem afterAll_eq_closeDown (node : ScopeNode) :
    c.afterAll node = c.closeDown node c.dropForClass := rfl

/-- Whether the task succeeds or fails, what was made for the node is stopped. -/
theorem settle_orderly {task : Action LifecycleError Unit} (htask : Action.Leaves Quiet task)
    (h : Orderly tree strict binding.hand s) :
    (settle binding task).Yields s fun _ s' => Orderly tree strict [] s' ∧ SameNodes s s' ∧
      (binding.ownership = .owned → Halted binding.handle s s') := by
  unfold settle
  refine (orStop_attempted htask h).bind ?_ ?_
  · intro _ s' hs'
    obtain ⟨hdone, hnodes, hhalted⟩ := stopOwned_orderly (h.quiet hs')
    exact ⟨hdone, (Quiet.sameNodes hs').trans hnodes,
      fun howned => Quiet.halted hs' (hhalted howned)⟩
  · exact fun error s' hfailed => hfailed

variable {drop : Binding → Migration.Policy → Action LifecycleError Unit}

/-- Of an unbound node nothing is left to do. -/
theorem closeDown_of_unbound (hbinding : c.binding? s node = none) :
    c.closeDown node drop s = (.ok (), (c.close node s).2) := by
  have hclose : (c.close node s).1 = none := hbinding
  unfold closeDown
  rw [Action.run_bind, Action.run_lift, hclose]
  rfl

/-- With a declaration the hook does the last task for the binding. -/
theorem closeDown_of_bound {decl : Declaration} (hbinding : c.binding? s node = some binding)
    (hdecl : c.declarationAt s node = .ok decl) :
    c.closeDown node drop s = settle binding (drop binding decl.migration) (c.close node s).2 := by
  have hclose : (c.close node s).1 = some binding := hbinding
  have hdecl' : c.declarationAt (c.close node s).2 node = .ok decl := hdecl
  unfold closeDown
  rw [Action.run_bind, Action.run_lift, hclose]
  simp only [Action.run_bind, Action.run_get, Action.run_except, hdecl']

/-- Without a declaration the hook ends as soon as the binding is gone. -/
theorem closeDown_of_undeclared (hbinding : c.binding? s node = some binding)
    (hdeclared : s.declarations.find? node c.backend.name = none) :
    c.closeDown node drop s = (.error (.configuration
      ("no " ++ c.backend.name ++ " resource declared for " ++ node.path)),
        (c.close node s).2) := by
  have hclose : (c.close node s).1 = some binding := hbinding
  have hdecl : c.declarationAt (c.close node s).2 node = .error (.configuration
      ("no " ++ c.backend.name ++ " resource declared for " ++ node.path)) := by
    unfold declarationAt
    rw [show (c.close node s).2.declarations = s.declarations from rfl, hdeclared]
  unfold closeDown
  rw [Action.run_bind, Action.run_lift, hclose]
  simp only [Action.run_bind, Action.run_get, Action.run_except, hdecl]

/-- With a declaration the hook stops what was made for the node, whatever else it does. -/
theorem closeDown_of_declared (hdrop : ∀ binding policy, Action.Leaves Quiet (drop binding policy))
    (h : Orderly tree strict [] s) (hbinding : c.binding? s node = some binding)
    (hdeclared : (s.declarations.find? node c.backend.name).isSome) :
    (c.closeDown node drop).Yields s fun _ s' => Orderly tree strict [] s' ∧
      SameNodes (c.close node s).2 s' ∧
      (binding.ownership = .owned → Halted binding.handle s s') := by
  have hclosed := close_orderly c node h
  rw [hbinding] at hclosed
  obtain ⟨decl, hfound⟩ := Option.isSome_iff_exists.mp hdeclared
  have hdecl : c.declarationAt s node = .ok decl := by
    unfold declarationAt
    rw [hfound]
  unfold Action.Yields
  rw [c.closeDown_of_bound hbinding hdecl]
  exact settle_orderly (hdrop binding decl.migration) hclosed

/-- What a node is bound to is gone after the hook, and nothing else is. -/
theorem closeDown_orderly (hdrop : ∀ binding policy, Action.Leaves Quiet (drop binding policy))
    (hmem : node ∈ tree) (h : Orderly tree strict [] s) :
    (c.closeDown node drop).Yields s fun _ s' => Orderly tree strict [] s' ∧
      s'.bindings = (c.close node s).2.bindings := by
  cases hbinding : c.binding? s node with
  | none =>
      have hclosed := close_orderly c node h
      rw [hbinding] at hclosed
      unfold Action.Yields
      rw [c.closeDown_of_unbound hbinding]
      exact ⟨hclosed, rfl⟩
  | some binding =>
      cases hdeclared : s.declarations.find? node c.backend.name with
      | some decl =>
          refine (c.closeDown_of_declared hdrop h hbinding (by rw [hdeclared]; rfl)).mono ?_
          exact fun _ s' hdone => ⟨hdone.1, hdone.2.1.bindings⟩
      | none =>
          unfold Action.Yields
          rw [c.closeDown_of_undeclared hbinding hdeclared]
          refine ⟨(close_orderly c node h).forget fun hstrict => ?_, rfl⟩
          -- in a strict account a bound node sees a declaration
          obtain ⟨other, hother, hnumber, -, hsome⟩ := h.placed hbinding
          obtain rfl := tree.eq_of_number_eq hother hmem hnumber
          rw [show c.bindingKey.1 = c.backend.name from rfl, hdeclared] at hsome
          cases hsome hstrict

theorem afterEach_orderly (hmem : node ∈ tree) (h : Orderly tree strict [] s) :
    (c.afterEach node).Yields s fun _ s' => Orderly tree strict [] s' ∧
      s'.bindings = (c.close node s).2.bindings := by
  rw [afterEach_eq_closeDown]
  exact c.closeDown_orderly (fun _ _ => c.dropForMethod_quiet _) hmem h

theorem afterAll_orderly (hmem : node ∈ tree) (h : Orderly tree strict [] s) :
    (c.afterAll node).Yields s fun _ s' => Orderly tree strict [] s' ∧
      s'.bindings = (c.close node s).2.bindings := by
  rw [afterAll_eq_closeDown]
  exact c.closeDown_orderly (fun _ _ => c.dropForClass_quiet _) hmem h

/-! ## Asking for a connection -/

theorem prepare_orderly (hmem : node ∈ tree) (h : Orderly tree strict [] s) :
    (c.prepare node).Yields s fun _ s' => Orderly tree strict [] s' := by
  unfold prepare
  cases node.kind with
  | testMethod => exact c.beforeEach_orderly hmem h
  | run => exact h
  | testClass =>
      have hopen := (c.beforeAll_orderly hmem h).mono fun _ _ hdone => hdone.1
      refine Action.Yields.get_bind (Action.Yields.except_bind ?_ fun _ _ => h)
      intro decl _
      dsimp only
      split
      · exact h
      · exact hopen

theorem resolve_orderly (hmem : node ∈ tree) (h : Orderly tree strict [] s) :
    (c.resolve node).Yields s fun _ s' => Orderly tree strict [] s' := by
  unfold resolve
  refine (c.prepare_orderly hmem h).bind ?_ fun _ _ h => h
  intro _ s' h'
  refine Action.Yields.get_bind ?_
  cases c.binding? s' node with
  | none => exact h'
  | some binding =>
      refine Action.Yields.get_bind ?_
      dsimp only
      split
      · exact h'
      · exact h'

theorem resolveParams_orderly (hmem : node ∈ tree) (h : Orderly tree strict [] s) :
    (c.resolveParams node).Yields s fun _ s' => Orderly tree strict [] s' := by
  unfold resolveParams
  refine (c.resolve_orderly hmem h).bind ?_ fun _ _ h => h
  exact fun _ _ h' => h'

end Coordinator

end ScopedResources.Lifecycle
