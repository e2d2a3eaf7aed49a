import ScopedResources.Proofs.Procuring

/-!
# What a before-hook adds

Whatever a before-hook comes to, marks and bindings stay, and what was made before it is not
stopped. A binding that is new is that of a node that was open, made ready in the same hook; and a
set of migrations that nobody held before was applied in it. -/

namespace ScopedResources.Lifecycle

/-- Somebody relies on a set of migrations of a handle. -/
def State.Holds (s : State) (id : HandleId) (set : MigrationSet) : Prop :=
  (Assoc.find? set (s.handle id).holders).isSome

variable {tree : ScopeTree} {s s' s'' : State} {node : ScopeNode} {id : HandleId}
variable {set : MigrationSet}
variable {decl : Declaration} {binding : Binding}

theorem SameHolders.holds (h : SameHolders s s') : s'.Holds id set ↔ s.Holds id set := by
  unfold State.Holds
  rw [h]

theorem holds_insert {set' : MigrationSet} {count : Nat} {other : HandleId}
    (h : (s.modifyHandle id fun handle =>
      { handle with holders := Assoc.insert set' count handle.holders }).Holds other set) :
    s.Holds other set ∨ other = id ∧ set' = set := by
  unfold State.Holds at h ⊢
  rw [State.handle_modifyHandle] at h
  split at h
  next hid =>
    rw [Assoc.find?_insert] at h
    by_cases hset : set' = set
    · exact .inr ⟨hid.1.symm, hset⟩
    · rw [if_neg hset] at h
      exact .inl h
  next => exact .inl h

theorem holds_erase {other : HandleId} {set' : MigrationSet}
    (h : (s.modifyHandle id fun handle =>
      { handle with holders := Assoc.erase set handle.holders }).Holds other set') :
    s.Holds other set' := by
  unfold State.Holds at h ⊢
  rw [State.handle_modifyHandle] at h
  split at h
  next =>
    rw [Assoc.find?_erase] at h
    split at h
    · cases h
    · exact h
  next => exact h

/-- A set that is held once migrations are acquired was held before, or is applied now. -/
theorem acquire_holds {root : String} {policy : Migration.Policy} {other : HandleId}
    (h : acquire root id policy s = (.ok (), s')) (hholds : s'.Holds other set) :
    s.Holds other set ∨ other = id ∧ migrationSet policy = set ∧
      (migrate .apply root id policy s).1 = .ok () := by
  rw [acquire_eq] at h
  split at h
  next held hfound =>
    cases h
    rcases holds_insert hholds with hbefore | ⟨rfl, rfl⟩
    · exact .inl hbefore
    · left
      unfold State.Holds
      rw [hfound]
      rfl
  next =>
    split at h
    next _ s₁ hrun =>
      have hsend := migrate_sending .apply root id policy s
      rw [hrun] at hsend
      cases h
      rcases holds_insert hholds with hbefore | ⟨rfl, rfl⟩
      · exact .inl (hsend.sameHolders.holds.mp hbefore)
      · exact .inr ⟨rfl, rfl, by rw [hrun]⟩
    next => cases h

namespace Coordinator

variable (c : Coordinator)

/-- The hook before a node, run in this state, gets as far as the binding. -/
inductive Binds (node : ScopeNode) (idles : Declaration → Prop)
    (obtain : Declaration → Action LifecycleError Binding)
    (ready : Declaration → Binding → Action LifecycleError Unit) (s : State) (binding : Binding) :
    Prop where
  | intro {decl : Declaration} {s₁ s₂ : State} (hadmits : c.Admits s node decl)
    (hactive : ¬ idles decl) (hobtain : obtain decl s = (.ok binding, s₁))
    (hready : ready decl binding s₁ = (.ok (), s₂))

/-- The hook before a class or a method, run in this state, binds it. -/
inductive Opens (s : State) (node : ScopeNode) (binding : Binding) : Prop where
  | testClass (hkind : node.kind = .testClass)
    (hbinds : c.Binds node LeftToMethods (c.obtainForClass node) c.readyForClass s binding)
  | testMethod (hkind : node.kind = .testMethod)
    (hbinds : c.Binds node (fun _ => False) (c.obtainForTest node) c.readyForTest s binding)

/-- The hook before a class, run in this state, applies a set of migrations to a shared instance. -/
inductive Acquires (s : State) (id : HandleId) (set : MigrationSet) : Prop where
  | intro {node : ScopeNode} {decl : Declaration} {s₁ : State} (hkind : node.kind = .testClass)
    (hadmits : c.Admits s node decl)
    (hobtain : c.obtainForClass node decl s = (.ok ⟨id, .shared⟩, s₁))
    (happlies : decl.migration.appliesAt .perClass) (hset : migrationSet decl.migration = set)
    (hdone : (c.migrate .apply id decl.migration s₁).1 = .ok ())

theorem Opens.opened (h : c.Opens s node binding) :
    s.finished.find? node c.backend.name = none := by
  rcases h with ⟨-, ⟨hadmits, -, -, -⟩⟩ | ⟨-, ⟨hadmits, -, -, -⟩⟩
  · exact hadmits.opened
  · exact hadmits.opened

theorem Opens.unbound (h : c.Opens s node binding) : c.binding? s node = none := by
  rcases h with ⟨-, ⟨hadmits, -, -, -⟩⟩ | ⟨-, ⟨hadmits, -, -, -⟩⟩
  · exact hadmits.unbound
  · exact hadmits.unbound

end Coordinator

variable {c : Coordinator}

/-- The node itself or the class around it, which a before-hook of the node may open. -/
def MayOpen (node other : ScopeNode) : Prop :=
  other = node ∨ node.ancestor? .testClass = some other

theorem MayOpen.mem {other : ScopeNode} (h : MayOpen node other) (hmem : node ∈ tree) :
    other ∈ tree := by
  rcases h with rfl | houter
  · exact hmem
  · exact (ScopeTree.ancestor?_mem hmem houter).1

/-- What was there before stays; what is new was opened or acquired by one hook of a node. -/
structure Entering (c : Coordinator) (asker : ScopeNode) (s s' : State) : Prop where
  declarations : s'.declarations = s.declarations
  finished : s'.finished = s.finished
  size : s.handles.size ≤ s'.handles.size
  alive : ∀ id < s.handles.size, (s'.handle id).stopped = (s.handle id).stopped
  kept : ∀ {place binding}, Assoc.find? place s.bindings.entries = some binding →
    Assoc.find? place s'.bindings.entries = some binding
  bound : ∀ {place binding}, Assoc.find? place s'.bindings.entries = some binding →
    Assoc.find? place s.bindings.entries = some binding ∨
      ∃ node, MayOpen asker node ∧ place = (node.number, c.bindingKey) ∧ c.Opens s node binding
  held : ∀ {id set}, s'.Holds id set → s.Holds id set ∨ c.Acquires s id set

namespace Entering

variable {asker : ScopeNode}

theorem refl (c : Coordinator) (asker : ScopeNode) (s : State) : Entering c asker s s :=
  ⟨rfl, rfl, Nat.le_refl _, fun _ _ => rfl, fun h => h, .inl, .inl⟩

/-- What a hook of a class adds, a hook of a method in it may add as well. -/
theorem around {outer : ScopeNode} (h : Entering c outer s s')
    (houter : node.ancestor? .testClass = some outer) : Entering c node s s' where
  declarations := h.declarations
  finished := h.finished
  size := h.size
  alive := h.alive
  kept := h.kept
  bound hfound := by
    refine (h.bound hfound).imp_right fun ⟨opened, hmay, hrest⟩ => ⟨opened, .inr ?_, hrest⟩
    rcases hmay with rfl | hmay
    · exact houter
    · rw [ScopeNode.ancestor?_self (by simpa using List.find?_some houter)] at hmay
      exact houter.trans hmay
  held := h.held

/-- An instance is prepared after what was done so far. -/
theorem prepared {started stopped : List ContainerId} (h : Entering c asker s s')
    (hprep : Preparing s.handles.size started stopped s' s'')
    (hheld : ∀ {id set}, s''.Holds id set → s'.Holds id set ∨ c.Acquires s id set) :
    Entering c asker s s'' where
  declarations := hprep.declarations.trans h.declarations
  finished := hprep.finished.trans h.finished
  size := Nat.le_trans h.size hprep.size
  alive id hid := (hprep.alive id hid).trans (h.alive id hid)
  kept hfound := by
    rw [hprep.bindings]
    exact h.kept hfound
  bound hfound := by
    rw [hprep.bindings] at hfound
    exact h.bound hfound
  held hholds := (hheld hholds).elim h.held .inr

theorem bind (h : Entering c node s s') (hfree : c.binding? s' node = none)
    (hopens : c.Opens s node binding) : Entering c node s (c.bind node binding s').2 where
  declarations := h.declarations
  finished := h.finished
  size := h.size
  alive := h.alive
  kept {place found} hfound := by
    obtain ⟨number, key⟩ := place
    have hbefore := h.kept hfound
    refine (find?_bind c s' number key).trans ?_
    split
    next hplace =>
      cases hplace
      cases hfree.symm.trans hbefore
    next => exact hbefore
  bound {place found} hfound := by
    obtain ⟨number, key⟩ := place
    rw [find?_bind] at hfound
    split at hfound
    next hplace =>
      cases hfound
      exact .inr ⟨node, .inl rfl, hplace.symm, hopens⟩
    next => exact h.bound hfound
  held := h.held

end Entering

namespace Coordinator

variable (c)

/-- What is done for a class of which the migrations are applied. -/
theorem applyForClass_of_applies {policy : Migration.Policy}
    (happlies : policy.appliesAt .perClass) (h : c.applyForClass binding policy s = (.ok (), s')) :
    (match binding.ownership with
      | .shared => acquire c.migrationRoot binding.handle policy
      | _ => c.migrate .apply binding.handle policy) s = (.ok (), s') := by
  unfold applyForClass at h
  rw [if_pos happlies] at h
  exact orStop_ok.mp h

theorem readyForClass_holds {other : HandleId} (h : c.readyForClass decl binding s = (.ok (), s'))
    (hholds : s'.Holds other set) :
    s.Holds other set ∨ binding = ⟨other, .shared⟩ ∧ decl.migration.appliesAt .perClass ∧
      migrationSet decl.migration = set ∧ (c.migrate .apply other decl.migration s).1 = .ok () := by
  by_cases happlies : decl.migration.appliesAt .perClass = true
  · have hrun := c.applyForClass_of_applies happlies h
    have hsame : ∀ {id}, c.migrate .apply id decl.migration s = (.ok (), s') →
        s.Holds other set := by
      intro id hmigrate
      have hsend := migrate_sending .apply c.migrationRoot id decl.migration s
      rw [show Lifecycle.migrate .apply c.migrationRoot id decl.migration s = _ from hmigrate]
        at hsend
      exact hsend.sameHolders.holds.mp hholds
    obtain ⟨id, ownership⟩ := binding
    cases ownership with
    | owned => exact .inl (hsame hrun)
    | borrowed => exact .inl (hsame hrun)
    | shared =>
        rcases acquire_holds hrun hholds with hbefore | ⟨rfl, hset, hdone⟩
        · exact .inl hbefore
        · exact .inr ⟨rfl, happlies, hset, hdone⟩
  · have hrun : c.readyForClass decl binding s = (.ok (), s) := congrFun (if_neg happlies) s
    cases hrun.symm.trans h
    exact .inl hholds

theorem readyForTest_sameHolders (decl : Declaration) (binding : Binding) :
    Action.Leaves SameHolders (c.readyForTest decl binding) := by
  intro s
  have hwarn := (c.warnOfRepetition_tending decl binding.handle s).2
  have happly : Action.Leaves SameHolders (c.applyForMethod binding decl.migration) := by
    unfold applyForMethod
    split
    · exact orStop_sameHolders fun s =>
        (migrate_sending .apply c.migrationRoot binding.handle decl.migration s).sameHolders
    · exact .refl
  exact hwarn.trans (happly (c.warnOfRepetition decl binding.handle s).2)

/-! ## The hooks -/

/-- An instance is obtained without any binding, and is only stopped in this hook if it is new. -/
def Obtains (s : State) (node : ScopeNode) (r : Except LifecycleError Binding) (s' : State) :
    Prop :=
  Entering c node s s' ∧ c.binding? s' node = c.binding? s node ∧
    ∀ binding, r = .ok binding → Ownable s.handles.size binding s'

variable {c}

theorem Procured.obtains {r : Except LifecycleError Binding}
    (h : c.Procured decl s.handles.size s r s') (hholders : SameHolders s s') (node : ScopeNode) :
    c.Obtains s node r s' := by
  obtain ⟨_, _, hprep⟩ := h.preparing
  refine ⟨(Entering.refl c node s).prepared hprep fun hholds => .inl (hholders.holds.mp hholds),
    ?_, ?_⟩
  · rw [binding?, hprep.bindings]
    rfl
  · rintro binding rfl
    exact h.ownable

/-- What a hook adds, by what obtaining an instance and making it ready add. -/
theorem Comes.entering {idles : Declaration → Prop}
    {obtain : Declaration → Action LifecycleError Binding}
    {ready : Declaration → Binding → Action LifecycleError Unit} {r : Except LifecycleError Unit}
    (h : c.Comes node idles obtain ready s r s')
    (hobtain : ∀ {decl}, c.Admits s node decl →
      (obtain decl).Yields s (c.Obtains s node))
    (hready : ∀ {decl binding s₁}, Ownable s.handles.size binding s₁ →
      (ready decl binding).Yields s₁ (Readied s.handles.size binding s₁))
    (hheld : ∀ {decl binding s₁ s₂ id set}, c.Admits s node decl →
      obtain decl s = (.ok binding, s₁) → ready decl binding s₁ = (.ok (), s₂) → s₂.Holds id set →
      s₁.Holds id set ∨ c.Acquires s id set)
    (hopens : ∀ {binding}, c.Binds node idles obtain ready s binding → c.Opens s node binding) :
    Entering c node s s' := by
  cases h with
  | refused => exact Entering.refl c node s
  | idle => exact Entering.refl c node s
  | unobtained hadmits hrun => exact ((hobtain hadmits).of_run hrun).1
  | unready hadmits hrun hfailed =>
      obtain ⟨hentering, -, hown⟩ := (hobtain hadmits).of_run hrun
      have hreadied := (hready (hown _ rfl)).of_run hfailed
      obtain ⟨_, hprep⟩ := hreadied.preparing
      exact hentering.prepared hprep fun hholds => .inl (hreadied.sameHolders.holds.mp hholds)
  | bound hadmits hactive hrun hdone =>
      obtain ⟨hentering, hfree, hown⟩ := (hobtain hadmits).of_run hrun
      obtain ⟨_, hprep⟩ := ((hready (hown _ rfl)).of_run hdone).preparing
      refine (hentering.prepared hprep (hheld hadmits hrun hdone)).bind ?_
        (hopens ⟨hadmits, hactive, hrun, hdone⟩)
      rw [binding?, hprep.bindings]
      exact hfree.trans hadmits.unbound

variable (c)

theorem beforeAll_entering (node : ScopeNode) (s : State) :
    (c.beforeAll node).Yields s fun _ s' => Entering c node s s' := by
  by_cases hkind : node.kind = .testClass
  · refine (c.beforeAll_comes node s).mono fun r s' h => ?_
    refine h.entering ?_ c.readyForClass_readied ?_ fun hbinds => .testClass hkind hbinds
    · intro decl _
      refine (c.obtainForClass_spec node decl s).mono fun r s₁ hspec => ?_
      exact hspec.1.obtains hspec.2 node
    · intro decl binding s₁ s₂ id set hadmits hobtain hready hholds
      rcases c.readyForClass_holds hready hholds with hbefore | ⟨rfl, happlies, hset, hdone⟩
      · exact .inl hbefore
      · exact .inr ⟨hkind, hadmits, hobtain, happlies, hset, hdone⟩
  · unfold Action.Yields
    rw [c.beforeAll_of_kind_ne hkind]
    exact Entering.refl c node s

variable {c}

/-- A before-hook binds no other node, unless obtaining the instance does. -/
theorem Comes.elsewhere {idles : Declaration → Prop}
    {obtain : Declaration → Action LifecycleError Binding}
    {ready : Declaration → Binding → Action LifecycleError Unit} {r : Except LifecycleError Unit}
    {number : Nat} {key : String × String} (h : c.Comes node idles obtain ready s r s')
    (hne : number ≠ node.number)
    (hobtain : ∀ {decl}, c.Admits s node decl → (obtain decl).Yields s fun r s₁ =>
      Assoc.find? (number, key) s₁.bindings.entries = Assoc.find? (number, key) s.bindings.entries ∧
        ∀ binding, r = .ok binding → Ownable s.handles.size binding s₁)
    (hready : ∀ {decl binding s₁}, Ownable s.handles.size binding s₁ →
      (ready decl binding).Yields s₁ (Readied s.handles.size binding s₁)) :
    Assoc.find? (number, key) s'.bindings.entries =
      Assoc.find? (number, key) s.bindings.entries := by
  cases h with
  | refused => rfl
  | idle => rfl
  | unobtained hadmits hrun => exact ((hobtain hadmits).of_run hrun).1
  | unready hadmits hrun hfailed =>
      obtain ⟨hsame, hown⟩ := (hobtain hadmits).of_run hrun
      obtain ⟨_, hlast⟩ := ((hready (hown _ rfl)).of_run hfailed).preparing
      rw [hlast.bindings, hsame]
  | bound hadmits hactive hrun hdone =>
      obtain ⟨hsame, hown⟩ := (hobtain hadmits).of_run hrun
      obtain ⟨_, hlast⟩ := ((hready (hown _ rfl)).of_run hdone).preparing
      rw [find?_bind, if_neg, hlast.bindings, hsame]
      rintro ⟨⟩
      exact hne rfl

theorem Procured.elsewhere {r : Except LifecycleError Binding}
    (h : c.Procured decl s.handles.size s r s') (place : Nat × (String × String)) :
    Assoc.find? place s'.bindings.entries = Assoc.find? place s.bindings.entries ∧
      ∀ binding, r = .ok binding → Ownable s.handles.size binding s' := by
  obtain ⟨_, _, hprep⟩ := h.preparing
  refine ⟨by rw [hprep.bindings], ?_⟩
  rintro binding rfl
  exact h.ownable

variable (c)

/-- The hook before a class binds no other node. -/
theorem beforeAll_elsewhere {number : Nat} (hne : number ≠ node.number) (key : String × String)
    (s : State) :
    (c.beforeAll node).Yields s fun _ s' => Assoc.find? (number, key) s'.bindings.entries =
      Assoc.find? (number, key) s.bindings.entries :=
  (c.beforeAll_comes node s).mono fun _ _ h => h.elsewhere hne
    (fun {decl} _ => (c.obtainForClass_spec node decl s).mono fun _ _ hspec => hspec.1.elsewhere _)
    c.readyForClass_readied

theorem borrowFromClass_obtains (hmem : node ∈ tree) (hkind : node.kind = .testMethod) (s : State) :
    (c.borrowFromClass node).Yields s (c.Obtains s node) := by
  -- the class has another number than the method, so opening it binds nothing to the method
  have hopened : ∀ {outer r s'}, node.ancestor? .testClass = some outer →
      c.beforeAll outer s = (r, s') →
      Entering c node s s' ∧ c.binding? s' node = c.binding? s node := by
    intro outer r s' houter hrun
    obtain ⟨houtermem, houterkind⟩ := ScopeTree.ancestor?_mem hmem houter
    have hne : node.number ≠ outer.number := by
      refine ScopeTree.number_ne_of_kind_ne hmem houtermem ?_
      rw [hkind, houterkind]
      decide
    exact ⟨((c.beforeAll_entering outer s).of_run hrun).around houter,
      (c.beforeAll_elsewhere hne c.bindingKey s).of_run hrun⟩
  refine (c.borrowFromClass_borrows node s).mono ?_
  intro r s' h
  cases h with
  | outside => exact ⟨Entering.refl c node s, rfl, fun _ heq => by cases heq⟩
  | unopened houter hopen =>
      obtain ⟨hentering, hsame⟩ := hopened houter hopen
      exact ⟨hentering, hsame, fun _ heq => by cases heq⟩
  | vacant houter hopen =>
      obtain ⟨hentering, hsame⟩ := hopened houter hopen
      exact ⟨hentering, hsame, fun _ heq => by cases heq⟩
  | borrowed houter hopen =>
      obtain ⟨hentering, hsame⟩ := hopened houter hopen
      refine ⟨hentering, hsame, ?_⟩
      rintro _ ⟨⟩
      exact ownable_borrowed _ _ _

theorem beforeEach_entering (hmem : node ∈ tree) (s : State) :
    (c.beforeEach node).Yields s fun _ s' => Entering c node s s' := by
  by_cases hkind : node.kind = .testMethod
  · refine (c.beforeEach_comes node s).mono fun r s' h => ?_
    refine h.entering ?_ c.readyForTest_readied ?_ fun hbinds => .testMethod hkind hbinds
    · intro decl _
      unfold obtainForTest
      split
      next =>
        refine (c.obtainForMethod_spec node decl s).mono fun r s₁ hspec => ?_
        exact hspec.1.obtains hspec.2 node
      next => exact c.borrowFromClass_obtains hmem hkind s
    · intro decl binding s₁ s₂ id set hadmits hobtain hready hholds
      have hsame := c.readyForTest_sameHolders decl binding s₁
      rw [hready] at hsame
      exact .inl (hsame.holds.mp hholds)
  · unfold Action.Yields
    rw [c.beforeEach_of_kind_ne hkind]
    exact Entering.refl c node s

/-! ## Asking for a connection -/

theorem prepare_entering (hmem : node ∈ tree) (s : State) :
    (c.prepare node).Yields s fun _ s' => Entering c node s s' := by
  have hrefl := Entering.refl c node s
  unfold prepare
  cases node.kind with
  | testMethod => exact c.beforeEach_entering hmem s
  | run => exact hrefl
  | testClass =>
      refine Action.Yields.get_bind (Action.Yields.except_bind ?_ fun _ _ => hrefl)
      intro decl _
      dsimp only
      split
      · exact hrefl
      · exact c.beforeAll_entering node s

end Coordinator

end ScopedResources.Lifecycle
