import ScopedResources.Proofs.Course

/-!
# Hooks that fail

A before-hook that fails leaves its node as it was, and what it started is told to stop again. Two
things outlast it: the instance that the registry has for the run, and the class around a method,
which stays open if only the method fails. So a node that is bound got all that its hook was to do
for it. -/

namespace ScopedResources.Lifecycle

open Trace

variable {tree : ScopeTree} {s s' s'' : State} {node cls outer : ScopeNode} {id : HandleId}
variable {set : MigrationSet} {box : ContainerId} {decl : Declaration} {binding : Binding}

/-! ## What a hook that fails leaves -/

namespace Coordinator

variable (c : Coordinator)

/-- The hook before a method, run in this state, opens the class around it. -/
structure EntersClass (s : State) (node outer : ScopeNode) : Prop where
  kind : node.kind = .testMethod
  around : node.ancestor? .testClass = some outer
  opened : (c.beforeAll outer s).1 = .ok ()

/-- A container that was started in a hook that failed was told to stop, or it is behind an instance
that outlasts the hook. -/
inductive Accounted (node : ScopeNode) (s s' : State) (box : ContainerId) : Prop where
  | stopped (hstops : s.stops box < s'.stops box)
  | registered {visited : ScopeNode} {decl : Declaration} {id : HandleId}
    (hvisited : visited ∈ node.enclosing) (hdecl : c.declarationAt s visited = .ok decl)
    (hbacks : c.BacksRun s' decl id box)
  | ofClass {outer : ScopeNode} {id : HandleId} (henters : c.EntersClass s node outer)
    (hbound : c.binding? s' outer = some ⟨id, .owned⟩) (hfronts : s'.Fronts id box)

/-- The node holds what it held, and whatever the hook before it has begun is finished or undone. -/
structure Undone (node : ScopeNode) (s s' : State) : Prop where
  declarations : s'.declarations = s.declarations
  overrides : s'.overrides = s.overrides
  finished : s'.finished = s.finished
  bindings : ∀ key, s'.bindings.get? node key = s.bindings.get? node key
  holders : SameHolders s s' ∨
    ∃ outer, c.EntersClass s node outer ∧ SameHolders (c.beforeAll outer s).2 s'
  containers : ∀ box, s.starts box < s'.starts box → c.Accounted node s s' box

/-- What the hook before a class comes to if it succeeds. -/
inductive Opened (cls : ScopeNode) (s : State) : State → Prop where
  | idle : Opened cls s s
  | bound {decl : Declaration} {binding : Binding} {started : List ContainerId} {s' : State}
    (hdecl : c.declarationAt s cls = .ok decl)
    (hprep : Preparing s.handles.size started [] s s')
    (hbehind : ∀ box ∈ started, c.BacksRun s' decl binding.handle box ∨
      binding.ownership = .owned ∧ s'.Fronts binding.handle box) :
    Opened cls s (c.bind cls binding s').2

theorem Undone.refl (node : ScopeNode) (s : State) : c.Undone node s s :=
  ⟨rfl, rfl, rfl, fun _ => rfl, .inl (.refl s), fun _ hlt => absurd hlt (Nat.lt_irrefl _)⟩

variable {c}

/-- A hook that got no further than its own instance. -/
theorem Unwound.undone (h : c.Unwound cls s s') (hcls : cls ∈ node.enclosing) :
    c.Undone node s s' := by
  obtain ⟨started, stopped, hprep, hholders, hbehind⟩ := h
  refine ⟨hprep.declarations, hprep.overrides, hprep.finished, ?_, .inl hholders, ?_⟩
  · intro key
    rw [hprep.bindings]
  · intro box hstarts
    rcases hbehind box (hprep.mem_of_starts_lt hstarts) with hstopped | ⟨decl, id, hdecl, hbacks⟩
    · exact .stopped (hprep.stops_lt_of_mem hstopped)
    · exact .registered hcls hdecl hbacks

theorem beforeAll_unwound {error : LifecycleError} (h : c.beforeAll node s = (.error error, s')) :
    c.Unwound node s s' :=
  ((c.beforeAll_comes node s).of_run h).unwound
    (fun {decl} _ => c.obtainForClass_spec node decl s) c.readyForClass_readied

theorem beforeAll_opened (h : c.beforeAll cls s = (.ok (), s')) : c.Opened cls s s' := by
  cases (c.beforeAll_comes cls s).of_run h with
  | idle => exact .idle
  | @bound decl binding s₁ s₂ hadmits _ hobtain hready =>
      have hprocured := ((c.obtainForClass_spec cls decl s).of_run hobtain).1
      cases (c.readyForClass_readied hprocured.ownable).of_run hready with
      | ready htend =>
          obtain ⟨started, hprep, hbehind⟩ := hprocured.ready htend
          exact .bound hadmits.declared hprep hbehind

/-- A method that fails once its class is open leaves the class open. -/
theorem Opened.undone (h : c.Opened outer s s') (hrun : c.beforeAll outer s = (.ok (), s'))
    (hkind : node.kind = .testMethod) (houter : node.ancestor? .testClass = some outer)
    (hne : node.number ≠ outer.number) (htend : Tending s' s'') (hholders : SameHolders s' s'') :
    c.Undone node s s'' := by
  have henters : c.EntersClass s node outer := ⟨hkind, houter, by rw [hrun]⟩
  have hheld : SameHolders (c.beforeAll outer s).2 s'' := by rwa [hrun]
  cases h with
  | idle =>
      refine ⟨htend.declarations, htend.overrides, htend.finished, ?_, .inl hholders, ?_⟩
      · intro key
        rw [htend.bindings]
      · intro box hstarts
        rw [htend.starts] at hstarts
        exact absurd hstarts (Nat.lt_irrefl _)
  | @bound decl binding started s₂ hdecl hprep hbehind =>
      refine ⟨htend.declarations.trans hprep.declarations, htend.overrides.trans hprep.overrides,
        htend.finished.trans hprep.finished, ?_, .inr ⟨outer, henters, hheld⟩, ?_⟩
      · intro key
        rw [htend.bindings]
        refine (find?_bind c s₂ node.number key).trans ?_
        rw [if_neg fun heq => hne (congrArg Prod.fst heq).symm, hprep.bindings]
        rfl
      · intro box hstarts
        rw [htend.starts] at hstarts
        have hmem : outer ∈ node.enclosing := List.mem_of_find?_eq_some houter
        rcases hbehind box (hprep.mem_of_starts_lt hstarts) with hbacks | ⟨howned, hfronts⟩
        · have hbacks' : c.BacksRun (c.bind outer binding s₂).2 decl binding.handle box := hbacks
          exact .registered hmem hdecl (hbacks'.tending htend)
        · have hfronts' : (c.bind outer binding s₂).2.Fronts binding.handle box :=
            ⟨hfronts.known, hfronts.container?, hfronts.live⟩
          refine .ofClass henters ?_ (htend.fronts_iff.mpr hfronts')
          rw [binding?, htend.bindings]
          refine (binding?_bind c s₂ outer outer binding).trans ?_
          rw [if_pos rfl, ← howned]

variable (c)

theorem mem_enclosing_self (node : ScopeNode) : node ∈ node.enclosing := by
  obtain ⟨place, above⟩ := node
  cases above <;> exact List.mem_cons_self ..

/-- A hook before a method that is to borrow the instance of its class. -/
theorem borrowing_undone {error : LifecycleError} (hmem : node ∈ tree)
    (hmode : ∀ decl, c.declarationAt s node = .ok decl → decl.mode ≠ .testMethod)
    (hkind : node.kind = .testMethod) (h : c.beforeEach node s = (.error error, s')) :
    c.Undone node s s' := by
  have hborrow : ∀ {decl r s₁}, c.Admits s node decl → c.obtainForTest node decl s = (r, s₁) →
      c.Borrows node s r s₁ := by
    intro decl r s₁ hadmits hobtain
    unfold obtainForTest at hobtain
    rw [if_neg (hmode decl hadmits.declared)] at hobtain
    exact (c.borrowFromClass_borrows node s).of_run hobtain
  have hopened : ∀ {outer s₁ s₂}, node.ancestor? .testClass = some outer →
      c.beforeAll outer s = (.ok (), s₁) → Tending s₁ s₂ → SameHolders s₁ s₂ →
      c.Undone node s s₂ := by
    intro outer s₁ s₂ houter hopen
    obtain ⟨houtermem, houterkind⟩ := ScopeTree.ancestor?_mem hmem houter
    have hne : node.number ≠ outer.number := by
      refine ScopeTree.number_ne_of_kind_ne hmem houtermem ?_
      rw [hkind, houterkind]
      decide
    exact (beforeAll_opened hopen).undone hopen hkind houter hne
  cases (c.beforeEach_comes node s).of_run h with
  | refused => exact Undone.refl c node s
  | unobtained hadmits hobtain =>
      cases hborrow hadmits hobtain with
      | outside => exact Undone.refl c node s
      | vacant houter hopen => exact hopened houter hopen (Tending.refl s') (.refl s')
      | unopened houter hopen =>
          exact (beforeAll_unwound hopen).undone (List.mem_of_find?_eq_some houter)
  | unready hadmits hobtain hready =>
      cases hborrow hadmits hobtain with
      | borrowed houter hopen hbound =>
          cases (c.readyForTest_readied (ownable_borrowed 0 _ _)).of_run hready with
          | spared _ htend hholders => exact hopened houter hopen htend hholders
          | stopped howned => cases howned

theorem beforeEach_undone {error : LifecycleError} (hmem : node ∈ tree)
    (h : c.beforeEach node s = (.error error, s')) : c.Undone node s s' := by
  by_cases hkind : node.kind = .testMethod
  · by_cases hmode : ∃ decl, c.declarationAt s node = .ok decl ∧ decl.mode = .testMethod
    · obtain ⟨decl, hdecl, hmode⟩ := hmode
      refine (((c.beforeEach_comes node s).of_run h).unwound ?_ c.readyForTest_readied).undone
        (mem_enclosing_self node)
      intro seen hadmits
      cases hdecl.symm.trans hadmits.declared
      unfold obtainForTest
      rw [if_pos hmode]
      exact c.obtainForMethod_spec node decl s
    · refine c.borrowing_undone hmem (fun decl hdecl hown => ?_) hkind h
      exact hmode ⟨decl, hdecl, hown⟩
  · rw [c.beforeEach_of_kind_ne hkind] at h
    cases h
    exact Undone.refl c node s

end Coordinator

/-! ## What a node that is bound got -/

namespace Coordinator

variable (c : Coordinator)

/-- What the policy has applied before a node of this kind was applied to the instance that the
hook, run in this state, binds the node to; migrations of a shared instance may be held already. -/
inductive Furnishes (s : State) (held : HandleId → MigrationSet → Prop) (node : ScopeNode)
    (binding : Binding) : Prop where
  | testClass {decl : Declaration} {s₁ : State} (hkind : node.kind = .testClass)
    (hadmits : c.Admits s node decl)
    (hobtain : c.obtainForClass node decl s = (.ok binding, s₁))
    (happlied : decl.migration.appliesAt .perClass →
      (c.migrate .apply binding.handle decl.migration s₁).1 = .ok () ∨
        binding.ownership = .shared ∧ held binding.handle (migrationSet decl.migration))
  | testMethod {decl : Declaration} {s₁ : State} (hkind : node.kind = .testMethod)
    (hadmits : c.Admits s node decl)
    (hobtain : c.obtainForTest node decl s = (.ok binding, s₁))
    (happlied : decl.migration.appliesAt .perMethod →
      (c.migrate .apply binding.handle decl.migration
        (c.warnOfRepetition decl binding.handle s₁).2).1 = .ok ())

variable {c}

theorem Furnishes.mono {held held' : HandleId → MigrationSet → Prop}
    (h : c.Furnishes s held node binding) (himp : ∀ {id set}, held id set → held' id set) :
    c.Furnishes s held' node binding := by
  cases h with
  | testClass hkind hadmits hobtain happlied =>
      refine .testClass hkind hadmits hobtain fun happlies => ?_
      exact (happlied happlies).imp_right fun hheld => ⟨hheld.1, himp hheld.2⟩
  | testMethod hkind hadmits hobtain happlied => exact .testMethod hkind hadmits hobtain happlied

/-- Migrations that are acquired are applied, or somebody relies on them already. -/
theorem acquire_applied {policy : Migration.Policy}
    (h : acquire c.migrationRoot id policy s = (.ok (), s')) :
    (c.migrate .apply id policy s).1 = .ok () ∨ s.Holds id (migrationSet policy) := by
  rw [acquire_eq] at h
  split at h
  next held hfound =>
    right
    unfold State.Holds
    rw [hfound]
    rfl
  next =>
    left
    unfold migrate
    split at h
    next hrun => rw [hrun]
    next => cases h

theorem Opens.furnishes (h : c.Opens s node binding) : c.Furnishes s s.Holds node binding := by
  rcases h with ⟨hkind, ⟨hadmits, -, hobtain, hready⟩⟩ | ⟨hkind, ⟨hadmits, -, hobtain, hready⟩⟩
  · refine .testClass hkind hadmits hobtain fun happlies => ?_
    have hholders := ((c.obtainForClass_spec node _ s).of_run hobtain).2
    have hrun := c.applyForClass_of_applies happlies hready
    obtain ⟨id, ownership⟩ := binding
    cases ownership with
    | owned => exact .inl (congrArg Prod.fst hrun)
    | borrowed => exact .inl (congrArg Prod.fst hrun)
    | shared => exact (acquire_applied hrun).imp_right fun hheld => ⟨rfl, hholders.holds.mp hheld⟩
  · refine .testMethod hkind hadmits hobtain fun happlies => ?_
    unfold readyForTest at hready
    rw [Action.run_bind, Action.run_lift] at hready
    unfold applyForMethod at hready
    rw [if_pos happlies] at hready
    exact congrArg Prod.fst (orStop_ok.mp hready)

end Coordinator

/-- A request in the course of a run applied a set of migrations, and somebody relied on it after
every act since. -/
def HeldSince (root : ScopeNode) (start : State) (acts : List Act) (id : HandleId)
    (set : MigrationSet) : Prop :=
  ∃ before c asker asked after, acts = before ++ .call (.request c asker asked) :: after ∧
    c.Acquires (course root start before) id set ∧
    ∀ since, since <+: after →
      (course root start (before ++ .call (.request c asker asked) :: since)).Holds id set

variable {start : State} {acts : List Act} {act : Act}

theorem HeldSince.concat {root : ScopeNode} (h : HeldSince root start acts id set)
    (hholds : (course root start (acts ++ [act])).Holds id set) :
    HeldSince root start (acts ++ [act]) id set := by
  obtain ⟨before, c, asker, asked, after, rfl, hacquires, hsince⟩ := h
  refine ⟨before, c, asker, asked, after ++ [act], by simp, hacquires, fun since hprefix => ?_⟩
  rcases List.prefix_concat_iff.mp hprefix with rfl | hprefix
  · rwa [List.append_assoc] at hholds
  · exact hsince since hprefix

/-- What is held in the course of a run was applied in it. -/
theorem heldSince_of_holds (hwithin : ∀ act ∈ acts, act.Within tree)
    (hstart : ∀ {id set}, ¬ start.Holds id set)
    (hholds : (course tree.root start acts).Holds id set) :
    HeldSince tree.root start acts id set := by
  induction acts using List.reverseRecOn with
  | nil => exact absurd hholds hstart
  | append_singleton before act ih =>
      have hbefore := fun act hact => hwithin act (List.mem_append_left _ hact)
      have hstep := course_concat_advance (hwithin act (by simp)) start before
      rcases hstep.held hholds with hheld | ⟨c, asker, asked, rfl, hacquires⟩
      · exact (ih hbefore hheld).concat hholds
      · refine ⟨before, c, asker, asked, [], rfl, hacquires, fun since hprefix => ?_⟩
        rwa [List.prefix_nil.mp hprefix]

/-- A request at a node, or at a method in it, bound the node in the course of a run, after all that
the policy applies there was applied; what a class relied on without applying it had been held since
before. -/
def FurnishedIn (root : ScopeNode) (start : State) (acts : List Act) (key : String × String)
    (node : ScopeNode) (binding : Binding) : Prop :=
  ∃ before c asker asked after, acts = before ++ .call (.request c asker asked) :: after ∧
    c.bindingKey = key ∧ MayOpen asker node ∧
    c.binding? (course root start before) node = none ∧
    c.binding? (course root start (before ++ [.call (.request c asker asked)])) node =
      some binding ∧
    c.Furnishes (course root start before) (HeldSince root start before) node binding

/-- A node that is bound in the course of a run got what its policy applies there. -/
theorem furnishedIn_of_bound {c : Coordinator} (hwithin : ∀ act ∈ acts, act.Within tree)
    (hmem : node ∈ tree) (hheld : ∀ {id set}, ¬ start.Holds id set)
    (hfree : c.binding? start node = none)
    (hbound : c.binding? (course tree.root start acts) node = some binding) :
    FurnishedIn tree.root start acts c.bindingKey node binding := by
  induction acts using List.reverseRecOn with
  | nil => cases hfree.symm.trans hbound
  | append_singleton before act ih =>
      have hbefore := fun act hact => hwithin act (List.mem_append_left _ hact)
      have hstep := course_concat_advance (hwithin act (by simp)) start before
      rcases hstep.bound hbound with hfound |
        ⟨opener, asker, asked, opened, rfl, hmay, hopened, hplace, hopens⟩
      · obtain ⟨first, opener, asker, asked, after, rfl, hfurnished⟩ := ih hbefore hfound
        exact ⟨first, opener, asker, asked, after ++ [act], by simp, hfurnished⟩
      · injection hplace with hnumber hkey
        obtain rfl := tree.eq_of_number_eq hmem hopened hnumber
        refine ⟨before, opener, asker, asked, [], rfl, hkey.symm, hmay, hopens.unbound, ?_, ?_⟩
        · rw [← hbound, Coordinator.binding?, Coordinator.binding?, hkey]
        · exact hopens.furnishes.mono (heldSince_of_holds hbefore hheld)

theorem initial_not_holds (environment : Environment) (files : Files.Tree)
    (servers : Assoc String Memory.Server) :
    ¬ (State.initial environment files servers).Holds id set := by
  intro hheld
  unfold State.Holds at hheld
  rw [State.handle_of_size_le _ (Nat.zero_le id)] at hheld
  cases hheld

/-- In every state that a run comes to, a before-hook that fails leaves nothing half done: the node
holds what it held before, nobody relies on more migrations or fewer, except for the class around
the node if that was opened, and every container that was started has been told to stop, or is that
of the run or of the class. And a node that is bound got all the migrations that its policy applies
there: they were applied to the instance by the hook that bound the node, or a class has held them
since before. -/
theorem nothing_left_half_done {environment : Environment} {files : Files.Tree}
    {servers : Assoc String Memory.Server} (hwithin : ∀ act ∈ acts, act.Within tree)
    (hs : s = course tree.root (.initial environment files servers) acts) (hmem : node ∈ tree)
    (c : Coordinator) :
    (∀ error s', c.beforeAll node s = (.error error, s') ∨
      c.beforeEach node s = (.error error, s') → c.Undone node s s') ∧
    ∀ binding, c.binding? s node = some binding →
      FurnishedIn tree.root (.initial environment files servers) acts c.bindingKey
        node binding := by
  constructor
  · rintro error s' (hfailed | hfailed)
    · exact (Coordinator.beforeAll_unwound hfailed).undone (Coordinator.mem_enclosing_self node)
    · exact c.beforeEach_undone hmem hfailed
  · intro binding hbound
    rw [hs] at hbound
    exact furnishedIn_of_bound hwithin hmem (initial_not_holds environment files servers) rfl hbound

/-! A class with migrations for its methods that are nowhere, and a class that uses a container of
the run. -/

namespace TwoClasses

/-- What comes before the method. -/
def beforeTest : List Act :=
  [.call (.request coordinator alone (.declare
      { migration := { engine := .scripts, apply := .perMethod, locations := [""] } })),
    .call (.request coordinator together (.declare { mode := .run })),
    .call (.request coordinator together .beforeAll)]

def stateBeforeTest : State :=
  course scopesWithTest.root (.initial {} {} []) beforeTest

theorem beforeTest_within : ∀ act ∈ beforeTest, act.Within scopesWithTest := by
  simp [beforeTest, Act.Within, Call.Within, alone_mem', together_mem']

end TwoClasses

open TwoClasses in
/-- The method fails, and the class around it keeps the container that was started for it. -/
theorem failed_method_leaves_class_open :
    (∀ act ∈ beforeTest, act.Within scopesWithTest) ∧ test ∈ scopesWithTest ∧
      (coordinator.beforeEach test stateBeforeTest).1 =
        .error (.migration "SCRIPTS" "" "location does not exist") ∧
      stateBeforeTest.starts ("MEMORY", 1) <
        (coordinator.beforeEach test stateBeforeTest).2.starts ("MEMORY", 1) ∧
      coordinator.Undone test stateBeforeTest (coordinator.beforeEach test stateBeforeTest).2 ∧
      coordinator.binding? (coordinator.beforeEach test stateBeforeTest).2 alone =
        some ⟨1, .owned⟩ ∧
      coordinator.binding? stateBeforeTest together = some ⟨0, .shared⟩ ∧
      FurnishedIn scopesWithTest.root (.initial {} {} []) beforeTest coordinator.bindingKey together
        ⟨0, .shared⟩ := by
  have hfailed : (coordinator.beforeEach test stateBeforeTest).1 =
      .error (.migration "SCRIPTS" "" "location does not exist") := rfl
  have hs : stateBeforeTest = course scopesWithTest.root (.initial {} {} []) beforeTest := rfl
  have htest := nothing_left_half_done beforeTest_within hs test_mem coordinator
  have htogether := nothing_left_half_done beforeTest_within hs together_mem' coordinator
  exact ⟨beforeTest_within, test_mem, hfailed, by decide +kernel,
    htest.1 _ _ (.inr (Prod.ext hfailed rfl)), rfl, rfl, htogether.2 _ rfl⟩

end ScopedResources.Lifecycle
