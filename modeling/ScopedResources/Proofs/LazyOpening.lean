import ScopedResources.Proofs.Apportioned
import ScopedResources.Proofs.Known

/-!
# Opening a class for a method

A method that needs the instance of its class runs the hook before the class first, if that has not
run. So it does not matter whether class and method are opened one after the other or a connection
is just asked for. Once they are open the hooks before them change nothing, and requests find the
same handle as long as nothing comes to an end. -/

namespace ScopedResources.Lifecycle

open Trace

variable {tree : ScopeTree} {c : Coordinator} {s s' s'' s₁ s₂ s₃ : State} {cls method : ScopeNode}
variable {id : HandleId} {decl : Declaration}

/-! ## What lasts while nothing comes to an end -/

/-- Marks are the same, bindings are kept, and what was made before was not stopped. -/
structure Lasting (s s' : State) : Prop where
  finished : s'.finished = s.finished
  size : s.handles.size ≤ s'.handles.size
  alive : ∀ id < s.handles.size, (s'.handle id).stopped = (s.handle id).stopped
  kept : ∀ {place binding}, Assoc.find? place s.bindings.entries = some binding →
    Assoc.find? place s'.bindings.entries = some binding

namespace Lasting

theorem refl (s : State) : Lasting s s :=
  ⟨rfl, Nat.le_refl _, fun _ _ => rfl, fun h => h⟩

theorem trans (h : Lasting s s') (h' : Lasting s' s'') : Lasting s s'' where
  finished := h'.finished.trans h.finished
  size := Nat.le_trans h.size h'.size
  alive id hid := (h'.alive id (Nat.lt_of_lt_of_le hid h.size)).trans (h.alive id hid)
  kept hfound := h'.kept (h.kept hfound)

theorem of_eq (hfinished : s'.finished = s.finished) (hhandles : s'.handles = s.handles)
    (hbindings : s'.bindings = s.bindings) : Lasting s s' where
  finished := hfinished
  size := Nat.le_of_eq (by rw [hhandles])
  alive id _ := by rw [State.handle, State.handle, hhandles]
  kept hfound := by rwa [hbindings]

end Lasting

theorem Entering.lasting (h : Entering c node s s') : Lasting s s' :=
  ⟨h.finished, h.size, h.alive, h.kept⟩

theorem request_lasting (c : Coordinator) {node : ScopeNode} (hmem : node ∈ tree) {asked : Request}
    (hcalm : (Act.call (.request c node asked)).Calm) (s : State) :
    Lasting s (asked.perform c node s) := by
  refine Coordinator.request_cases (Q := Lasting s) (fun _ => .of_eq rfl rfl rfl)
    (fun _ => .of_eq rfl rfl rfl) (Lasting.refl s)
    (fun _ => (c.beforeAll_entering node s).lasting)
    (fun _ => (c.beforeEach_entering hmem s).lasting)
    (fun _ => (c.prepare_entering hmem s).lasting) ?_ ?_
  · rintro rfl
    exact hcalm.elim
  · rintro rfl
    exact hcalm.elim

theorem perform_lasting {act : Act} (hwithin : act.Within tree) (hcalm : act.Calm) (s : State) :
    Lasting s (act.perform tree.root s) := by
  cases act with
  | grow parent kind name => exact .of_eq rfl rfl rfl
  | stop id => exact hcalm.elim
  | shutdown => exact hcalm.elim
  | disconnect id =>
      refine ⟨rfl, Nat.le_of_eq (s.size_modifyHandle id _).symm, fun other _ => ?_, fun h => h⟩
      unfold Act.perform
      rw [State.handle_modifyHandle]
      split <;> rfl
  | call made =>
      cases made with
      | request c node asked => exact request_lasting c hwithin hcalm s
      | finish => exact hcalm.elim
      | surround environment files => exact .of_eq rfl rfl rfl
      | disturb name server =>
          dsimp only [Act.perform, Call.perform]
          split
          · exact .of_eq rfl rfl rfl
          · exact Lasting.refl s

theorem course_lasting {acts : List Act} (hwithin : ∀ act ∈ acts, act.Within tree)
    (hcalm : ∀ act ∈ acts, act.Calm) (s : State) : Lasting s (course tree.root s acts) := by
  induction acts generalizing s with
  | nil => exact Lasting.refl s
  | cons act rest ih =>
      have hstep := perform_lasting (hwithin act (List.mem_cons_self ..))
        (hcalm act (List.mem_cons_self ..)) s
      exact hstep.trans (ih (fun next hnext => hwithin next (List.mem_cons_of_mem _ hnext))
        (fun next hnext => hcalm next (List.mem_cons_of_mem _ hnext)) _)

/-! ## Hooks that have nothing left to do -/

namespace Coordinator

/-- Neither hook changes anything, and every request finds the handle. A class that leaves its
methods to provide for themselves has no handle, and its hook has nothing to do as long as it does
so. -/
structure AtRest (c : Coordinator) (cls method : ScopeNode) (decl : Declaration) (id : HandleId)
    (s : State) : Prop where
  beforeEach : c.beforeEach method s = (.ok (), s)
  resolve : c.resolve method s = (.ok id, s)
  beforeAll : (decl.mode = .testMethod → c.mode? s cls = some .testMethod) →
    c.beforeAll cls s = (.ok (), s)
  resolveClass : decl.mode ≠ .testMethod → ∀ {mode}, c.mode? s cls = some mode →
    mode ≠ .testMethod → c.resolve cls s = (.ok id, s)

/-- Class and method are open, and bound to a live handle. -/
structure Rested (c : Coordinator) (cls method : ScopeNode) (decl : Declaration) (id : HandleId)
    (s : State) : Prop where
  live : (s.handle id).stopped = false
  methodOpen : s.finished.find? method c.backend.name = none
  methodBound : ∃ ownership, c.binding? s method = some ⟨id, ownership⟩
  classOpen : s.finished.find? cls c.backend.name = none
  classBound : decl.mode ≠ .testMethod → ∃ ownership, c.binding? s cls = some ⟨id, ownership⟩

theorem Rested.lasting (h : c.Rested cls method decl id s) (hid : id < s.handles.size)
    (hlasting : Lasting s s') : c.Rested cls method decl id s' where
  live := (hlasting.alive id hid).trans h.live
  methodOpen := by
    rw [hlasting.finished]
    exact h.methodOpen
  methodBound := by
    obtain ⟨ownership, hbound⟩ := h.methodBound
    exact ⟨ownership, hlasting.kept hbound⟩
  classOpen := by
    rw [hlasting.finished]
    exact h.classOpen
  classBound hmode := by
    obtain ⟨ownership, hbound⟩ := h.classBound hmode
    exact ⟨ownership, hlasting.kept hbound⟩

theorem found_of_bound {node : ScopeNode} {ownership : Ownership}
    (hbound : c.binding? s node = some ⟨id, ownership⟩) (hlive : (s.handle id).stopped = false) :
    c.found s node = .ok id := by
  unfold found
  simp [hbound, hlive]

/-- The declaration that a node sees for its mode. -/
theorem declared_of_mode? {node : ScopeNode} {mode : Scope} (h : c.mode? s node = some mode) :
    ∃ decl, c.declarationAt s node = .ok decl ∧ decl.mode = mode := by
  unfold mode? at h
  obtain ⟨decl, hdecl, hmode⟩ := Option.map_eq_some_iff.mp h
  refine ⟨decl, ?_, hmode⟩
  unfold declarationAt
  rw [hdecl]

theorem Rested.beforeAll (h : c.Rested cls method decl id s) (hclass : cls.kind = .testClass)
    (hdeferred : decl.mode = .testMethod → c.mode? s cls = some .testMethod) :
    c.beforeAll cls s = (.ok (), s) := by
  cases hbound : c.binding? s cls with
  | some binding => exact c.beforeAll_of_bound hclass h.classOpen (by rw [hbound]; rfl)
  | none =>
      by_cases hmode : decl.mode = .testMethod
      · obtain ⟨seen, hseen, hseenmode⟩ := declared_of_mode? (hdeferred hmode)
        rw [c.beforeAll_of_open hclass h.classOpen, hbound]
        exact c.openClass_of_deferred hseen hseenmode
      · obtain ⟨_, hsome⟩ := h.classBound hmode
        cases hbound.symm.trans hsome

theorem Rested.atRest (h : c.Rested cls method decl id s) (hclass : cls.kind = .testClass)
    (hmethod : method.kind = .testMethod) : c.AtRest cls method decl id s := by
  obtain ⟨ownership, hbound⟩ := h.methodBound
  have hhook : c.beforeEach method s = (.ok (), s) :=
    c.beforeEach_of_bound hmethod h.methodOpen (by rw [hbound]; rfl)
  refine ⟨hhook, ?_, h.beforeAll hclass, ?_⟩
  · have hprepare : c.prepare method s = (.ok (), s) := by
      unfold prepare
      rw [hmethod]
      exact hhook
    rw [run_resolve, hprepare]
    exact congrArg (·, s) (found_of_bound hbound h.live)
  · intro hmode mode hseen hnot
    obtain ⟨seen, hdecl, rfl⟩ := declared_of_mode? hseen
    obtain ⟨_, hclassbound⟩ := h.classBound hmode
    have hprepare : c.prepare cls s = (.ok (), s) := by
      unfold prepare
      rw [hclass]
      simp only [Action.run_bind, Action.run_get, Action.run_except, hdecl, if_neg hnot]
      exact h.beforeAll hclass fun heq => absurd heq hmode
    rw [run_resolve, hprepare]
    exact congrArg (·, s) (found_of_bound hclassbound h.live)

/-! ## One after the other, or at once -/

/-- A hook that succeeds is one at an open class. -/
theorem open_of_beforeAll (h : c.beforeAll cls s = (.ok (), s')) :
    cls.kind = .testClass ∧ s.finished.find? cls c.backend.name = none := by
  by_cases hkind : cls.kind = .testClass
  · cases hopen : s.finished.find? cls c.backend.name with
    | none => exact ⟨hkind, rfl⟩
    | some _ =>
        rw [c.beforeAll_of_closed hkind (by rw [hopen]; rfl)] at h
        cases h
  · rw [c.beforeAll_of_kind_ne hkind] at h
    cases h

theorem open_of_beforeEach (h : c.beforeEach method s = (.ok (), s')) :
    method.kind = .testMethod ∧ s.finished.find? method c.backend.name = none := by
  by_cases hkind : method.kind = .testMethod
  · cases hopen : s.finished.find? method c.backend.name with
    | none => exact ⟨hkind, rfl⟩
    | some _ =>
        rw [c.beforeEach_of_closed hkind (by rw [hopen]; rfl)] at h
        cases h
  · rw [c.beforeEach_of_kind_ne hkind] at h
    cases h

theorem opens_of_beforeAll (hfree : c.binding? s cls = none)
    (h : c.beforeAll cls s = (.ok (), s')) :
    ∃ decl, c.declarationAt s cls = .ok decl ∧
      if decl.mode = .testMethod then s' = s else (c.binding? s' cls).isSome := by
  have hcomes := (c.beforeAll_comes cls s).of_run h
  cases hcomes with
  | idle hidle =>
      rcases hidle with hbound | ⟨decl, hdecl, hmode⟩
      · rw [hfree] at hbound
        cases hbound
      · have hdeferred : decl.mode = .testMethod := hmode
        exact ⟨decl, hdecl, by rw [if_pos hdeferred]⟩
  | bound hadmits hactive =>
      have hmode : ¬ _ = Scope.testMethod := hactive
      refine ⟨_, hadmits.declared, ?_⟩
      rw [if_neg hmode, binding?_bind, if_pos rfl]
      rfl

theorem opens_of_beforeEach (hfree : c.binding? s method = none)
    (h : c.beforeEach method s = (.ok (), s')) :
    ∃ decl binding s₁ s₂, c.Admits s method decl ∧
      c.obtainForTest method decl s = (.ok binding, s₁) ∧
      c.readyForTest decl binding s₁ = (.ok (), s₂) ∧ s' = (c.bind method binding s₂).2 := by
  have hcomes := (c.beforeEach_comes method s).of_run h
  cases hcomes with
  | idle hidle =>
      rcases hidle with hbound | ⟨_, _, hfalse⟩
      · rw [hfree] at hbound
        cases hbound
      · exact hfalse.elim
  | bound hadmits _ hobtain hready => exact ⟨_, _, _, _, hadmits, hobtain, hready, rfl⟩

/-- A class that is open already lends the same instance. -/
theorem borrowFromClass_again (houter : method.ancestor? .testClass = some cls)
    (hall : c.beforeAll cls s = (.ok (), s₁)) (hagain : c.beforeAll cls s₁ = (.ok (), s₁)) :
    c.borrowFromClass method s₁ = c.borrowFromClass method s := by
  unfold borrowFromClass
  simp only [houter, Action.run_bind, hall, hagain]

/-- Hooks before a class and before a method below it, one after the other. -/
structure Stepwise (c : Coordinator) (tree : ScopeTree) (cls method : ScopeNode) (s s₁ s₂ : State) :
    Prop where
  mem : method ∈ tree
  outer : method.ancestor? .testClass = some cls
  declared : s.declarations.find? method c.backend.name = s.declarations.find? cls c.backend.name
  classFree : c.binding? s cls = none
  methodFree : c.binding? s method = none
  beforeAll : c.beforeAll cls s = (.ok (), s₁)
  beforeEach : c.beforeEach method s₁ = (.ok (), s₂)

namespace Stepwise

theorem cls_mem (h : c.Stepwise tree cls method s s₁ s₂) : cls ∈ tree :=
  (ScopeTree.ancestor?_mem h.mem h.outer).1

theorem number_ne (h : c.Stepwise tree cls method s s₁ s₂) : method.number ≠ cls.number := by
  refine ScopeTree.number_ne_of_kind_ne h.mem h.cls_mem ?_
  rw [(open_of_beforeEach h.beforeEach).1, (open_of_beforeAll h.beforeAll).1]
  decide

theorem entering (h : c.Stepwise tree cls method s s₁ s₂) : Entering c cls s s₁ :=
  (c.beforeAll_entering cls s).of_run h.beforeAll

theorem entering_last (h : c.Stepwise tree cls method s s₁ s₂) : Entering c method s₁ s₂ :=
  (c.beforeEach_entering h.mem s₁).of_run h.beforeEach

theorem methodFree_between (h : c.Stepwise tree cls method s s₁ s₂) :
    c.binding? s₁ method = none :=
  ((c.beforeAll_elsewhere h.number_ne c.bindingKey s).of_run h.beforeAll).trans h.methodFree

/-- What the method sees once the class is open is what it saw before. -/
theorem admits (h : c.Stepwise tree cls method s s₁ s₂) {decl : Declaration}
    (hadmits : c.Admits s₁ method decl) :
    c.Admits s method decl ∧ c.declarationAt s cls = .ok decl := by
  have hdecl : c.declarationAt s method = .ok decl := by
    have hlater := hadmits.declared
    unfold declarationAt at hlater ⊢
    rwa [h.entering.declarations] at hlater
  refine ⟨⟨?_, h.methodFree, hdecl, hadmits.valid⟩, ?_⟩
  · rw [← h.entering.finished]
    exact hadmits.opened
  · unfold declarationAt at hdecl ⊢
    rw [← h.declared]
    cases hfound : s.declarations.find? method c.backend.name with
    | none =>
        rw [hfound] at hdecl
        cases hdecl
    | some found =>
        rw [hfound] at hdecl
        exact hdecl

/-- A class that is bound by now may be asked for its instance again. -/
theorem again (h : c.Stepwise tree cls method s s₁ s₂) (hbound : (c.binding? s₁ cls).isSome) :
    c.beforeAll cls s₁ = (.ok (), s₁) := by
  obtain ⟨hclass, hopen⟩ := open_of_beforeAll h.beforeAll
  refine c.beforeAll_of_bound hclass ?_ hbound
  rw [h.entering.finished]
  exact hopen

/-- The hook before the method alone comes to the same. -/
theorem at_once (h : c.Stepwise tree cls method s s₁ s₂) :
    c.beforeEach method s = (.ok (), s₂) := by
  obtain ⟨decl, hdecl, hcls⟩ := opens_of_beforeAll h.classFree h.beforeAll
  by_cases hmode : decl.mode = .testMethod
  · rw [if_pos hmode] at hcls
    rw [← h.beforeEach, hcls]
  · rw [if_neg hmode] at hcls
    have hlast := h.beforeEach
    obtain ⟨hmethod, -⟩ := open_of_beforeEach hlast
    obtain ⟨seen, _, _, _, hadmits, -⟩ := opens_of_beforeEach h.methodFree_between hlast
    obtain ⟨hadmits', hseen⟩ := h.admits hadmits
    cases hdecl.symm.trans hseen
    have hobtain : c.obtainForTest method decl s = c.obtainForTest method decl s₁ := by
      unfold obtainForTest
      rw [if_neg hmode]
      exact (borrowFromClass_again h.outer h.beforeAll (h.again hcls)).symm
    rw [c.beforeEach_of_admits hmethod hadmits] at hlast
    rw [c.beforeEach_of_admits hmethod hadmits', ← hlast]
    unfold bindReady
    simp only [Action.run_bind, hobtain]

/-- What class and method are bound to in the end. -/
theorem bound (h : c.Stepwise tree cls method s s₁ s₂) :
    ∃ decl binding, c.declarationAt s cls = .ok decl ∧ c.binding? s₂ method = some binding ∧
      if decl.mode = .testMethod then c.binding? s₂ cls = none
      else ∃ ownership, c.binding? s₂ cls = some ⟨binding.handle, ownership⟩ := by
  obtain ⟨decl, hdecl, hcls⟩ := opens_of_beforeAll h.classFree h.beforeAll
  obtain ⟨seen, binding, _, _, hadmits, hobtain, -, hbound⟩ :=
    opens_of_beforeEach h.methodFree_between h.beforeEach
  cases hdecl.symm.trans (h.admits hadmits).2
  refine ⟨decl, binding, hdecl, ?_, ?_⟩
  · rw [hbound, binding?_bind, if_pos rfl]
  by_cases hmode : decl.mode = .testMethod
  · rw [if_pos hmode] at hcls ⊢
    cases hcls
    refine Eq.trans ?_ h.classFree
    refine ((c.beforeEach_comes method s).of_run h.beforeEach).elsewhere h.number_ne.symm ?_
      c.readyForTest_readied
    intro other hother
    cases hadmits.declared.symm.trans hother.declared
    unfold obtainForTest
    rw [if_pos hmode]
    exact (c.obtainForMethod_spec method decl s).mono fun _ _ hspec => hspec.1.elsewhere _
  · rw [if_neg hmode] at hcls ⊢
    unfold obtainForTest at hobtain
    rw [if_neg hmode] at hobtain
    have hborrows := (c.borrowFromClass_borrows method s₁).of_run hobtain
    cases hborrows with
    | borrowed houter hopen hlent =>
        cases h.outer.symm.trans houter
        cases (h.again hcls).symm.trans hopen
        exact ⟨_, h.entering_last.kept hlent⟩

/-- A request at the method right away finds the same handle in the same state. -/
theorem resolve (h : c.Stepwise tree cls method s s₁ s₂)
    (hresolve : c.resolve method s₂ = (.ok id, s₃)) :
    s₃ = s₂ ∧ c.found s₂ method = .ok id ∧ c.resolve method s = (.ok id, s₃) := by
  obtain ⟨hmethod, hopen⟩ := open_of_beforeEach h.beforeEach
  obtain ⟨_, _, _, hbound, -⟩ := h.bound
  have hopen₂ : s₂.finished.find? method c.backend.name = none := by
    rw [h.entering_last.finished]
    exact hopen
  have hprepare : ∀ s, c.prepare method s = c.beforeEach method s := by
    intro s
    unfold prepare
    rw [hmethod]
  have hagain := c.beforeEach_of_bound hmethod hopen₂ (by rw [hbound]; rfl)
  rw [run_resolve, hprepare, hagain] at hresolve
  injection hresolve with hfound hstate
  refine ⟨hstate.symm, hfound, ?_⟩
  rw [run_resolve, hprepare, h.at_once, ← hstate]
  exact congrArg (·, s₂) hfound

end Stepwise

theorem bound_of_found {node : ScopeNode} (h : c.found s node = .ok id) :
    ∃ ownership, c.binding? s node = some ⟨id, ownership⟩ ∧ (s.handle id).stopped = false := by
  unfold found at h
  cases hbound : c.binding? s node with
  | none =>
      rw [hbound] at h
      cases h
  | some binding =>
      rw [hbound] at h
      dsimp only at h
      split at h
      next => cases h
      next hlive =>
        cases h
        exact ⟨binding.ownership, rfl, by simpa using hlive⟩

end Coordinator

/-- If the hooks before a class and before a method below it, and a request at the method, succeed
one after the other, the request alone succeeds and comes to the very same state, with the same
handle. The method is bound to it, and so is the class unless it leaves its methods to provide for
themselves. From then on neither hook changes anything, and requests find the handle: at once, with
the declarations as they were, and after whatever is done without an after-hook, a stop or the end
of the run. -/
theorem lazy_opening_agrees {cls method : ScopeNode} (hmem : method ∈ tree)
    (houter : method.ancestor? .testClass = some cls)
    (hdeclared : s.declarations.find? method c.backend.name =
      s.declarations.find? cls c.backend.name)
    (hclass : c.binding? s cls = none) (hmethod : c.binding? s method = none)
    (hall : c.beforeAll cls s = (.ok (), s₁)) (heach : c.beforeEach method s₁ = (.ok (), s₂))
    (hresolve : c.resolve method s₂ = (.ok id, s₃)) :
    c.resolve method s = (.ok id, s₃) ∧
    ∃ decl, c.declarationAt s cls = .ok decl ∧
      (∃ ownership, c.binding? s₃ method = some ⟨id, ownership⟩) ∧
      (if decl.mode = .testMethod then c.binding? s₃ cls = none
        else ∃ ownership, c.binding? s₃ cls = some ⟨id, ownership⟩) ∧
      s₃.declarations = s.declarations ∧ c.beforeAll cls s₃ = (.ok (), s₃) ∧
      (decl.mode ≠ .testMethod → c.resolve cls s₃ = (.ok id, s₃)) ∧
      c.AtRest cls method decl id s₃ ∧
      (s.Known → ∀ later : List Act, (∀ act ∈ later, act.Within tree) → (∀ act ∈ later, act.Calm) →
        c.AtRest cls method decl id (course tree.root s₃ later)) := by
  have hsteps : c.Stepwise tree cls method s s₁ s₂ :=
    ⟨hmem, houter, hdeclared, hclass, hmethod, hall, heach⟩
  obtain ⟨hstate, hfound, hlazy⟩ := hsteps.resolve hresolve
  obtain ⟨decl, binding, hdecl, hbinding, hcls⟩ := hsteps.bound
  obtain ⟨ownership, hbound, hlive⟩ := Coordinator.bound_of_found hfound
  cases hbinding.symm.trans hbound
  obtain ⟨hclasskind, hclassopen⟩ := Coordinator.open_of_beforeAll hall
  obtain ⟨hmethodkind, hmethodopen⟩ := Coordinator.open_of_beforeEach heach
  have hrested : c.Rested cls method decl id s₂ := by
    refine ⟨hlive, ?_, ⟨_, hbound⟩, ?_, fun hmode => ?_⟩
    · rw [hsteps.entering_last.finished]
      exact hmethodopen
    · rw [hsteps.entering_last.finished, hsteps.entering.finished]
      exact hclassopen
    · rwa [if_neg hmode] at hcls
  subst hstate
  have hrest := hrested.atRest hclasskind hmethodkind
  have hdeclarations : s₃.declarations = s.declarations :=
    hsteps.entering_last.declarations.trans hsteps.entering.declarations
  have hmode : c.mode? s₃ cls = some decl.mode := by
    refine Coordinator.mode?_of_declared ?_
    rw [hdeclarations]
    exact Coordinator.declared_of_declarationAt hdecl
  refine ⟨hlazy, decl, hdecl, ⟨_, hbound⟩, hcls, hdeclarations, ?_, ?_, hrest, ?_⟩
  · exact hrest.beforeAll fun hdeferred => hdeferred ▸ hmode
  · exact fun hown => hrest.resolveClass hown hmode hown
  intro hknown later hwithin hcalm
  have hknown₁ := (c.beforeAll_known hknown cls).of_run hall
  have hknown₃ := (c.beforeEach_known hknown₁ method).of_run heach
  have hid : id < s₃.handles.size := hknown₃.bound hbound
  exact (hrested.lasting hid (course_lasting hwithin hcalm s₃)).atRest hclasskind hmethodkind

/-! A method and its class, with a container for the class. -/

namespace TwoClasses

/-- The class declares a container for itself and its methods. -/
def aloneDeclared : State :=
  (coordinator.declare alone {} (.initial {} {} [])).2

/-- The class is open. -/
def aloneOpen : State :=
  (coordinator.beforeAll alone aloneDeclared).2

/-- The method is open as well. -/
def testOpen : State :=
  (coordinator.beforeEach test aloneOpen).2

theorem aloneDeclared_known : aloneDeclared.Known :=
  course_known (initial_known {} {} []) scopesWithTest.root
    [.call (.request coordinator alone (.declare {}))]

/-- Another class uses a container of the run, and the connection of the first one is closed. -/
def meanwhile : List Act :=
  [.call (.request coordinator together (.declare { mode := .run })),
    .call (.request coordinator together .beforeAll), .disconnect 0]

end TwoClasses

open TwoClasses in
/-- Asking the method for a connection opens the class and the method, and asking again after
another class was opened finds the same handle. -/
theorem method_opens_its_class :
    coordinator.beforeAll alone aloneDeclared = (.ok (), aloneOpen) ∧
      coordinator.beforeEach test aloneOpen = (.ok (), testOpen) ∧
      coordinator.resolve test testOpen = (.ok 0, testOpen) ∧ aloneDeclared.Known ∧
      coordinator.resolve test aloneDeclared = (.ok 0, testOpen) ∧
      coordinator.resolve test (course scopesWithTest.root testOpen meanwhile) =
        (.ok 0, course scopesWithTest.root testOpen meanwhile) := by
  have hall : coordinator.beforeAll alone aloneDeclared = (.ok (), aloneOpen) := Prod.ext rfl rfl
  have heach : coordinator.beforeEach test aloneOpen = (.ok (), testOpen) := Prod.ext rfl rfl
  have hresolve : coordinator.resolve test testOpen = (.ok 0, testOpen) := Prod.ext rfl rfl
  obtain ⟨hlazy, decl, -, -, -, -, -, -, -, hlater⟩ :=
    lazy_opening_agrees test_mem rfl rfl rfl rfl hall heach hresolve
  have hrest := hlater aloneDeclared_known meanwhile
    (by simp [meanwhile, Act.Within, Call.Within, together_mem'])
    (by simp [meanwhile, Act.Calm])
  exact ⟨hall, heach, hresolve, aloneDeclared_known, hlazy, hrest.resolve⟩

end ScopedResources.Lifecycle
