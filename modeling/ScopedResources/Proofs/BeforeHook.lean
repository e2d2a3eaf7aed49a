import ScopedResources.Proofs.Hooks

/-!
# What a before-hook comes to

Both before-hooks run the same course. A node that is closed, bound, or without a declaration that
fits is left as it is. Otherwise an instance is obtained and made ready, and the node is bound to
it; where one of these steps fails the hook fails. What is obtained, and what makes it ready, is all
in which the two hooks differ. -/

namespace ScopedResources.Lifecycle.Coordinator

variable (c : Coordinator) {s s' : State} {node : ScopeNode} {decl : Declaration}

/-- The node is open and not bound, and sees a declaration whose parts fit together. -/
structure Admits (s : State) (node : ScopeNode) (decl : Declaration) : Prop where
  opened : s.finished.find? node c.backend.name = none
  unbound : c.binding? s node = none
  declared : c.declarationAt s node = .ok decl
  valid : validate decl = .ok ()

/-- The instance for a method: one of its own, or that of its class. -/
def obtainForTest (node : ScopeNode) (decl : Declaration) : Action LifecycleError Binding :=
  if decl.mode = .testMethod then c.obtainForMethod node decl else c.borrowFromClass node

def readyForClass (decl : Declaration) (binding : Binding) : Action LifecycleError Unit :=
  c.applyForClass binding decl.migration

def readyForTest (decl : Declaration) (binding : Binding) : Action LifecycleError Unit := do
  c.warnOfRepetition decl binding.handle
  c.applyForMethod binding decl.migration

/-- A node is bound to an instance as soon as the instance is ready. -/
def bindReady (node : ScopeNode) (obtain : Declaration → Action LifecycleError Binding)
    (ready : Declaration → Binding → Action LifecycleError Unit) (decl : Declaration) :
    Action LifecycleError Unit := do
  let binding ← obtain decl
  ready decl binding
  c.bind node binding

/-- With an instance for every method of its own there is nothing to do for the class. -/
def LeftToMethods (decl : Declaration) : Prop :=
  decl.mode = .testMethod

/-- What a before-hook comes to, by the declarations that it leaves alone and by the way in which it
obtains an instance and makes it ready. -/
inductive Comes (node : ScopeNode) (idles : Declaration → Prop)
    (obtain : Declaration → Action LifecycleError Binding)
    (ready : Declaration → Binding → Action LifecycleError Unit) (s : State) :
    Except LifecycleError Unit → State → Prop where
  | refused (error : LifecycleError) : Comes node idles obtain ready s (.error error) s
  | idle (hidle : (c.binding? s node).isSome ∨
      ∃ decl, c.declarationAt s node = .ok decl ∧ idles decl) :
    Comes node idles obtain ready s (.ok ()) s
  | unobtained {decl : Declaration} {error : LifecycleError} {s₁ : State}
    (hadmits : c.Admits s node decl) (hobtain : obtain decl s = (.error error, s₁)) :
    Comes node idles obtain ready s (.error error) s₁
  | unready {decl : Declaration} {binding : Binding} {error : LifecycleError} {s₁ s₂ : State}
    (hadmits : c.Admits s node decl) (hobtain : obtain decl s = (.ok binding, s₁))
    (hready : ready decl binding s₁ = (.error error, s₂)) :
    Comes node idles obtain ready s (.error error) s₂
  | bound {decl : Declaration} {binding : Binding} {s₁ s₂ : State}
    (hadmits : c.Admits s node decl) (hactive : ¬ idles decl)
    (hobtain : obtain decl s = (.ok binding, s₁)) (hready : ready decl binding s₁ = (.ok (), s₂)) :
    Comes node idles obtain ready s (.ok ()) (c.bind node binding s₂).2

/-! ## Nodes that are left as they are -/

/-- The error of a hook at a node of another kind than it is for. -/
def kindError (node : ScopeNode) (kind : Scope) (hook : String) : LifecycleError :=
  .configuration
    (hook ++ " expects a " ++ kind.name ++ " node, got " ++ node.kind.name ++ " (" ++
      node.path ++ ")")

/-- The error of a before-hook at a node that is closed. -/
def finishedError (node : ScopeNode) : LifecycleError :=
  .injection c.backend.connectionType
    (node.path ++ " already finished; no " ++ c.backend.name ++ " resource is available there")

theorem expectKind_of_ne {kind : Scope} (h : node.kind ≠ kind) (hook : String) :
    expectKind node kind hook = .error (kindError node kind hook) :=
  if_neg h

theorem expectKind_of_eq {kind : Scope} (h : node.kind = kind) (hook : String) :
    expectKind node kind hook = .ok () :=
  if_pos h

theorem ensureOpen_of_closed (h : (s.finished.find? node c.backend.name).isSome) :
    c.ensureOpen node s = (.error (c.finishedError node), s) := by
  unfold ensureOpen
  simp only [Action.run_bind, Action.run_get, h, if_true]
  rfl

theorem ensureOpen_of_open (h : s.finished.find? node c.backend.name = none) :
    c.ensureOpen node s = (.ok (), s) := by
  unfold ensureOpen
  simp only [Action.run_bind, Action.run_get, h]
  rfl

theorem beforeAll_of_kind_ne (hkind : node.kind ≠ .testClass) :
    c.beforeAll node s = (.error (kindError node .testClass "before_all"), s) := by
  unfold beforeAll
  simp only [Action.run_bind, Action.run_except, expectKind_of_ne hkind]

theorem beforeEach_of_kind_ne (hkind : node.kind ≠ .testMethod) :
    c.beforeEach node s = (.error (kindError node .testMethod "before_each"), s) := by
  unfold beforeEach
  simp only [Action.run_bind, Action.run_except, expectKind_of_ne hkind]

theorem beforeAll_of_closed (hkind : node.kind = .testClass)
    (hclosed : (s.finished.find? node c.backend.name).isSome) :
    c.beforeAll node s = (.error (c.finishedError node), s) := by
  unfold beforeAll
  simp only [Action.run_bind, Action.run_except, expectKind_of_eq hkind,
    c.ensureOpen_of_closed hclosed]

theorem beforeEach_of_closed (hkind : node.kind = .testMethod)
    (hclosed : (s.finished.find? node c.backend.name).isSome) :
    c.beforeEach node s = (.error (c.finishedError node), s) := by
  unfold beforeEach
  simp only [Action.run_bind, Action.run_except, expectKind_of_eq hkind,
    c.ensureOpen_of_closed hclosed]

theorem beforeAll_of_open (hkind : node.kind = .testClass)
    (hopen : s.finished.find? node c.backend.name = none) :
    c.beforeAll node s = if (c.binding? s node).isSome then (.ok (), s)
      else c.openClass node s := by
  unfold beforeAll
  simp only [Action.run_bind, Action.run_except, Action.run_get, expectKind_of_eq hkind,
    c.ensureOpen_of_open hopen]
  split <;> rfl

theorem beforeEach_of_open (hkind : node.kind = .testMethod)
    (hopen : s.finished.find? node c.backend.name = none) :
    c.beforeEach node s =
      if (c.binding? s node).isSome then (.ok (), s) else c.openMethod node s := by
  unfold beforeEach
  simp only [Action.run_bind, Action.run_except, Action.run_get, expectKind_of_eq hkind,
    c.ensureOpen_of_open hopen]
  split <;> rfl

theorem beforeAll_of_bound (hkind : node.kind = .testClass)
    (hopen : s.finished.find? node c.backend.name = none) (hbound : (c.binding? s node).isSome) :
    c.beforeAll node s = (.ok (), s) := by
  rw [c.beforeAll_of_open hkind hopen, if_pos hbound]

theorem beforeEach_of_bound (hkind : node.kind = .testMethod)
    (hopen : s.finished.find? node c.backend.name = none) (hbound : (c.binding? s node).isSome) :
    c.beforeEach node s = (.ok (), s) := by
  rw [c.beforeEach_of_open hkind hopen, if_pos hbound]

/-! ## Nodes that are opened -/

theorem openClass_of_deferred (hdecl : c.declarationAt s node = .ok decl)
    (hmode : decl.mode = .testMethod) : c.openClass node s = (.ok (), s) := by
  unfold openClass
  simp only [Action.run_bind, Action.run_get, Action.run_except, hdecl, if_pos hmode]
  rfl

theorem openClass_of_admits (h : c.Admits s node decl) (hmode : decl.mode ≠ .testMethod) :
    c.openClass node s = c.bindReady node (c.obtainForClass node) c.readyForClass decl s := by
  unfold openClass bindReady readyForClass
  simp only [Action.run_bind, Action.run_get, Action.run_except, h.declared, if_neg hmode, h.valid]

theorem openMethod_of_admits (h : c.Admits s node decl) :
    c.openMethod node s = c.bindReady node (c.obtainForTest node) c.readyForTest decl s := by
  unfold openMethod bindReady obtainForTest readyForTest
  simp only [Action.run_bind, Action.run_get, Action.run_except, Action.run_lift,
    h.declared, h.valid]
  -- the two ways to obtain an instance are alternatives inside the hook
  by_cases hmode : decl.mode = .testMethod
  · simp only [if_pos hmode, Action.run_bind, Action.run_lift]
  · simp only [if_neg hmode, Action.run_bind, Action.run_lift]

theorem beforeAll_of_admits (hkind : node.kind = .testClass) (h : c.Admits s node decl)
    (hmode : decl.mode ≠ .testMethod) :
    c.beforeAll node s = c.bindReady node (c.obtainForClass node) c.readyForClass decl s := by
  rw [c.beforeAll_of_open hkind h.opened, h.unbound]
  exact c.openClass_of_admits h hmode

theorem beforeEach_of_admits (hkind : node.kind = .testMethod) (h : c.Admits s node decl) :
    c.beforeEach node s = c.bindReady node (c.obtainForTest node) c.readyForTest decl s := by
  rw [c.beforeEach_of_open hkind h.opened, h.unbound]
  exact c.openMethod_of_admits h

/-! ## All that a hook can come to -/

theorem bindReady_comes {idles : Declaration → Prop}
    {obtain : Declaration → Action LifecycleError Binding}
    {ready : Declaration → Binding → Action LifecycleError Unit} (h : c.Admits s node decl)
    (hactive : ¬ idles decl) :
    (c.bindReady node obtain ready decl).Yields s (c.Comes node idles obtain ready s) := by
  unfold Action.Yields bindReady
  simp only [Action.run_bind]
  rcases hobtain : obtain decl s with ⟨error | binding, s₁⟩
  · exact .unobtained h hobtain
  · dsimp only
    rcases hready : ready decl binding s₁ with ⟨error | _, s₂⟩
    · exact .unready h hobtain hready
    · exact .bound h hactive hobtain hready

theorem openClass_comes (hopen : s.finished.find? node c.backend.name = none)
    (hunbound : c.binding? s node = none) :
    (c.openClass node).Yields s
      (c.Comes node LeftToMethods (c.obtainForClass node) c.readyForClass s) := by
  cases hdecl : c.declarationAt s node with
  | error error =>
      unfold openClass
      refine Action.Yields.get_bind (Action.Yields.except_bind ?_ fun error _ => .refused error)
      intro decl hok
      cases hdecl.symm.trans hok
  | ok decl =>
      by_cases hmode : decl.mode = .testMethod
      · unfold Action.Yields
        rw [c.openClass_of_deferred hdecl hmode]
        exact .idle (.inr ⟨decl, hdecl, hmode⟩)
      · cases hvalid : validate decl with
        | error error =>
            unfold Action.Yields openClass
            simp only [Action.run_bind, Action.run_get, Action.run_except, hdecl,
              if_neg hmode, hvalid]
            exact .refused error
        | ok _ =>
            have hadmits : c.Admits s node decl := ⟨hopen, hunbound, hdecl, hvalid⟩
            unfold Action.Yields
            rw [c.openClass_of_admits hadmits hmode]
            exact c.bindReady_comes hadmits hmode

theorem openMethod_comes (hopen : s.finished.find? node c.backend.name = none)
    (hunbound : c.binding? s node = none) :
    (c.openMethod node).Yields s
      (c.Comes node (fun _ => False) (c.obtainForTest node) c.readyForTest s) := by
  cases hdecl : c.declarationAt s node with
  | error error =>
      unfold Action.Yields openMethod
      simp only [Action.run_bind, Action.run_get, Action.run_except, hdecl]
      exact .refused error
  | ok decl =>
      cases hvalid : validate decl with
      | error error =>
          unfold Action.Yields openMethod
          simp only [Action.run_bind, Action.run_get, Action.run_except, hdecl, hvalid]
          exact .refused error
      | ok _ =>
          have hadmits : c.Admits s node decl := ⟨hopen, hunbound, hdecl, hvalid⟩
          unfold Action.Yields
          rw [c.openMethod_of_admits hadmits]
          exact c.bindReady_comes hadmits not_false

theorem beforeAll_comes (node : ScopeNode) (s : State) :
    (c.beforeAll node).Yields s
      (c.Comes node LeftToMethods (c.obtainForClass node) c.readyForClass s) := by
  unfold Action.Yields
  by_cases hkind : node.kind = .testClass
  · cases hopen : s.finished.find? node c.backend.name with
    | some _ =>
        rw [c.beforeAll_of_closed hkind (by rw [hopen]; rfl)]
        exact .refused _
    | none =>
        rw [c.beforeAll_of_open hkind hopen]
        split
        next hbound => exact .idle (.inl hbound)
        next hunbound => exact c.openClass_comes hopen (Option.not_isSome_iff_eq_none.mp hunbound)
  · rw [c.beforeAll_of_kind_ne hkind]
    exact .refused _

theorem beforeEach_comes (node : ScopeNode) (s : State) :
    (c.beforeEach node).Yields s
      (c.Comes node (fun _ => False) (c.obtainForTest node) c.readyForTest s) := by
  unfold Action.Yields
  by_cases hkind : node.kind = .testMethod
  · cases hopen : s.finished.find? node c.backend.name with
    | some _ =>
        rw [c.beforeEach_of_closed hkind (by rw [hopen]; rfl)]
        exact .refused _
    | none =>
        rw [c.beforeEach_of_open hkind hopen]
        split
        next hbound => exact .idle (.inl hbound)
        next hunbound => exact c.openMethod_comes hopen (Option.not_isSome_iff_eq_none.mp hunbound)
  · rw [c.beforeEach_of_kind_ne hkind]
    exact .refused _

/-! ## Borrowing from a class -/

/-- All that borrowing the instance of the class around a method can come to. -/
inductive Borrows (node : ScopeNode) (s : State) :
    Except LifecycleError Binding → State → Prop where
  | outside {error : LifecycleError} : Borrows node s (.error error) s
  | unopened {outer : ScopeNode} {error : LifecycleError} {s' : State}
    (houter : node.ancestor? .testClass = some outer)
    (hopen : c.beforeAll outer s = (.error error, s')) : Borrows node s (.error error) s'
  | vacant {outer : ScopeNode} {error : LifecycleError} {s' : State}
    (houter : node.ancestor? .testClass = some outer) (hopen : c.beforeAll outer s = (.ok (), s')) :
    Borrows node s (.error error) s'
  | borrowed {outer : ScopeNode} {binding : Binding} {s' : State}
    (houter : node.ancestor? .testClass = some outer) (hopen : c.beforeAll outer s = (.ok (), s'))
    (hbound : c.binding? s' outer = some binding) :
    Borrows node s (.ok ⟨binding.handle, .borrowed⟩) s'

theorem borrowFromClass_borrows (node : ScopeNode) (s : State) :
    (c.borrowFromClass node).Yields s (c.Borrows node s) := by
  unfold Action.Yields borrowFromClass
  cases houter : node.ancestor? .testClass with
  | none => exact .outside
  | some outer =>
      simp only [Action.run_bind]
      rcases hopen : c.beforeAll outer s with ⟨error | _, s'⟩
      · exact .unopened houter hopen
      · simp only [Action.run_get]
        cases hbound : c.binding? s' outer with
        | none => exact .vacant houter hopen
        | some binding => exact .borrowed houter hopen hbound

/-! ## Asking for a connection -/

/-- What a request finds at a node once the hook before it has run. -/
def found (s : State) (node : ScopeNode) : Except LifecycleError HandleId :=
  match c.binding? s node with
  | none => .error (c.refusal ("no live resource at " ++ node.path))
  | some binding =>
    if (s.handle binding.handle).stopped then
      .error (c.refusal ("resource at " ++ node.path ++ " was already stopped"))
    else .ok binding.handle

theorem run_resolve (node : ScopeNode) (s : State) :
    c.resolve node s = match c.prepare node s with
      | (.error error, s') => (.error error, s')
      | (.ok _, s') => (c.found s' node, s') := by
  unfold resolve found
  rw [Action.run_bind]
  rcases c.prepare node s with ⟨_ | _, s'⟩
  · rfl
  · simp only [Action.run_bind, Action.run_get]
    cases c.binding? s' node with
    | none => rfl
    | some binding =>
        simp only [Action.run_bind, Action.run_get]
        cases (s'.handle binding.handle).stopped <;> rfl

theorem run_resolveParams (node : ScopeNode) (s : State) :
    c.resolveParams node s = match c.resolve node s with
      | (.error error, s') => (.error error, s')
      | (.ok id, s') => (.ok (s'.handle id).connection.params, s') := by
  unfold resolveParams
  rw [Action.run_bind]
  rcases c.resolve node s with ⟨_ | _, s'⟩ <;> rfl

/-- Once the hook before the node has run, looking the instance up changes nothing. -/
theorem state_resolve (node : ScopeNode) (s : State) :
    (c.resolve node s).2 = (c.prepare node s).2 := by
  rw [run_resolve]
  rcases c.prepare node s with ⟨_ | _, s'⟩ <;> rfl

theorem state_resolveParams (node : ScopeNode) (s : State) :
    (c.resolveParams node s).2 = (c.prepare node s).2 := by
  rw [run_resolveParams, ← state_resolve]
  rcases c.resolve node s with ⟨_ | _, s'⟩ <;> rfl

end ScopedResources.Lifecycle.Coordinator
