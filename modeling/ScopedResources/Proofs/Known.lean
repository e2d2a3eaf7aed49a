import ScopedResources.Proofs.Course

/-!
# Handles that are referred to were made

Registry and bindings only name handles that were made. Handles are never taken away, so this needs
a look only where something is registered or bound: what a request for an instance returns has been
made. -/

namespace ScopedResources.Lifecycle

open Trace

/-- Every handle that the registry or a node refers to was made. -/
structure State.Known (s : State) : Prop where
  registered : ∀ {place id}, Assoc.find? place s.registry = some id → id < s.handles.size
  bound : ∀ {place binding}, Assoc.find? place s.bindings.entries = some binding →
    binding.handle < s.handles.size

/-- What is known stays so, and what is returned was made. -/
def Makes {α : Type} (handleOf : α → HandleId) (r : Except LifecycleError α) (s' : State) : Prop :=
  s'.Known ∧ ∀ a, r = .ok a → handleOf a < s'.handles.size

variable {tree : ScopeTree} {s s' : State} {node : ScopeNode} {id : HandleId} {act : Act}

namespace State.Known

/-- Nothing is referred to that was not referred to before. -/
theorem of_le (h : s.Known) (hsize : s.handles.size ≤ s'.handles.size)
    (hregistry : s'.registry = s.registry)
    (hbound : ∀ {place binding}, Assoc.find? place s'.bindings.entries = some binding →
      Assoc.find? place s.bindings.entries = some binding) : s'.Known where
  registered hfound := by
    rw [hregistry] at hfound
    exact Nat.lt_of_lt_of_le (h.registered hfound) hsize
  bound hfound := Nat.lt_of_lt_of_le (h.bound (hbound hfound)) hsize

theorem confined {halted : List HandleId} (h : s.Known) (hs : Confined halted s s') : s'.Known :=
  h.of_le (Nat.le_of_eq hs.size.symm) hs.registry fun hfound => by rwa [hs.bindings] at hfound

theorem working {started stopped : List ContainerId} (h : s.Known)
    (hs : Working started stopped s s') : s'.Known :=
  h.confined (hs.confined [])

theorem push (h : s.Known) (handle : Handle) :
    State.Known { s with handles := s.handles.push handle } :=
  h.of_le (by simp) rfl fun hfound => hfound

theorem register (h : s.Known) (hid : id < s.handles.size) (backend : String) (key : ResourceKey) :
    (s.register backend key id).Known where
  registered {place found} hfound := by
    unfold State.register at hfound ⊢
    rw [Assoc.find?_insert] at hfound
    split at hfound
    · cases hfound
      exact hid
    · exact h.registered hfound
  bound := h.bound

theorem bind (c : Coordinator) {binding : Binding} (h : s.Known)
    (hbinding : binding.handle < s.handles.size) (node : ScopeNode) :
    (c.bind node binding s).2.Known where
  registered := h.registered
  bound {place found} hfound := by
    obtain ⟨number, key⟩ := place
    rw [find?_bind] at hfound
    split at hfound
    · cases hfound
      exact hbinding
    · exact h.bound hfound

end State.Known

theorem Makes.failed {α : Type} {handleOf : α → HandleId} (h : s.Known) (error : LifecycleError) :
    Makes handleOf (.error error) s :=
  ⟨h, fun _ heq => by cases heq⟩

/-! ## Making and obtaining -/

theorem provision_makes (h : s.Known) (backend : Backend) (node : ScopeNode) (key : ResourceKey) :
    (provision backend node key).Yields s (Makes fun made => made) := by
  refine (provision_provisioned backend node key s).mono ?_
  intro r s' hprovided
  cases r with
  | error error =>
      obtain ⟨_, -, -, hwork⟩ := hprovided
      exact .failed (h.working hwork) error
  | ok made =>
      obtain ⟨_, handle, s₁, rfl, -, -, hwork, -, -, -, rfl⟩ := hprovided
      refine ⟨(h.working hwork).push handle, ?_⟩
      rintro _ ⟨⟩
      simp [hwork.handles]

theorem getOrCreate_makes {backend connectionType : String} {key : ResourceKey}
    {factory : Action LifecycleError HandleId} (h : s.Known)
    (hfactory : factory.Yields s (Makes fun made => made)) :
    (getOrCreate backend connectionType key factory).Yields s (Makes Prod.fst) := by
  refine getOrCreate_cases hfactory ?_ ?_ ?_ ?_
  · intro found hlive
    refine ⟨h, ?_⟩
    rintro _ ⟨⟩
    unfold State.live? at hlive
    exact h.registered (Option.eq_some_of_filter_eq_some hlive)
  · exact fun _ error _ => .failed h error
  · rintro - made s' ⟨hknown, hmade⟩
    refine ⟨hknown.register (hmade made rfl) _ _, ?_⟩
    rintro _ ⟨⟩
    exact hmade made rfl
  · exact fun error s' hfailed => .failed hfailed.1 error

namespace Coordinator

variable (c : Coordinator) {decl : Declaration}

theorem external?_known (h : s.Known) :
    c.external?.Yields s fun r s' => s'.Known ∧ ∀ id, r = .ok (some id) → id < s'.handles.size := by
  have hparams : c.externalParams?.Yields s fun _ s' => s'.Known :=
    h.working (c.externalParams?_sending s)
  unfold external?
  refine hparams.bind ?_ fun _ _ hknown => ⟨hknown, fun _ heq => by cases heq⟩
  intro params? s₁ hknown
  cases params? with
  | none => exact ⟨hknown, fun _ heq => by cases heq⟩
  | some params =>
      have hadopt : (c.adoptExternal params).Yields s₁ (Makes fun made => made) := by
        unfold adoptExternal
        cases c.backend.connectExternal params with
        | error error => exact .failed hknown _
        | ok connection =>
            refine ⟨hknown.push _, ?_⟩
            rintro _ ⟨⟩
            change s₁.handles.size < (s₁.handles.push _).size
            simp
      refine (getOrCreate_makes hknown hadopt).bind ?_ ?_
      · rintro ⟨id, _⟩ s₂ hmade
        refine ⟨hmade.1, ?_⟩
        rintro _ ⟨⟩
        exact hmade.2 _ rfl
      · exact fun _ _ hfailed => ⟨hfailed.1, fun _ heq => by cases heq⟩

/-- An instance is the external one, or one that is made without it. -/
theorem external?_bind_makes {f : Option HandleId → Action LifecycleError Binding} (h : s.Known)
    (hsome : ∀ id, f (some id) = pure ⟨id, .shared⟩)
    (hnone : ∀ s', s'.Known → (f none).Yields s' (Makes Binding.handle)) :
    (c.external? >>= f).Yields s (Makes Binding.handle) := by
  refine (c.external?_known h).bind ?_ fun error _ hfailed => .failed hfailed.1 error
  rintro (_ | id) s' ⟨hknown, hid⟩
  · exact hnone s' hknown
  · rw [hsome]
    refine ⟨hknown, ?_⟩
    rintro _ ⟨⟩
    exact hid id rfl

theorem provideOwned_makes (h : s.Known) (node : ScopeNode) (key : ResourceKey) :
    (do return ⟨← provision c.backend node key, .owned⟩ :
      Action LifecycleError Binding).Yields s (Makes Binding.handle) := by
  refine (provision_makes h c.backend node key).bind ?_ fun error _ hfailed =>
    .failed hfailed.1 error
  intro id s' hmade
  refine ⟨hmade.1, ?_⟩
  rintro _ ⟨⟩
  exact hmade.2 id rfl

theorem obtainForClass_makes (h : s.Known) (node : ScopeNode) (decl : Declaration) :
    (c.obtainForClass node decl).Yields s (Makes Binding.handle) := by
  unfold obtainForClass
  refine c.external?_bind_makes h (fun _ => rfl) fun s' h' => ?_
  refine Action.Yields.get_bind (Action.Yields.except_bind ?_ fun error _ => .failed h' error)
  intro key _
  by_cases hmode : decl.mode = .run
  · rw [if_pos hmode]
    refine (getOrCreate_makes h' (provision_makes h' c.backend node key)).bind ?_ ?_
    · rintro ⟨id, _⟩ s'' hmade
      refine ⟨hmade.1, ?_⟩
      rintro _ ⟨⟩
      exact hmade.2 _ rfl
    · exact fun error _ hfailed => .failed hfailed.1 error
  · rw [if_neg hmode]
    exact c.provideOwned_makes h' node key

theorem obtainForMethod_makes (h : s.Known) (node : ScopeNode) (decl : Declaration) :
    (c.obtainForMethod node decl).Yields s (Makes Binding.handle) := by
  unfold obtainForMethod
  refine c.external?_bind_makes h (fun _ => rfl) fun s' h' => ?_
  refine Action.Yields.get_bind (Action.Yields.except_bind ?_ fun error _ => .failed h' error)
  exact fun key _ => c.provideOwned_makes h' node key

/-! ## Hooks -/

variable {c}

/-- What a before-hook obtains was made, so what it binds was made. -/
theorem Comes.known {idles : Declaration → Prop}
    {obtain : Declaration → Action LifecycleError Binding}
    {ready : Declaration → Binding → Action LifecycleError Unit} {r : Except LifecycleError Unit}
    (h : c.Comes node idles obtain ready s r s') (hknown : s.Known)
    (hobtain : ∀ decl, (obtain decl).Yields s (Makes Binding.handle))
    (hready : ∀ decl binding, Action.Leaves (Confined binding.hand) (ready decl binding)) :
    s'.Known := by
  cases h with
  | refused => exact hknown
  | idle => exact hknown
  | unobtained _ hrun => exact ((hobtain _).of_run hrun).1
  | unready _ hrun hfailed =>
      exact ((hobtain _).of_run hrun).1.confined ((hready _ _).of_run hfailed)
  | bound _ _ hrun hdone =>
      obtain ⟨hmade, hhandle⟩ := (hobtain _).of_run hrun
      have hconfined := (hready _ _).of_run hdone
      refine (hmade.confined hconfined).bind c ?_ node
      rw [hconfined.size]
      exact hhandle _ rfl

variable (c)

theorem beforeAll_known (h : s.Known) (node : ScopeNode) :
    (c.beforeAll node).Yields s fun _ s' => s'.Known :=
  (c.beforeAll_comes node s).mono fun _ _ hcomes => hcomes.known h (c.obtainForClass_makes h node)
    fun decl binding => c.applyForClass_confined binding decl.migration

theorem borrowFromClass_makes (h : s.Known) (node : ScopeNode) :
    (c.borrowFromClass node).Yields s (Makes Binding.handle) := by
  refine (c.borrowFromClass_borrows node s).mono ?_
  intro r s' hborrows
  cases hborrows with
  | outside => exact .failed h _
  | unopened _ hopen => exact .failed ((c.beforeAll_known h _).of_run hopen) _
  | vacant _ hopen => exact .failed ((c.beforeAll_known h _).of_run hopen) _
  | borrowed _ hopen hbound =>
      have hknown := (c.beforeAll_known h _).of_run hopen
      refine ⟨hknown, ?_⟩
      rintro _ ⟨⟩
      have hmade := hknown.bound hbound
      exact hmade

theorem readyForTest_confined (decl : Declaration) (binding : Binding) :
    Action.Leaves (Confined binding.hand) (c.readyForTest decl binding) := by
  intro s
  have hwarn := (c.warnOfRepetition_confined decl binding.handle s).mono
    (List.nil_subset binding.hand)
  exact hwarn.trans (c.applyForMethod_confined binding decl.migration _)

theorem beforeEach_known (h : s.Known) (node : ScopeNode) :
    (c.beforeEach node).Yields s fun _ s' => s'.Known := by
  refine (c.beforeEach_comes node s).mono fun _ _ hcomes =>
    hcomes.known h (fun decl => ?_) c.readyForTest_confined
  unfold obtainForTest
  split
  · exact c.obtainForMethod_makes h node decl
  · exact c.borrowFromClass_makes h node

theorem prepare_known (h : s.Known) (node : ScopeNode) :
    (c.prepare node).Yields s fun _ s' => s'.Known := by
  unfold prepare
  cases node.kind with
  | testMethod => exact c.beforeEach_known h node
  | run => exact h
  | testClass =>
      refine Action.Yields.get_bind (Action.Yields.except_bind ?_ fun _ _ => h)
      intro decl _
      dsimp only
      split
      · exact h
      · exact c.beforeAll_known h node

theorem close_known (h : s.Known) (node : ScopeNode) : (c.close node s).2.Known :=
  h.of_le (Nat.le_refl _) rfl (c.close_waning node s).bound

theorem closeDown_known {drop : Binding → Migration.Policy → Action LifecycleError Unit}
    (hdrop : ∀ binding policy, Action.Leaves (Confined []) (drop binding policy)) (h : s.Known)
    (node : ScopeNode) : (c.closeDown node drop).Yields s fun _ s' => s'.Known :=
  (c.closeDown_confined hdrop node s).mono fun _ _ hs => (c.close_known h node).confined hs

end Coordinator

/-! ## Runs -/

theorem request_known (c : Coordinator) (h : s.Known) (node : ScopeNode) (asked : Request) :
    (asked.perform c node s).Known := by
  have hsame : ∀ {s' : State}, s'.handles = s.handles → s'.registry = s.registry →
      s'.bindings = s.bindings → s'.Known := fun hhandles hregistry hbindings =>
    h.of_le (Nat.le_of_eq (by rw [hhandles])) hregistry fun hfound => by rwa [hbindings] at hfound
  exact Coordinator.request_cases (Q := State.Known) (fun _ => hsame rfl rfl rfl)
    (fun _ => hsame rfl rfl rfl) h
    (fun _ => c.beforeAll_known h node) (fun _ => c.beforeEach_known h node)
    (fun _ => c.prepare_known h node)
    (fun _ => c.closeDown_known (fun _ _ => c.dropForMethod_confined _ _) h node)
    (fun _ => c.closeDown_known (fun _ _ => c.dropForClass_confined _ _) h node)

theorem shutdown_known (h : s.Known) : (shutdown s).2.Known := by
  have hall := @shutdownAll_leaves (fun s s' => s.Known → s'.Known) (fun _ h => h)
    (fun h h' hknown => h' (h hknown))
    fun id report s h => h.confined (shutdownOne_confined report id s)
  have hemptied : State.Known { s with registry := [] } :=
    ⟨fun hfound => (by cases hfound), h.bound⟩
  exact hall _ _ _ hemptied

theorem finish_known (h : s.Known) (root : ScopeNode) : (finishRun root s).2.Known := by
  have hdone := shutdown_known h
  change ((shutdown s).2.clearNode root).Known
  generalize (shutdown s).2 = emptied at hdone ⊢
  exact hdone.of_le (Nat.le_refl _) rfl Store.find?_of_clear

theorem perform_known (h : s.Known) (root : ScopeNode) (act : Act) :
    (act.perform root s).Known := by
  cases act with
  | grow parent kind name => exact ⟨h.registered, h.bound⟩
  | stop id => exact h.confined (stopHandle_confined id s)
  | shutdown => exact shutdown_known h
  | disconnect id => exact h.of_le (Nat.le_of_eq (s.size_modifyHandle id _).symm) rfl fun h => h
  | call made =>
      cases made with
      | request c node asked => exact request_known c h node asked
      | finish => exact finish_known h root
      | surround environment files => exact ⟨h.registered, h.bound⟩
      | disturb name server =>
          dsimp only [Act.perform, Call.perform]
          split
          · exact ⟨h.registered, h.bound⟩
          · exact h

theorem course_known (h : s.Known) (root : ScopeNode) (acts : List Act) :
    (course root s acts).Known := by
  induction acts generalizing s with
  | nil => exact h
  | cons act rest ih => exact ih (perform_known h root act)

/-- Before the first act nothing is referred to. -/
theorem initial_known (environment : Environment) (files : Files.Tree)
    (servers : Assoc String Memory.Server) : (State.initial environment files servers).Known :=
  ⟨fun hfound => (by cases hfound), fun hfound => (by cases hfound)⟩

end ScopedResources.Lifecycle
