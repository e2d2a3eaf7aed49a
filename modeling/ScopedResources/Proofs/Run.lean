import ScopedResources.Proofs.Hooks

/-!
# Runs

A run is a list of calls: requests of coordinators at nodes of a tree, in any order, with changes of
the surroundings and the end of the run between them. Every prefix of a run leaves a state in order.
The account stays strict up to the end of the run; what a node still owns then may be forgotten
later. -/

namespace ScopedResources.Lifecycle

/-- What a coordinator is asked for at a node. -/
inductive Request where
  | declare (decl : Declaration)
  | declareFrom (file : DeclarationFile)
  | overrideContainer (override : ContainerOverride)
  | beforeAll
  | beforeEach
  | resolve
  | resolveParams
  | afterEach
  | afterAll

/-- The state after a request; what it answers is left to the caller. -/
def Request.perform (c : Coordinator) (node : ScopeNode) (s : State) : Request → State
  | declare decl => (c.declare node decl s).2
  | declareFrom file => (c.declareFrom node file s).2
  | overrideContainer override => (c.overrideContainer node override s).2
  | beforeAll => (c.beforeAll node s).2
  | beforeEach => (c.beforeEach node s).2
  | resolve => (c.resolve node s).2
  | resolveParams => (c.resolveParams node s).2
  | afterEach => (c.afterEach node s).2
  | afterAll => (c.afterAll node s).2

/-- One step of a run. -/
inductive Call where
  | request (c : Coordinator) (node : ScopeNode) (request : Request)
  /-- The run ends; calls that follow are those of tests that go on all the same. -/
  | finish
  /-- A server gets into any state in which no container is gone: databases change, containers fail
  or recover, starts are refused. -/
  | disturb (name : String) (server : Memory.Server)
  /-- Environment and files change. -/
  | surround (environment : Environment) (files : Files.Tree)

namespace Call

/-- The state after a call in a run with this root. -/
def perform (root : ScopeNode) (s : State) : Call → State
  | .request c node asked => asked.perform c node s
  | .finish => (finishRun root s).2
  | .disturb name server =>
    if (s.server name).containers.size ≤ server.containers.size then s.setServer name server else s
  | .surround environment files => { s with environment, files }

/-- A call at a node of the tree, or at none. -/
def Within (tree : ScopeTree) : Call → Prop
  | .request _ node _ => node ∈ tree
  | _ => True

end Call

/-- The state after some calls. -/
def runCalls (root : ScopeNode) (calls : List Call) (s : State) : State :=
  calls.foldl (Call.perform root) s

/-- The state before the first call. -/
def State.initial (environment : Environment) (files : Files.Tree)
    (servers : Assoc String Memory.Server) : State :=
  { environment, files, servers }

/-- A state that calls in a tree lead to from the beginning. -/
def Reached (tree : ScopeTree) (calls : List Call) (s : State) : Prop :=
  (∀ call ∈ calls, call.Within tree) ∧
    ∃ environment files servers, s = runCalls tree.root calls (.initial environment files servers)

variable {tree : ScopeTree} {strict : Prop} {s : State} {node : ScopeNode}

theorem initial_orderly (environment : Environment) (files : Files.Tree)
    (servers : Assoc String Memory.Server) :
    Orderly tree strict [] (.initial environment files servers) where
  ledger :=
    { known := fun hid => absurd hid (Nat.not_lt_zero _)
      distinct := fun hid => absurd hid (Nat.not_lt_zero _)
      spent := fun _ _ => ⟨rfl, Nat.zero_le _⟩
      fresh := fun _ => rfl
      closed := fun id => by rw [State.handle_of_size_le _ (Nat.zero_le id)]; rfl }
  kept :=
    { known := fun {keeper _} hkeep => by cases keeper <;> cases hkeep
      owned := fun hkeep => by cases hkeep
      unique := fun {keeper _ _} hkeep => by cases keeper <;> cases hkeep
      held := fun hmem => absurd hmem List.not_mem_nil
      noneLost := fun _ _ hid => absurd hid (Nat.not_lt_zero _) }
  keys := List.nodup_nil
  placed := fun hfound => by cases hfound

/-! ## One call -/

/-- A declaration, on whichever node, takes none away. -/
theorem declare_orderly (c : Coordinator) (node : ScopeNode) (decl : Declaration)
    (h : Orderly tree strict [] s) : Orderly tree strict [] (c.declare node decl s).2 where
  ledger := h.ledger.congr rfl rfl rfl
  kept := h.kept.congr rfl (fun _ => rfl) (fun _ => rfl) fun keeper => by cases keeper <;> rfl
  keys := h.keys
  placed hfound := by
    obtain ⟨outer, hmem, hnumber, hkind, hdeclared⟩ := h.placed hfound
    exact ⟨outer, hmem, hnumber, hkind, fun hstrict =>
      Store.isSome_find?_put (hdeclared hstrict) node c.backend.name decl⟩

theorem declareFrom_orderly (c : Coordinator) (node : ScopeNode) (file : DeclarationFile)
    (h : Orderly tree strict [] s) :
    (c.declareFrom node file).Yields s fun _ s' => Orderly tree strict [] s' := by
  unfold Coordinator.declareFrom
  cases file.declaration? c.backend.name with
  | none => exact h
  | some decl =>
      refine Action.Yields.except_bind ?_ fun _ _ => h
      exact fun _ _ => declare_orderly c node decl h

theorem request_orderly (c : Coordinator) (hmem : node ∈ tree) (request : Request)
    (h : Orderly tree strict [] s) : Orderly tree strict [] (request.perform c node s) := by
  cases request with
  | declare decl => exact declare_orderly c node decl h
  | declareFrom file => exact declareFrom_orderly c node file h
  | overrideContainer override =>
      refine h.quiet ⟨rfl, fun _ => rfl, rfl, rfl, rfl, ?_, ?_, ?_, fun _ hbox => hbox⟩
      all_goals exact fun _ => rfl
  | beforeAll => exact (c.beforeAll_orderly hmem h).1
  | beforeEach => exact c.beforeEach_orderly hmem h
  | resolve => exact c.resolve_orderly hmem h
  | resolveParams => exact c.resolveParams_orderly hmem h
  | afterEach => exact (c.afterEach_orderly hmem h).1
  | afterAll => exact (c.afterAll_orderly hmem h).1

theorem disturb_quiet (name : String) (server : Memory.Server) (root : ScopeNode) (s : State) :
    Quiet s ((Call.disturb name server).perform root s) := by
  dsimp only [Call.perform]
  split
  next hsize => exact (setServer_sending hsize).quiet
  next => exact Quiet.refl s

theorem surround_quiet (environment : Environment) (files : Files.Tree) (root : ScopeNode)
    (s : State) : Quiet s ((Call.surround environment files).perform root s) :=
  ⟨rfl, fun _ => rfl, rfl, rfl, rfl, fun _ => rfl, fun _ => rfl, fun _ => rfl, fun _ h => h⟩

/-! ## The end of a run -/

theorem shutdownAll_orderly (hand : List HandleId) (report : Report) {s : State}
    (h : Orderly tree strict hand s) :
    Orderly tree strict [] (hand.foldlM shutdownOne report s).2 ∧
      SameNodes s (hand.foldlM shutdownOne report s).2 ∧
      (hand.foldlM shutdownOne report s).2.registry = s.registry := by
  -- every turn takes one handle out of hand
  induction hand generalizing report s with
  | nil => exact ⟨h, SameNodes.refl s, rfl⟩
  | cons id rest ih =>
      rw [List.foldlM_cons, Action.step_bind]
      obtain ⟨hdone, hnodes, hregistry⟩ := shutdownOne_orderly report h
      obtain ⟨hlast, hnodes', hregistry'⟩ := ih (shutdownOne report id s).1 hdone
      exact ⟨hlast, hnodes.trans hnodes', hregistry'.trans hregistry⟩

/-- Shutting down empties the registry; what it held is stopped. -/
theorem shutdown_orderly (h : Orderly tree strict [] s) :
    Orderly tree strict [] (shutdown s).2 ∧ SameNodes s (shutdown s).2 ∧
      (shutdown s).2.registry = [] := by
  -- once the registry is emptied, all that it kept is in hand
  have hemptied : Orderly tree strict (s.registry.map Prod.snd) { s with registry := [] } := by
    refine ⟨h.ledger.congr rfl rfl rfl, ?_, List.nodup_nil, h.placed⟩
    have hmem : ∀ id, id ∈ s.registry.map Prod.snd ↔
        ∃ backend key, s.kept? (.registry backend key) = some id := by
      intro id
      constructor
      · intro hid
        obtain ⟨⟨⟨backend, key⟩, _⟩, hentry, rfl⟩ := List.mem_map.mp hid
        exact ⟨backend, key, Assoc.find?_of_mem h.keys hentry⟩
      · rintro ⟨backend, key, hkeep⟩
        exact List.mem_map.mpr ⟨_, Assoc.mem_of_find? hkeep, rfl⟩
    refine h.kept.take rfl ?_ ?_ ?_
    · rintro (⟨number, key⟩ | ⟨backend, key⟩) id hkeep
      · exact hkeep
      · cases hkeep
    · intro id hid
      obtain ⟨backend, key, hkeep⟩ := (hmem id).mp hid
      exact .inr ⟨.registry backend key, hkeep, fun hgone => by cases hgone⟩
    · intro _ id
      refine ⟨fun hid => absurd hid List.not_mem_nil, ?_⟩
      rintro (⟨number, key⟩ | ⟨backend, key⟩) hkeep
      · exact .inl hkeep
      · exact .inr ((hmem id).mpr ⟨backend, key, hkeep⟩)
  obtain ⟨hdone, hnodes, hregistry⟩ := shutdownAll_orderly (s.registry.map Prod.snd) {} hemptied
  exact ⟨hdone, ⟨hnodes.bindings, hnodes.declarations⟩, hregistry⟩

/-- Nodes that the run has forgotten may still own instances, so the account is not strict. -/
theorem finish_orderly (hnot : ¬ strict) (root : ScopeNode) (h : Orderly tree strict [] s) :
    Orderly tree strict [] (finishRun root s).2 := by
  have hdone := (shutdown_orderly h).1
  change Orderly tree strict [] ((shutdown s).2.clearNode root)
  generalize (shutdown s).2 = emptied at hdone ⊢
  have hfind : ∀ {number key binding},
      Assoc.find? (number, key) (emptied.clearNode root).bindings.entries = some binding →
      Assoc.find? (number, key) emptied.bindings.entries = some binding := by
    intro number key binding hfound
    exact Store.find?_of_clear hfound
  refine ⟨hdone.ledger.congr rfl rfl rfl, ?_, hdone.keys, ?_⟩
  · refine hdone.kept.take rfl ?_ (fun hmem => absurd hmem List.not_mem_nil)
      fun hstrict => absurd hstrict hnot
    rintro (⟨number, key⟩ | ⟨backend, key⟩) id hkeep
    · rw [State.kept?_node_iff] at hkeep ⊢
      exact hfind hkeep
    · exact hkeep
  · intro number key binding hfound
    obtain ⟨node, hmem, hnumber, hkind, -⟩ := hdone.placed (hfind hfound)
    exact ⟨node, hmem, hnumber, hkind, fun hstrict => absurd hstrict hnot⟩

/-! ## Whole runs -/

theorem perform_orderly {call : Call} (hwithin : call.Within tree)
    (hfinish : strict → call ≠ .finish) (h : Orderly tree strict [] s) :
    Orderly tree strict [] (call.perform tree.root s) := by
  cases call with
  | request c node asked => exact request_orderly c hwithin asked h
  | finish => exact finish_orderly (fun hstrict => hfinish hstrict rfl) tree.root h
  | disturb name server => exact h.quiet (disturb_quiet name server tree.root s)
  | surround environment files => exact h.quiet (surround_quiet environment files tree.root s)

theorem runCalls_orderly {calls : List Call} (hwithin : ∀ call ∈ calls, call.Within tree)
    (hfinish : strict → ∀ call ∈ calls, call ≠ .finish) (h : Orderly tree strict [] s) :
    Orderly tree strict [] (runCalls tree.root calls s) := by
  induction calls generalizing s with
  | nil => exact h
  | cons call rest ih =>
      have hstep := perform_orderly (hwithin call (List.mem_cons_self ..))
        (fun hstrict => hfinish hstrict call (List.mem_cons_self ..)) h
      exact ih (fun next hnext => hwithin next (List.mem_cons_of_mem _ hnext))
        (fun hstrict next hnext => hfinish hstrict next (List.mem_cons_of_mem _ hnext)) hstep

theorem Reached.orderly {calls : List Call} (h : Reached tree calls s)
    (hfinish : strict → ∀ call ∈ calls, call ≠ .finish) : Orderly tree strict [] s := by
  obtain ⟨hwithin, environment, files, servers, rfl⟩ := h
  exact runCalls_orderly hwithin hfinish (initial_orderly environment files servers)

/-! ## Two classes

The smallest tree in which one class can own what another one shares with the run, and the same tree
with a method. -/

namespace TwoClasses

/-- The tree of a run with two classes. -/
def scopes : ScopeTree :=
  ((ScopeTree.single "run").grow (ScopeNode.root "run") rfl 1 (by rintro _ rfl; decide)
    .testClass "Alone").grow (ScopeNode.root "run") (Set.mem_insert_of_mem _ rfl) 2
    (by rintro _ (rfl | rfl) <;> decide) .testClass "Together"

/-- The class with a container of its own. -/
def alone : ScopeNode :=
  (ScopeNode.root "run").child 1 .testClass "Alone"

/-- The class that uses the container of the run. -/
def together : ScopeNode :=
  (ScopeNode.root "run").child 2 .testClass "Together"

theorem alone_mem : alone ∈ scopes :=
  Set.mem_insert_of_mem _ (Set.mem_insert _ _)

theorem together_mem : together ∈ scopes :=
  Set.mem_insert _ _

/-- A method of the class with a container of its own. -/
def test : ScopeNode :=
  alone.child 3 .testMethod "test"

/-- The tree with the method. -/
def scopesWithTest : ScopeTree :=
  scopes.grow alone alone_mem 3 (by rintro _ (rfl | rfl | rfl) <;> decide) .testMethod "test"

theorem alone_mem' : alone ∈ scopesWithTest :=
  Set.mem_insert_of_mem _ alone_mem

theorem together_mem' : together ∈ scopesWithTest :=
  Set.mem_insert_of_mem _ together_mem

theorem test_mem : test ∈ scopesWithTest :=
  Set.mem_insert _ _

/-- A coordinator that knows of no external instance. -/
def coordinator : Coordinator where
  name := "coordinator"
  backend := Backend.memory "MemoryConnection"
  external := .disabled
  migrationRoot := ""

end TwoClasses

end ScopedResources.Lifecycle
