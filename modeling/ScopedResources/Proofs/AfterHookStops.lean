import ScopedResources.Proofs.Run

/-!
# What an after-hook stops

The hook after a node takes the binding away and then looks the declaration up. As long as the node
sees a declaration, the handle that it owns is stopped exactly once, whatever becomes of the
migrations. A run that has ended took the declarations of its root with it: a class that saw only
those is closed with an error, and its handle is left running.
-/

namespace ScopedResources.Lifecycle

/-- The hook after a node: that of a class, or that of a method. -/
def Coordinator.afterHook (c : Coordinator) (node : ScopeNode) : Action LifecycleError Unit :=
  if node.kind = .testClass then c.afterAll node else c.afterEach node

variable {tree : ScopeTree} {s : State} {node : ScopeNode} {id : HandleId} (c : Coordinator)

theorem afterHook_eq_closeDown (node : ScopeNode) :
    ∃ drop, (∀ binding policy, Action.Leaves Quiet (drop binding policy)) ∧
      c.afterHook node = c.closeDown node drop := by
  unfold Coordinator.afterHook
  split
  · exact ⟨c.dropForClass, fun _ _ => c.dropForClass_quiet _, c.afterAll_eq_closeDown node⟩
  · exact ⟨c.dropForMethod, fun _ _ => c.dropForMethod_quiet _, c.afterEach_eq_closeDown node⟩

/-- What a node owns is live and was not closed before. -/
theorem Orderly.open_of_owned {strict : Prop} (h : Orderly tree strict [] s)
    (howned : c.binding? s node = some ⟨id, .owned⟩) :
    id < s.handles.size ∧ (s.handle id).stopped = false ∧ s.closings id = 0 := by
  have hkeep : s.kept? (.node node.number c.bindingKey) = some id :=
    State.kept?_node_iff.mpr howned
  have hlive := (h.kept.owned hkeep).2
  refine ⟨h.kept.known hkeep, hlive, ?_⟩
  rw [h.ledger.closed, hlive]
  rfl

theorem Orderly.closed_of_halted {strict : Prop} {s' : State} (h' : Orderly tree strict [] s')
    (hhalted : Halted id s s') :
    s'.closings id = 1 ∧ ∀ box, (s.handle id).container? = some box → s'.stops box = 1 := by
  -- a handle that was never made does not count as stopped
  have hid : id < s'.handles.size := by
    by_contra hout
    have hdefault := hhalted.1
    rw [State.handle_of_size_le s' (Nat.le_of_not_lt hout)] at hdefault
    cases hdefault
  refine ⟨?_, fun box hbox => ?_⟩
  · rw [h'.ledger.closed, hhalted.1]
    rfl
  · rw [(h'.ledger.known hid (hhalted.2.trans hbox)).2, hhalted.1]
    rfl

/-- While a run goes on, every binding is on a node that sees a declaration. -/
theorem Reached.declared {calls : List Call} (h : Reached tree calls s) (hmem : node ∈ tree)
    (hongoing : ∀ call ∈ calls, call ≠ .finish) {binding : Binding}
    (hbinding : c.binding? s node = some binding) :
    (s.declarations.find? node c.backend.name).isSome := by
  have hstrict : Orderly tree True [] s := h.orderly fun _ => hongoing
  obtain ⟨other, hother, hnumber, -, hdeclared⟩ := hstrict.placed hbinding
  obtain rfl := tree.eq_of_number_eq hother hmem hnumber
  exact hdeclared trivial

/-- The hook after a node that owns a handle stops the handle, and tells its container to stop,
exactly once if the node sees a declaration. If it sees none, the hook fails and the handle is left
as it was, with no node to own it. During a run the node always sees one. -/
theorem afterHook_stops_iff_declared {calls : List Call} (h : Reached tree calls s)
    (hmem : node ∈ tree) (howned : c.binding? s node = some ⟨id, .owned⟩) :
    (s.closings id = 0 ∧ ((c.afterHook node s).2.closings id = 1 ↔
      (s.declarations.find? node c.backend.name).isSome)) ∧
    ((s.declarations.find? node c.backend.name).isSome →
      ((c.afterHook node s).2.handle id).stopped = true ∧
      ∀ box, (s.handle id).container? = some box →
        s.stops box = 0 ∧ (c.afterHook node s).2.stops box = 1) ∧
    (s.declarations.find? node c.backend.name = none →
      (c.afterHook node s).1 = .error (.configuration
        ("no " ++ c.backend.name ++ " resource declared for " ++ node.path)) ∧
      (c.afterHook node s).2.handle id = s.handle id ∧ (s.handle id).stopped = false ∧
      c.binding? (c.afterHook node s).2 node = none) ∧
    ((∀ call ∈ calls, call ≠ .finish) →
      (s.declarations.find? node c.backend.name).isSome) := by
  have horderly : Orderly tree False [] s := h.orderly fun hfalse => hfalse.elim
  obtain ⟨hid, hlive, hclosings⟩ := horderly.open_of_owned c howned
  obtain ⟨drop, hdrop, hhook⟩ := afterHook_eq_closeDown c node
  have hdeclared : (s.declarations.find? node c.backend.name).isSome →
      (c.afterHook node s).2.closings id = 1 ∧ ((c.afterHook node s).2.handle id).stopped = true ∧
      ∀ box, (s.handle id).container? = some box →
        s.stops box = 0 ∧ (c.afterHook node s).2.stops box = 1 := by
    intro hdecl
    rw [hhook]
    obtain ⟨hdone, -, hhalts⟩ := c.closeDown_of_declared hdrop horderly howned hdecl
    have hhalted : Halted id s (c.closeDown node drop s).2 := hhalts rfl
    obtain ⟨hclosed, hstops⟩ := hdone.closed_of_halted hhalted
    refine ⟨hclosed, hhalted.1, fun box hbox => ⟨?_, hstops box hbox⟩⟩
    rw [(horderly.ledger.known hid hbox).2, hlive]
    rfl
  have hundeclared : s.declarations.find? node c.backend.name = none →
      c.afterHook node s = (.error (.configuration
        ("no " ++ c.backend.name ++ " resource declared for " ++ node.path)),
        (c.close node s).2) := by
    intro hnone
    rw [hhook]
    exact c.closeDown_of_undeclared howned hnone
  refine ⟨⟨hclosings, ?_⟩, fun hdecl => (hdeclared hdecl).2, ?_, ?_⟩
  · cases hdecl : s.declarations.find? node c.backend.name with
    | some decl => exact iff_of_true (hdeclared (by rw [hdecl]; rfl)).1 rfl
    | none =>
        -- closing the node leaves the journal as it was
        rw [hundeclared hdecl]
        refine iff_of_false (fun hclosed => ?_) Bool.false_ne_true
        exact absurd (hclosings.symm.trans hclosed) Nat.zero_ne_one
  · intro hnone
    rw [hundeclared hnone]
    refine ⟨rfl, rfl, hlive, ?_⟩
    exact (find?_close c s node.number c.bindingKey).trans (if_pos rfl)
  · exact fun hongoing => h.declared c hmem hongoing howned

open TwoClasses

/-- A class is opened with a declaration of its own. -/
def openedAlone : List Call :=
  [.request coordinator alone (.declare {}), .request coordinator alone .beforeAll]

/-- The hook after that class stops what the class owns. -/
theorem afterHook_stops_alone :
    Reached scopes openedAlone (runCalls scopes.root openedAlone (.initial {} {} [])) ∧
    coordinator.binding? (runCalls scopes.root openedAlone (.initial {} {} [])) alone =
      some ⟨0, .owned⟩ ∧
    (coordinator.afterHook alone
      (runCalls scopes.root openedAlone (.initial {} {} []))).2.closings 0 = 1 := by
  have hreached : Reached scopes openedAlone
      (runCalls scopes.root openedAlone (.initial {} {} [])) := by
    refine ⟨?_, {}, {}, [], rfl⟩
    simp [openedAlone, Call.Within, alone_mem]
  have howned : coordinator.binding? (runCalls scopes.root openedAlone (.initial {} {} [])) alone =
      some ⟨0, .owned⟩ := rfl
  have hall := afterHook_stops_iff_declared coordinator hreached alone_mem howned
  exact ⟨hreached, howned, hall.1.2.mpr rfl⟩

/-- A class is opened with the declaration of the run, and the run ends before the class does. -/
def overtaken : List Call :=
  [.request coordinator (ScopeNode.root "run") (.declare {}), .request coordinator alone .beforeAll,
    .finish]

/-- After the end of the run the hook after the class does not stop what the class owns. -/
theorem afterHook_leaves_overtaken_running :
    Reached scopes overtaken (runCalls scopes.root overtaken (.initial {} {} [])) ∧
    coordinator.binding? (runCalls scopes.root overtaken (.initial {} {} [])) alone =
      some ⟨0, .owned⟩ ∧
    ¬ (coordinator.afterHook alone
      (runCalls scopes.root overtaken (.initial {} {} []))).2.closings 0 = 1 ∧
    (coordinator.afterHook alone
      (runCalls scopes.root overtaken (.initial {} {} []))).2.starts ("MEMORY", 0) = 1 ∧
    (coordinator.afterHook alone
      (runCalls scopes.root overtaken (.initial {} {} []))).2.stops ("MEMORY", 0) = 0 := by
  refine ⟨⟨?_, {}, {}, [], rfl⟩, rfl, by decide +kernel, by decide +kernel, by decide +kernel⟩
  simp only [overtaken, List.mem_cons, List.not_mem_nil, or_false]
  rintro call (rfl | rfl | rfl)
  · exact scopes.root_mem
  · exact alone_mem
  · trivial

end ScopedResources.Lifecycle
