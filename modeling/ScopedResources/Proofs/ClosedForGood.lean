import ScopedResources.Proofs.Apportioned
import ScopedResources.Proofs.Course

/-!
# Closed for good

The hook after a class or a method leaves a mark that nothing takes away, and takes the binding
away, which nothing brings back. The mark is seen from everything below the node, also from nodes
that are made later, and every request that could make an instance looks for it first. -/

namespace ScopedResources.Lifecycle

open Trace

variable {tree : ScopeTree} {s s' : State} {node below : ScopeNode}

/-- A node was closed for a coordinator, and is not bound. -/
structure Coordinator.Closed (c : Coordinator) (s : State) (node : ScopeNode) : Prop where
  marked : (s.finished.get? node c.backend.name).isSome
  unbound : c.binding? s node = none

/-! ## Requests at a closed node -/

namespace Coordinator

variable (c : Coordinator)

/-- The error of a connection that is asked for at a closed node. A class looks its declaration up
before it looks for the mark. -/
def closedError (s : State) (node : ScopeNode) : LifecycleError :=
  match node.kind with
  | .testMethod => c.finishedError node
  | .testClass =>
    match c.declarationAt s node with
    | .error error => error
    | .ok decl =>
      if decl.mode = .testMethod then c.refusal (c.backend.name ++
        " resource is METHOD scoped; request it from a test method, not class " ++ node.path)
      else c.finishedError node
  | .run => c.refusal "connections are resolved within a class or a method"

/-- It is not an error of a factory. -/
theorem closedError_ne_resourceStart (s : State) (node : ScopeNode) (image reason : String) :
    c.closedError s node ≠ .resourceStart image reason := by
  unfold closedError declarationAt
  cases node.kind with
  | testMethod => exact fun h => by cases h
  | run => exact fun h => by cases h
  | testClass =>
      cases s.declarations.find? node c.backend.name with
      | none => exact fun h => by cases h
      | some decl =>
          dsimp only
          split
          · exact fun h => by cases h
          · exact fun h => by cases h

theorem prepare_of_closed (hclosed : (s.finished.find? node c.backend.name).isSome) :
    c.prepare node s = (.error (c.closedError s node), s) := by
  unfold prepare closedError
  cases hkind : node.kind with
  | testMethod => exact c.beforeEach_of_closed hkind hclosed
  | run => rfl
  | testClass =>
      simp only [Action.run_bind, Action.run_get, Action.run_except]
      cases c.declarationAt s node with
      | error _ => rfl
      | ok decl =>
          dsimp only
          split
          next => rfl
          next => exact c.beforeAll_of_closed hkind hclosed

theorem resolve_of_closed (hclosed : (s.finished.find? node c.backend.name).isSome) :
    c.resolve node s = (.error (c.closedError s node), s) := by
  rw [run_resolve, c.prepare_of_closed hclosed]

theorem resolveParams_of_closed (hclosed : (s.finished.find? node c.backend.name).isSome) :
    c.resolveParams node s = (.error (c.closedError s node), s) := by
  rw [run_resolveParams, c.resolve_of_closed hclosed]

/-- Closing a node again changes nothing. -/
theorem close_of_closed (h : c.Closed s node) : (c.close node s).2 = s := by
  have hmark : s.finished.put node c.backend.name () = s.finished := by
    obtain ⟨_, hfound⟩ := Option.isSome_iff_exists.mp h.marked
    exact congrArg Store.mk (Assoc.insert_of_find? hfound)
  have hbinding : s.bindings.remove node c.bindingKey = s.bindings :=
    congrArg Store.mk (Assoc.erase_of_find? h.unbound)
  change { s with
    finished := s.finished.put node c.backend.name ()
    bindings := s.bindings.remove node c.bindingKey } = s
  rw [hmark, hbinding]

theorem afterEach_of_closed (h : c.Closed s node) : c.afterEach node s = (.ok (), s) := by
  rw [afterEach_eq_closeDown, c.closeDown_of_unbound h.unbound, c.close_of_closed h]

theorem afterAll_of_closed (h : c.Closed s node) : c.afterAll node s = (.ok (), s) := by
  rw [afterAll_eq_closeDown, c.closeDown_of_unbound h.unbound, c.close_of_closed h]

/-! ## The mark lasts -/

variable {c}

theorem Closed.waning (h : c.Closed s node) (hwaning : Waning s s') : c.Closed s' node where
  marked := hwaning.marked h.marked
  unbound := by
    cases hfound : c.binding? s' node with
    | none => rfl
    | some binding => cases h.unbound.symm.trans (hwaning.bound hfound)

theorem closed_of_afterHook {asked : Request} (hasked : asked = .afterEach ∨ asked = .afterAll)
    (node : ScopeNode) (s : State) : c.Closed (asked.perform c node s) node := by
  have hclosed : c.Closed (c.close node s).2 node := by
    refine ⟨?_, ?_⟩
    · change ((s.finished.put node c.backend.name ()).get? node c.backend.name).isSome
      rw [Store.get?_put, if_pos ⟨rfl, rfl⟩]
      rfl
    · rw [binding?_close, if_pos rfl]
  exact hclosed.waning (c.afterHook_waning hasked node s)

/-- The mark is seen from everything below. -/
theorem Closed.seen (h : c.Closed s node) (hbelow : node ∈ below.enclosing) :
    (s.finished.find? below c.backend.name).isSome :=
  (Store.isSome_find?_iff ..).mpr ⟨node, hbelow, h.marked⟩

/-- No act opens a node that is closed, and none takes the mark away. -/
theorem Closed.advance {act : Act} (h : c.Closed s node) (hmem : node ∈ tree)
    (hkind : node.kind ≠ .run) (hadvance : Advance tree act s s') : c.Closed s' node where
  marked := hadvance.marked hmem hkind h.marked
  unbound := by
    cases hfound : c.binding? s' node with
    | none => rfl
    | some binding =>
        rcases hadvance.bound hfound with hbefore | ⟨other, _, _, opened, -, -, hopened,
          hplace, hopens⟩
        · cases h.unbound.symm.trans hbefore
        · injection hplace with hnumber hkey
          obtain rfl := tree.eq_of_number_eq hmem hopened hnumber
          have hname : other.backend.name = c.backend.name := congrArg Prod.fst hkey.symm
          have hmark := h.marked
          rw [← hname, Store.get?_eq_none_of_find? hopens.opened] at hmark
          cases hmark

theorem Closed.course {acts : List Act} (h : c.Closed s node) (hmem : node ∈ tree)
    (hkind : node.kind ≠ .run) (hwithin : ∀ act ∈ acts, act.Within tree) :
    c.Closed (course tree.root s acts) node := by
  induction acts generalizing s with
  | nil => exact h
  | cons act rest ih =>
      have hstep := perform_advance (hwithin act (List.mem_cons_self ..)) s
      exact ih (h.advance hmem hkind hstep) fun next hnext =>
        hwithin next (List.mem_cons_of_mem _ hnext)

end Coordinator

/-- Once the hook after a class or a method was called, whatever state it was called in and whatever
was done since, every request for an instance at the node or below it is turned away, whoever asks:
the errors are those that come before the registry is asked, none of them is that of a factory, and
the state is as it was. Closing the node again succeeds and changes nothing. -/
theorem closed_stays_closed {c : Coordinator} {asked : Request}
    (hasked : asked = .afterEach ∨ asked = .afterAll) (hmem : node ∈ tree)
    (hkind : node.kind ≠ .run)
    {start : State} {later : List Act} (hwithin : ∀ act ∈ later, act.Within tree)
    (hs : s = course tree.root start (.call (.request c node asked) :: later)) :
    (∀ below : ScopeNode, node ∈ below.enclosing → ∀ other : Coordinator,
      other.backend.name = c.backend.name →
      other.beforeAll below s = (.error (if below.kind = .testClass then other.finishedError below
        else Coordinator.kindError below .testClass "before_all"), s) ∧
      other.beforeEach below s = (.error (if below.kind = .testMethod then other.finishedError below
        else Coordinator.kindError below .testMethod "before_each"), s) ∧
      other.resolve below s = (.error (other.closedError s below), s) ∧
      other.resolveParams below s = (.error (other.closedError s below), s) ∧
      ∀ image reason, other.closedError s below ≠ .resourceStart image reason) ∧
    ∀ other : Coordinator, other.bindingKey = c.bindingKey →
      other.afterEach node s = (.ok (), s) ∧ other.afterAll node s = (.ok (), s) := by
  have hclosed : c.Closed s node := by
    rw [hs]
    exact (Coordinator.closed_of_afterHook hasked node start).course hmem hkind hwithin
  refine ⟨?_, ?_⟩
  · intro below hbelow other hname
    have hseen : (s.finished.find? below other.backend.name).isSome := by
      rw [hname]
      exact hclosed.seen hbelow
    refine ⟨?_, ?_, other.resolve_of_closed hseen, other.resolveParams_of_closed hseen,
      other.closedError_ne_resourceStart s below⟩
    · split
      next hclass => exact other.beforeAll_of_closed hclass hseen
      next hclass => exact other.beforeAll_of_kind_ne hclass
    · split
      next hmethod => exact other.beforeEach_of_closed hmethod hseen
      next hmethod => exact other.beforeEach_of_kind_ne hmethod
  · intro other hkey
    have hother : other.Closed s node := by
      refine ⟨?_, ?_⟩
      · rw [show other.backend.name = c.backend.name from congrArg Prod.fst hkey]
        exact hclosed.marked
      · rw [Coordinator.binding?, hkey]
        exact hclosed.unbound
    exact ⟨other.afterEach_of_closed hother, other.afterAll_of_closed hother⟩

/-! A class is closed, its declaration is replaced, another class uses the run, and the run ends. -/

namespace TwoClasses

/-- What goes on after the class with a container of its own is closed. -/
def afterwards : List Act :=
  [.call (.request coordinator alone (.declare { mode := .run })),
    .call (.request coordinator together .beforeAll), .grow alone .testMethod "late",
    .call (.request coordinator test .resolve), .shutdown, .call .finish]

/-- The state at the end, in which the class was open before it was closed. -/
def afterClosing : State :=
  course scopesWithTest.root
    (runCalls scopesWithTest.root
      [.request coordinator alone (.declare {}), .request coordinator test .beforeEach]
      (.initial {} {} []))
    (.call (.request coordinator alone .afterAll) :: afterwards)

theorem afterwards_within : ∀ act ∈ afterwards, act.Within scopesWithTest := by
  simp [afterwards, Act.Within, Call.Within, alone_mem', together_mem', test_mem]

end TwoClasses

open TwoClasses in
/-- A method that is made below the class after all that finds nothing. -/
theorem late_method_finds_class_closed :
    alone ∈ scopesWithTest ∧ alone.kind ≠ .run ∧ (∀ act ∈ afterwards, act.Within scopesWithTest) ∧
      coordinator.resolve (alone.child 4 .testMethod "late") afterClosing =
        (.error (coordinator.finishedError (alone.child 4 .testMethod "late")), afterClosing) ∧
      coordinator.afterAll alone afterClosing = (.ok (), afterClosing) := by
  have hall := closed_stays_closed (c := coordinator) (.inr rfl) alone_mem' (by decide)
    afterwards_within (show afterClosing = _ from rfl)
  refine ⟨alone_mem', by decide, afterwards_within, ?_, (hall.2 coordinator rfl).2⟩
  have hbelow : alone ∈ (alone.child 4 .testMethod "late").enclosing := by decide
  exact (hall.1 _ hbelow coordinator rfl).2.2.1

end ScopedResources.Lifecycle
