import ScopedResources.Proofs.Run
import Mathlib.Logic.ExistsUnique

/-!
# Every container is accounted for

As long as a run has not ended, a container that was told to start and not to stop is behind one
handle, and that handle has one place: one node owns it, or it is registered under one key. When the
nodes that own something have had their after-hooks and the run ends, every container that was told
to start has been told to stop exactly once. -/

namespace ScopedResources.Lifecycle

/-- A node owns a handle under a backend and a connection type. -/
def State.Owns (s : State) (place : ScopeNode × (String × String)) (id : HandleId) : Prop :=
  s.bindings.get? place.1 place.2 = some ⟨id, .owned⟩

/-- A handle is the live one that the registry has for a backend and a key. -/
def State.Registers (s : State) (place : String × ResourceKey) (id : HandleId) : Prop :=
  s.live? place.1 place.2 = some id

/-- A handle is owned by exactly one node and not registered, or it is registered under exactly one
key and no node owns it. -/
def State.KeptOnce (s : State) (tree : ScopeTree) (id : HandleId) : Prop :=
  ((∃! place, place.1 ∈ tree ∧ s.Owns place id) ∧ ∀ place, ¬ s.Registers place id) ∨
    ((∃! place, s.Registers place id) ∧ ∀ place, place.1 ∈ tree → ¬ s.Owns place id)

/-- A container is behind exactly one handle, which is live and kept once. -/
def State.AccountedFor (s : State) (tree : ScopeTree) (box : ContainerId) : Prop :=
  ∃ id, id < s.handles.size ∧ (s.handle id).container? = some box ∧
    (s.handle id).stopped = false ∧ s.KeptOnce tree id ∧
    ∀ other < s.handles.size, (s.handle other).container? = some box → other = id

/-- The hook after a node, asked of a coordinator that binds under this key. -/
def Call.Closes (place : ScopeNode × (String × String)) : Call → Prop
  | .request c node .afterEach => node = place.1 ∧ c.bindingKey = place.2
  | .request c node .afterAll => node = place.1 ∧ c.bindingKey = place.2
  | _ => False

/-- A call that binds no node: the hook after one, or a change of the surroundings. -/
def Call.Closing (tree : ScopeTree) : Call → Prop
  | .request _ node .afterEach => node ∈ tree
  | .request _ node .afterAll => node ∈ tree
  | .disturb _ _ => True
  | .surround _ _ => True
  | _ => False

variable {tree : ScopeTree} {s : State} {box : ContainerId}

theorem live?_eq_some_iff {backend : String} {key : ResourceKey} {id : HandleId} :
    s.live? backend key = some id ↔
      s.kept? (.registry backend key) = some id ∧ (s.handle id).stopped = false := by
  rw [State.live?, Option.filter_eq_some_iff]
  simp [State.kept?]

theorem owns_iff {place : ScopeNode × (String × String)} {id : HandleId} :
    s.Owns place id ↔ s.kept? (.node place.1.number place.2) = some id :=
  State.kept?_node_iff.symm

theorem Orderly.keptOnce {strict : Prop} {hand : List HandleId} (h : Orderly tree strict hand s)
    {keeper : Keeper} {id : HandleId} (hkeep : s.kept? keeper = some id)
    (hlive : (s.handle id).stopped = false) : s.KeptOnce tree id := by
  cases keeper with
  | node number key =>
      obtain ⟨node, hmem, rfl, -, -⟩ := h.placed (State.kept?_node_iff.mp hkeep)
      refine .inl ⟨⟨(node, key), ⟨hmem, owns_iff.mpr hkeep⟩, ?_⟩, ?_⟩
      · rintro ⟨other, key'⟩ ⟨hother, howns⟩
        have hsame := h.kept.unique (owns_iff.mp howns) hkeep
        injection hsame with hnumber hkey
        exact Prod.ext (tree.eq_of_number_eq hother hmem hnumber) hkey
      · rintro ⟨backend, key'⟩ hregisters
        cases h.kept.unique (live?_eq_some_iff.mp hregisters).1 hkeep
  | registry backend key =>
      refine .inr ⟨⟨(backend, key), live?_eq_some_iff.mpr ⟨hkeep, hlive⟩, ?_⟩, ?_⟩
      · rintro ⟨backend', key'⟩ hregisters
        have hsame := h.kept.unique (live?_eq_some_iff.mp hregisters).1 hkeep
        cases hsame
        rfl
      · rintro place - howns
        cases h.kept.unique (owns_iff.mp howns) hkeep

/-- A strict account leaves no container out that was told to start and not to stop. -/
theorem Orderly.accountedFor (h : Orderly tree True [] s) (hstarts : 0 < s.starts box)
    (hstops : s.stops box = 0) : s.AccountedFor tree box := by
  -- a container behind no handle was told to stop as often as to start
  have hbehind : ∃ id < s.handles.size, (s.handle id).container? = some box := by
    by_contra hnone
    have hspent := h.ledger.spent box fun id hid hbox => hnone ⟨id, hid, hbox⟩
    omega
  obtain ⟨id, hid, hbox⟩ := hbehind
  have hlive : (s.handle id).stopped = false := by
    have hknown := (h.ledger.known hid hbox).2
    rw [hstops] at hknown
    cases hstopped : (s.handle id).stopped with
    | false => rfl
    | true =>
        rw [hstopped, if_pos rfl] at hknown
        cases hknown
  have hsome : (s.handle id).container?.isSome := by
    rw [hbox]
    rfl
  obtain ⟨keeper, hkeep⟩ :=
    (h.kept.noneLost trivial hid hsome hlive).resolve_left List.not_mem_nil
  refine ⟨id, hid, hbox, hlive, h.keptOnce hkeep hlive, ?_⟩
  exact fun other hother hbox' => h.ledger.distinct hother hid hbox' hbox

/-! ## The end of a run -/

/-- Once the registry is empty and no node owns a handle, nothing is left running. -/
theorem Orderly.stopped_of_unkept (h : Orderly tree True [] s)
    (hnone : ∀ keeper, s.kept? keeper = none) (hstarts : 0 < s.starts box) :
    s.starts box = 1 ∧ s.stops box = 1 := by
  by_cases hbehind : ∃ id < s.handles.size, (s.handle id).container? = some box
  · obtain ⟨id, hid, hbox⟩ := hbehind
    obtain ⟨hstarted, hstopped⟩ := h.ledger.known hid hbox
    refine ⟨hstarted, ?_⟩
    cases hlive : (s.handle id).stopped with
    | true => rw [hstopped, if_pos hlive]
    | false =>
        have hsome : (s.handle id).container?.isSome := by
          rw [hbox]
          rfl
        obtain ⟨keeper, hkeep⟩ :=
          (h.kept.noneLost trivial hid hsome hlive).resolve_left List.not_mem_nil
        rw [hnone keeper] at hkeep
        cases hkeep
  · have hspent := h.ledger.spent box fun id hid hbox => hbehind ⟨id, hid, hbox⟩
    omega

theorem finishRun_starts (root : ScopeNode) (s : State) (box : ContainerId) :
    (finishRun root s).2.starts box = (shutdown s).2.starts box := rfl

theorem finishRun_stops (root : ScopeNode) (s : State) (box : ContainerId) :
    (finishRun root s).2.stops box = (shutdown s).2.stops box := rfl

theorem Orderly.stopped_by_finish (h : Orderly tree True [] s)
    (hnone : ∀ number key, s.kept? (.node number key) = none) (root : ScopeNode)
    (hstarts : 0 < (finishRun root s).2.starts box) :
    (finishRun root s).2.starts box = 1 ∧ (finishRun root s).2.stops box = 1 := by
  obtain ⟨hdone, hnodes, hregistry⟩ := shutdown_orderly h
  rw [finishRun_starts] at hstarts
  rw [finishRun_starts, finishRun_stops]
  refine hdone.stopped_of_unkept ?_ hstarts
  rintro (⟨number, key⟩ | ⟨backend, key⟩)
  · rw [State.kept?, hnodes.bindings]
    exact hnone number key
  · rw [State.kept?, hregistry]
    rfl

/-- What a node owns after a closing call it owned before, and the call was not the hook after it.
-/
theorem kept?_of_closing {call : Call} (hclosing : call.Closing tree) (h : Orderly tree True [] s)
    {number : Nat} {key : String × String} {id : HandleId}
    (hkeep : (call.perform tree.root s).kept? (.node number key) = some id) :
    s.kept? (.node number key) = some id ∧
      ∀ node, node.number = number → ¬ call.Closes (node, key) := by
  have hclose : ∀ (c : Coordinator) (node : ScopeNode) (s' : State),
      s'.bindings = (c.close node s).2.bindings → s'.kept? (.node number key) = some id →
      s.kept? (.node number key) = some id ∧ (node.number, c.bindingKey) ≠ (number, key) := by
    intro c node s' hbindings hkeep
    have hsame : s'.kept? (.node number key) = (c.close node s).2.kept? (.node number key) := by
      rw [State.kept?, State.kept?, hbindings]
    rw [hsame, kept?_close] at hkeep
    split at hkeep
    next => cases hkeep
    next hne => exact ⟨hkeep, hne⟩
  cases call with
  | request c node asked =>
      cases asked with
      | afterEach =>
          obtain ⟨hbefore, hne⟩ := hclose c node _ (c.afterEach_orderly hclosing h).2 hkeep
          refine ⟨hbefore, ?_⟩
          rintro other rfl ⟨rfl, hkey⟩
          exact hne (Prod.ext rfl hkey)
      | afterAll =>
          obtain ⟨hbefore, hne⟩ := hclose c node _ (c.afterAll_orderly hclosing h).2 hkeep
          refine ⟨hbefore, ?_⟩
          rintro other rfl ⟨rfl, hkey⟩
          exact hne (Prod.ext rfl hkey)
      | declare _ | declareFrom _ | overrideContainer _ | beforeAll | beforeEach | resolve
      | resolveParams => exact absurd hclosing not_false
  | finish => exact absurd hclosing not_false
  | disturb name server =>
      rw [(disturb_quiet name server tree.root s).steady.kept?] at hkeep
      exact ⟨hkeep, fun _ _ => not_false⟩
  | surround environment files =>
      rw [(surround_quiet environment files tree.root s).steady.kept?] at hkeep
      exact ⟨hkeep, fun _ _ => not_false⟩

theorem Call.Closing.within {call : Call} (h : call.Closing tree) : call.Within tree := by
  cases call with
  | request c node asked =>
      cases asked with
      | afterEach => exact h
      | afterAll => exact h
      | declare _ | declareFrom _ | overrideContainer _ | beforeAll | beforeEach | resolve
      | resolveParams => exact absurd h not_false
  | finish => exact absurd h not_false
  | disturb _ _ => trivial
  | surround _ _ => trivial

theorem Call.Closing.ne_finish {call : Call} (h : call.Closing tree) : call ≠ .finish := by
  rintro rfl
  exact h

/-- A run of closing calls leaves a node what it owned only if the hook after it is not among them.
-/
theorem kept?_of_closings {closers : List Call} (hclosing : ∀ call ∈ closers, call.Closing tree)
    (h : Orderly tree True [] s) {number : Nat} {key : String × String} {id : HandleId}
    (hkeep : (runCalls tree.root closers s).kept? (.node number key) = some id) :
    s.kept? (.node number key) = some id ∧
      ∀ node, node.number = number → ∀ call ∈ closers, ¬ call.Closes (node, key) := by
  induction closers generalizing s with
  | nil => exact ⟨hkeep, fun _ _ _ hmem => absurd hmem List.not_mem_nil⟩
  | cons call rest ih =>
      have hcall := hclosing call (List.mem_cons_self ..)
      have hstep := perform_orderly hcall.within (fun _ => hcall.ne_finish) h
      obtain ⟨hmiddle, hrest⟩ :=
        ih (fun next hnext => hclosing next (List.mem_cons_of_mem _ hnext)) hstep hkeep
      obtain ⟨hbefore, hfirst⟩ := kept?_of_closing hcall h hmiddle
      refine ⟨hbefore, fun node hnumber next hnext => ?_⟩
      rcases List.mem_cons.mp hnext with rfl | hnext
      · exact hfirst node hnumber
      · exact hrest node hnumber next hnext

/-- In a run that has not ended, every container that was told to start and not to stop is accounted
for. No container is told to stop twice. When every node that owns a handle has had the hook after
it and the run then ends, every container that was told to start has been told to stop once. -/
theorem containers_accounted_for {calls : List Call} (h : Reached tree calls s)
    (hongoing : ∀ call ∈ calls, call ≠ .finish) :
    (∀ box, 0 < s.starts box → s.stops box = 0 → s.AccountedFor tree box) ∧
    (∀ box, s.stops box ≤ 1 ∧ (Call.finish.perform tree.root s).stops box ≤ 1) ∧
    ∀ closers : List Call, (∀ call ∈ closers, call.Closing tree) →
      (∀ place id, place.1 ∈ tree → s.Owns place id → ∃ call ∈ closers, call.Closes place) →
      ∀ box, 0 < (runCalls tree.root (closers ++ [.finish]) s).starts box →
        (runCalls tree.root (closers ++ [.finish]) s).starts box = 1 ∧
        (runCalls tree.root (closers ++ [.finish]) s).stops box = 1 := by
  have hstrict : Orderly tree True [] s := h.orderly fun _ => hongoing
  have hlast : Orderly tree False [] (Call.finish.perform tree.root s) :=
    finish_orderly not_false tree.root (h.orderly fun hfalse => hfalse.elim)
  refine ⟨fun box => hstrict.accountedFor, ?_, ?_⟩
  · exact fun box => ⟨hstrict.ledger.stops_le_one box, hlast.ledger.stops_le_one box⟩
  · intro closers hclosing hcovered box hstarts
    have hsplit : runCalls tree.root (closers ++ [.finish]) s =
        (finishRun tree.root (runCalls tree.root closers s)).2 := List.foldl_append
    have hclosed : Orderly tree True [] (runCalls tree.root closers s) :=
      runCalls_orderly (fun call hcall => (hclosing call hcall).within)
        (fun _ call hcall => (hclosing call hcall).ne_finish) hstrict
    -- what a node still owned at the end it owned from the start, and then it had its after-hook
    have hnone : ∀ number key, (runCalls tree.root closers s).kept? (.node number key) = none := by
      intro number key
      by_contra hsome
      obtain ⟨id, hkeep⟩ := Option.ne_none_iff_exists'.mp hsome
      obtain ⟨hbefore, hnever⟩ := kept?_of_closings hclosing hstrict hkeep
      obtain ⟨node, hmem, rfl, -, -⟩ := hstrict.placed (State.kept?_node_iff.mp hbefore)
      obtain ⟨call, hcall, hcloses⟩ := hcovered (node, key) id hmem (owns_iff.mpr hbefore)
      exact hnever node rfl call hcall hcloses
    rw [hsplit] at hstarts ⊢
    exact hclosed.stopped_by_finish hnone tree.root hstarts

/-! One class owns a container, and another one uses a container of the run. -/

namespace TwoClasses

/-- Both classes declare what they need and are opened. -/
def opening : List Call :=
  [.request coordinator alone (.declare {}),
    .request coordinator together (.declare { mode := .run }),
    .request coordinator alone .beforeAll, .request coordinator together .beforeAll]

/-- The state in which both classes are open. -/
def opened : State :=
  runCalls scopes.root opening (.initial {} {} [])

theorem opened_reached : Reached scopes opening opened := by
  refine ⟨?_, {}, {}, [], rfl⟩
  simp [opening, Call.Within, alone_mem, together_mem]

theorem opening_ongoing : ∀ call ∈ opening, call ≠ .finish := by
  simp [opening]

theorem opened_bindings : opened.bindings.entries =
    [((1, "MEMORY", "MemoryConnection"), ⟨0, .owned⟩),
      ((2, "MEMORY", "MemoryConnection"), ⟨1, .shared⟩)] := rfl

/-- Only one of the classes owns a handle. -/
theorem eq_alone_of_owns {place : ScopeNode × (String × String)} {id : HandleId}
    (hmem : place.1 ∈ scopes) (howns : opened.Owns place id) :
    place = (alone, coordinator.bindingKey) := by
  have hfound : (place.1.number, place.2) = (1, "MEMORY", "MemoryConnection") := by
    unfold State.Owns Store.get? at howns
    rw [opened_bindings, Assoc.find?_cons, Assoc.find?_cons] at howns
    split at howns
    next hkey => exact hkey.symm
    next =>
      split at howns
      next => cases howns
      next => cases howns
  injection hfound with hnumber hkey
  exact Prod.ext (scopes.eq_of_number_eq hmem alone_mem hnumber) hkey

end TwoClasses

open TwoClasses in
/-- While both classes are open, both containers are accounted for. When the class with a container
of its own is closed and the run ends, both have been told to stop once. -/
theorem two_classes_accounted_for :
    Reached scopes opening opened ∧ (∀ call ∈ opening, call ≠ .finish) ∧
      opened.AccountedFor scopes ("MEMORY", 0) ∧ opened.AccountedFor scopes ("MEMORY", 1) ∧
      ∀ box ∈ [("MEMORY", 0), ("MEMORY", 1)],
        (runCalls scopes.root ([.request coordinator alone .afterAll] ++ [.finish]) opened).stops
          box = 1 := by
  have hall := containers_accounted_for opened_reached opening_ongoing
  refine ⟨opened_reached, opening_ongoing, ?_, ?_, ?_⟩
  · exact hall.1 ("MEMORY", 0) (by decide +kernel) (by decide +kernel)
  · exact hall.1 ("MEMORY", 1) (by decide +kernel) (by decide +kernel)
  · intro box hbox
    refine (hall.2.2 [.request coordinator alone .afterAll] ?_ ?_ box ?_).2
    · intro call hcall
      obtain rfl := List.mem_singleton.mp hcall
      exact alone_mem
    · intro place id hmem howns
      rw [eq_alone_of_owns hmem howns]
      exact ⟨_, List.mem_singleton_self _, rfl, rfl⟩
    · simp only [List.mem_cons, List.not_mem_nil, or_false] at hbox
      rcases hbox with rfl | rfl
      · decide +kernel
      · decide +kernel

end ScopedResources.Lifecycle
