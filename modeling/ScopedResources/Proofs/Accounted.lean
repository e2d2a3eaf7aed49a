import ScopedResources.Proofs.Instance
import Mathlib.Data.List.Nodup

/-!
# Accounting for containers

The ledger compares the journal with the handles: a container behind a handle was told to start
once, and to stop once if the handle is stopped; any other container was told to stop as often as to
start. Accounted is a state in which every instance that was not stopped has one keeper, a node or
the registry, apart from the handles in hand: those of an operation that is still under way. -/

namespace ScopedResources.Lifecycle

/-- The journal agrees with the handles. -/
structure Ledger (s : State) : Prop where
  known : ∀ {id box}, id < s.handles.size → (s.handle id).container? = some box →
    s.starts box = 1 ∧ s.stops box = if (s.handle id).stopped then 1 else 0
  distinct : ∀ {id id' box}, id < s.handles.size → id' < s.handles.size →
    (s.handle id).container? = some box → (s.handle id').container? = some box → id = id'
  spent : ∀ box, (∀ id < s.handles.size, (s.handle id).container? ≠ some box) →
    s.starts box = s.stops box ∧ s.stops box ≤ 1
  fresh : ∀ {box}, ¬ s.Created box → s.starts box = 0
  closed : ∀ id, s.closings id = if (s.handle id).stopped then 1 else 0

namespace Ledger

variable {s s' s₁ : State} {box : ContainerId}

theorem stops_le_one (h : Ledger s) (box : ContainerId) : s.stops box ≤ 1 := by
  by_cases hbox : ∃ id < s.handles.size, (s.handle id).container? = some box
  · obtain ⟨id, hid, hcontainer⟩ := hbox
    rw [(h.known hid hcontainer).2]
    split <;> omega
  · exact (h.spent box fun id hid hcontainer => hbox ⟨id, hid, hcontainer⟩).2

theorem created (h : Ledger s) {id : HandleId} (hid : id < s.handles.size)
    (hbox : (s.handle id).container? = some box) : s.Created box := by
  refine Decidable.byContradiction fun hnot => ?_
  have hstarts := h.fresh hnot
  rw [(h.known hid hbox).1] at hstarts
  exact absurd hstarts Nat.one_ne_zero

/-- The ledger is about handles, servers and journal only. -/
theorem congr (h : Ledger s) (hhandles : s'.handles = s.handles) (hservers : s'.servers = s.servers)
    (hjournal : s'.journal = s.journal) : Ledger s' := by
  cases s
  cases s'
  cases hhandles
  cases hservers
  cases hjournal
  exact ⟨h.known, h.distinct, h.spent, h.fresh, h.closed⟩

theorem quiet (h : Ledger s) (hs : Quiet s s') : Ledger s' where
  known hid hbox := by
    rw [hs.size] at hid
    rw [hs.container?] at hbox
    rw [hs.starts, hs.stops, hs.stopped]
    exact h.known hid hbox
  distinct hid hid' hbox hbox' := by
    rw [hs.size] at hid hid'
    rw [hs.container?] at hbox hbox'
    exact h.distinct hid hid' hbox hbox'
  spent box hnone := by
    rw [hs.starts, hs.stops]
    refine h.spent box fun id hid hbox => hnone id ?_ ?_
    · rwa [hs.size]
    · rwa [hs.container?]
  fresh hnot := by
    rw [hs.starts]
    exact h.fresh fun hbox => hnot (hs.created _ hbox)
  closed id := by
    rw [hs.closings, hs.stopped]
    exact h.closed id

/-- New containers that were told to start and to stop leave the ledger in order. -/
theorem working {boxes : List ContainerId} (h : Ledger s) (hnodup : boxes.Nodup)
    (hnew : ∀ box ∈ boxes, ¬ s.Created box ∧ s'.Created box) (hs : Working boxes boxes s s') :
    Ledger s' where
  known hid hbox := by
    rw [hs.handles] at hid
    rw [hs.handle] at hbox
    have hold : boxes.count _ = 0 :=
      List.count_eq_zero.mpr fun hmem => (hnew _ hmem).1 (h.created hid hbox)
    rw [hs.starts, hs.stops, hs.handle, hold]
    exact h.known hid hbox
  distinct hid hid' hbox hbox' := by
    rw [hs.handles] at hid hid'
    rw [hs.handle] at hbox hbox'
    exact h.distinct hid hid' hbox hbox'
  spent box hnone := by
    have hspent := h.spent box fun id hid hbox =>
      hnone id (by rwa [hs.handles]) (by rwa [hs.handle])
    rw [hs.starts, hs.stops, hspent.1]
    refine ⟨rfl, ?_⟩
    by_cases hmem : box ∈ boxes
    · have hstarts := h.fresh (hnew box hmem).1
      have hcount := List.nodup_iff_count_le_one.mp hnodup box
      omega
    · rw [List.count_eq_zero.mpr hmem]
      exact hspent.2
  fresh {box} hnot := by
    have hold : ¬ s.Created box := fun hbox => hnot (hs.created box hbox)
    rw [hs.starts, h.fresh hold, Nat.zero_add]
    exact List.count_eq_zero.mpr fun hmem => hnot (hnew box hmem).2
  closed id := by
    rw [hs.closings, hs.handle]
    exact h.closed id

/-- A new handle for a new container that was told to start. -/
theorem provide {handle : Handle} (h : Ledger s) (hnew : ¬ s.Created box) (hthere : s₁.Created box)
    (hs : Working [box] [] s s₁) (hbox : handle.container? = some box)
    (hlive : handle.stopped = false) :
    Ledger { s₁ with handles := s₁.handles.push handle } where
  known {id other} hid hother := by
    change s₁.starts other = 1 ∧ s₁.stops other = _
    rw [State.handle_push] at hother ⊢
    rw [hs.starts, hs.stops, List.count_nil, Nat.add_zero]
    -- behind the new handle is the new container, behind an older one a container that was there
    split at hother
    next hnewest =>
      obtain rfl : box = other := Option.some.inj (hbox.symm.trans hother)
      have hnone := h.spent box fun id hid hid' => hnew (h.created hid hid')
      rw [if_pos hnewest, hlive, ← hnone.1, h.fresh hnew]
      exact ⟨by rw [List.count_singleton_self], rfl⟩
    next hnewest =>
      rw [Array.size_push, Nat.lt_succ_iff_lt_or_eq] at hid
      have hold : id < s.handles.size := hs.handles ▸ hid.resolve_right hnewest
      rw [hs.handle] at hother
      have hne : ¬ box = other := fun heq => hnew (heq ▸ h.created hold hother)
      rw [if_neg hnewest, hs.handle, List.count_singleton, beq_eq_false_iff_ne.mpr hne]
      exact h.known hold hother
  distinct {id id' other} hid hid' hother hother' := by
    rw [Array.size_push, Nat.lt_succ_iff_lt_or_eq, hs.handles] at hid hid'
    rw [State.handle_push, hs.handles] at hother hother'
    have hold : ∀ {i}, i < s.handles.size → (s₁.handle i).container? ≠ some box := by
      intro i hi heq
      rw [hs.handle] at heq
      exact hnew (h.created hi heq)
    split at hother
    next hnewest =>
      obtain rfl : box = other := Option.some.inj (hbox.symm.trans hother)
      split at hother'
      next hnewest' => rw [hnewest, hnewest']
      next hnewest' => exact absurd hother' (hold (hid'.resolve_right hnewest'))
    next hnewest =>
      split at hother'
      next hnewest' =>
        obtain rfl : box = other := Option.some.inj (hbox.symm.trans hother')
        exact absurd hother (hold (hid.resolve_right hnewest))
      next hnewest' =>
        rw [hs.handle] at hother hother'
        exact h.distinct (hid.resolve_right hnewest) (hid'.resolve_right hnewest') hother hother'
  spent other hnone := by
    have hne : ¬ box = other := by
      intro heq
      refine hnone s₁.handles.size (by simp) ?_
      rw [State.handle_push, if_pos rfl, hbox, heq]
    have hspent := h.spent other fun id hid heq => by
      refine hnone id ?_ ?_
      · rw [Array.size_push, hs.handles]
        exact Nat.lt_succ_of_lt hid
      · rw [State.handle_push, if_neg (by rw [hs.handles]; exact Nat.ne_of_lt hid), hs.handle]
        exact heq
    change s₁.starts other = s₁.stops other ∧ s₁.stops other ≤ 1
    rw [hs.starts, hs.stops, List.count_singleton, beq_eq_false_iff_ne.mpr hne]
    exact hspent
  fresh {other} hnot := by
    have hne : ¬ box = other := fun heq => hnot (heq ▸ hthere)
    have hold : ¬ s.Created other := fun hcreated => hnot (hs.created other hcreated)
    change s₁.starts other = 0
    rw [hs.starts, h.fresh hold, List.count_singleton, beq_eq_false_iff_ne.mpr hne]
    rfl
  closed id := by
    change s₁.closings id = _
    rw [hs.closings, State.handle_push, h.closed]
    by_cases hnewest : id = s₁.handles.size
    · rw [if_pos hnewest, hlive, State.handle_of_size_le s (by simp [hnewest, hs.handles])]
      rfl
    · rw [if_neg hnewest, hs.handle]

/-- A new handle without a container. -/
theorem external {handle : Handle} (h : Ledger s) (hbox : handle.container? = none)
    (hlive : handle.stopped = false) :
    Ledger { s with handles := s.handles.push handle } where
  known hid hother := by
    rw [State.handle_push] at hother ⊢
    split at hother
    next => exact absurd (hbox.symm.trans hother) (by simp)
    next hnewest =>
      rw [Array.size_push, Nat.lt_succ_iff_lt_or_eq] at hid
      rw [if_neg hnewest]
      exact h.known (hid.resolve_right hnewest) hother
  distinct hid hid' hother hother' := by
    rw [Array.size_push, Nat.lt_succ_iff_lt_or_eq] at hid hid'
    rw [State.handle_push] at hother hother'
    split at hother
    next => exact absurd (hbox.symm.trans hother) (by simp)
    next hnewest =>
      split at hother'
      next => exact absurd (hbox.symm.trans hother') (by simp)
      next hnewest' =>
        exact h.distinct (hid.resolve_right hnewest) (hid'.resolve_right hnewest') hother hother'
  spent other hnone := by
    refine h.spent other fun id hid heq => hnone id ?_ ?_
    · rw [Array.size_push]
      exact Nat.lt_succ_of_lt hid
    · rw [State.handle_push, if_neg (Nat.ne_of_lt hid)]
      exact heq
  fresh hnot := h.fresh hnot
  closed id := by
    change s.closings id = _
    rw [State.handle_push, h.closed]
    by_cases hnewest : id = s.handles.size
    · rw [if_pos hnewest, hlive, State.handle_of_size_le s (Nat.le_of_eq hnewest.symm)]
      rfl
    · rw [if_neg hnewest]

theorem stopping {id : HandleId} (h : Ledger s) (hid : id < s.handles.size)
    (hlive : (s.handle id).stopped = false) (hs : Stopping id s s') : Ledger s' := by
  have hbox : ∀ other, (s'.handle other).container? = (s.handle other).container? := by
    intro other
    by_cases hother : other = id
    · rw [hother, hs.container?]
    · rw [hs.other hother]
  refine ⟨?_, ?_, ?_, ?_, ?_⟩
  · intro other box hother hcontainer
    rw [hs.size] at hother
    rw [hbox] at hcontainer
    rw [hs.starts, hs.stops]
    -- by `distinct`, the stop that is counted is that of this handle alone
    by_cases heq : other = id
    · subst heq
      have hknown := h.known hother hcontainer
      rw [hlive] at hknown
      rw [hs.stopped, if_pos hcontainer, hknown.2]
      exact ⟨hknown.1, rfl⟩
    · rw [hs.other heq, if_neg fun hself => heq (h.distinct hother hid hcontainer hself)]
      exact h.known hother hcontainer
  · intro other other' box hother hother' hcontainer hcontainer'
    rw [hs.size] at hother hother'
    rw [hbox] at hcontainer hcontainer'
    exact h.distinct hother hother' hcontainer hcontainer'
  · intro box hnone
    have hold : ∀ other < s.handles.size, (s.handle other).container? ≠ some box := by
      intro other hother heq
      exact hnone other (by rwa [hs.size]) (by rwa [hbox])
    rw [hs.starts, hs.stops, if_neg (hold id hid)]
    exact h.spent box hold
  · intro box hnot
    rw [hs.starts]
    exact h.fresh fun hcreated => hnot (hs.created box hcreated)
  · intro other
    rw [hs.closings, h.closed]
    by_cases heq : other = id
    · rw [heq, hs.stopped, hlive, if_pos rfl]
      rfl
    · rw [hs.other heq, if_neg heq, Nat.add_zero]

end Ledger

/-! ## Keepers -/

/-- What can keep an instance: a node, by its number, or the registry. -/
inductive Keeper where
  | node (number : Nat) (key : String × String)
  | registry (backend : String) (key : ResourceKey)
  deriving DecidableEq

/-- The handle that a node owns, or that is registered under a key. -/
def State.kept? (s : State) : Keeper → Option HandleId
  | .node number key =>
    ((Assoc.find? (number, key) s.bindings.entries).filter (·.ownership = .owned)).map (·.handle)
  | .registry backend key => Assoc.find? (backend, key) s.registry

theorem State.kept?_node_iff {s : State} {number : Nat} {key : String × String} {id : HandleId} :
    s.kept? (.node number key) = some id ↔
      Assoc.find? (number, key) s.bindings.entries = some ⟨id, .owned⟩ := by
  unfold State.kept?
  rw [Option.map_eq_some_iff]
  constructor
  · rintro ⟨⟨handle, ownership⟩, hfound, rfl⟩
    obtain ⟨hfound, howned⟩ := Option.filter_eq_some_iff.mp hfound
    obtain rfl : ownership = .owned := by simpa using howned
    exact hfound
  · intro hfound
    exact ⟨⟨id, .owned⟩, Option.filter_eq_some_iff.mpr ⟨hfound, by simp⟩, rfl⟩

/-- Every kept handle has one keeper, and what a node owns is live. The handles in hand have none. A
strict account also says that no live container is behind any other handle. -/
structure Kept (strict : Prop) (hand : List HandleId) (s : State) : Prop where
  known : ∀ {keeper id}, s.kept? keeper = some id → id < s.handles.size
  owned : ∀ {number key id}, s.kept? (.node number key) = some id →
    (s.handle id).container?.isSome ∧ (s.handle id).stopped = false
  unique : ∀ {keeper keeper' id}, s.kept? keeper = some id → s.kept? keeper' = some id →
    keeper = keeper'
  held : ∀ {id}, id ∈ hand → id < s.handles.size ∧ ∀ keeper, s.kept? keeper ≠ some id
  noneLost : strict → ∀ {id}, id < s.handles.size → (s.handle id).container?.isSome →
    (s.handle id).stopped = false → id ∈ hand ∨ ∃ keeper, s.kept? keeper = some id

namespace Kept

variable {strict : Prop} {hand hand' : List HandleId} {s s' : State} {id : HandleId}

theorem congr (h : Kept strict hand s) (hsize : s'.handles.size = s.handles.size)
    (hbox : ∀ id, (s'.handle id).container? = (s.handle id).container?)
    (hstopped : ∀ id, (s'.handle id).stopped = (s.handle id).stopped)
    (hkept : ∀ keeper, s'.kept? keeper = s.kept? keeper) : Kept strict hand s' where
  known hkeep := by
    rw [hkept] at hkeep
    rw [hsize]
    exact h.known hkeep
  owned hkeep := by
    rw [hkept] at hkeep
    rw [hbox, hstopped]
    exact h.owned hkeep
  unique hkeep hkeep' := by
    rw [hkept] at hkeep hkeep'
    exact h.unique hkeep hkeep'
  held hmem := by
    rw [hsize]
    simp only [hkept]
    exact h.held hmem
  noneLost hstrict {id} hid hcontainer hlive := by
    rw [hsize] at hid
    rw [hbox] at hcontainer
    rw [hstopped] at hlive
    simp only [hkept]
    exact h.noneLost hstrict hid hcontainer hlive

/-- A new handle is in hand. -/
theorem push (h : Kept strict hand s) (hsize : s'.handles.size = s.handles.size + 1)
    (hbox : ∀ id < s.handles.size, (s'.handle id).container? = (s.handle id).container?)
    (hstopped : ∀ id < s.handles.size, (s'.handle id).stopped = (s.handle id).stopped)
    (hkept : ∀ keeper, s'.kept? keeper = s.kept? keeper) :
    Kept strict (s.handles.size :: hand) s' where
  known hkeep := by
    rw [hkept] at hkeep
    rw [hsize]
    exact Nat.lt_succ_of_lt (h.known hkeep)
  owned hkeep := by
    rw [hkept] at hkeep
    rw [hbox _ (h.known hkeep), hstopped _ (h.known hkeep)]
    exact h.owned hkeep
  unique hkeep hkeep' := by
    rw [hkept] at hkeep hkeep'
    exact h.unique hkeep hkeep'
  held hmem := by
    simp only [hkept, hsize]
    rcases List.mem_cons.mp hmem with rfl | hmem
    · exact ⟨Nat.lt_succ_self _, fun keeper hkeep => Nat.lt_irrefl _ (h.known hkeep)⟩
    · exact (h.held hmem).imp_left Nat.lt_succ_of_lt
  noneLost hstrict {id} hid hcontainer hlive := by
    rw [hsize, Nat.lt_succ_iff_lt_or_eq] at hid
    rcases hid with hid | rfl
    · rw [hbox id hid] at hcontainer
      rw [hstopped id hid] at hlive
      simp only [hkept]
      exact (h.noneLost hstrict hid hcontainer hlive).imp_left (List.mem_cons_of_mem _)
    · exact .inl (List.mem_cons_self ..)

/-- A handle in hand gets a keeper, which kept no live handle before. -/
theorem give (keeper : Keeper) (h : Kept strict (id :: hand) s)
    (hsame : s'.handles = s.handles)
    (hkept : ∀ other, s'.kept? other = if other = keeper then some id else s.kept? other)
    (hfree : ∀ old, s.kept? keeper = some old → (s.handle old).stopped = true)
    (howned : ∀ number key, keeper = .node number key →
      (s.handle id).container?.isSome ∧ (s.handle id).stopped = false)
    (hhand : id ∉ hand) : Kept strict hand s' := by
  have hhandle : ∀ other, s'.handle other = s.handle other := by
    intro other
    rw [State.handle, State.handle, hsame]
  obtain ⟨hid, hnone⟩ := h.held (List.mem_cons_self ..)
  refine ⟨?_, ?_, ?_, ?_, ?_⟩
  · intro other old hkeep
    rw [hsame]
    rw [hkept] at hkeep
    split at hkeep
    · cases hkeep
      exact hid
    · exact h.known hkeep
  · intro number key old hkeep
    rw [hhandle]
    rw [hkept] at hkeep
    split at hkeep
    next heq =>
      cases hkeep
      exact howned number key heq.symm
    next => exact h.owned hkeep
  · intro other other' old hkeep hkeep'
    rw [hkept] at hkeep hkeep'
    split at hkeep
    next heq =>
      cases hkeep
      split at hkeep'
      next heq' => rw [heq, heq']
      next => exact absurd hkeep' (hnone other')
    next =>
      split at hkeep'
      next =>
        cases hkeep'
        exact absurd hkeep (hnone other)
      next => exact h.unique hkeep hkeep'
  · intro old hmem
    obtain ⟨hold, hkeepers⟩ := h.held (List.mem_cons_of_mem _ hmem)
    rw [hsame]
    refine ⟨hold, fun other hkeep => ?_⟩
    rw [hkept] at hkeep
    split at hkeep
    · cases hkeep
      exact hhand hmem
    · exact hkeepers other hkeep
  · intro hstrict old hold hcontainer hlive
    rw [hsame] at hold
    rw [hhandle] at hcontainer hlive
    -- what the keeper kept before is lost from sight, but it was stopped
    rcases h.noneLost hstrict hold hcontainer hlive with hmem | ⟨other, hkeep⟩
    · rcases List.mem_cons.mp hmem with rfl | hmem
      · exact .inr ⟨keeper, by rw [hkept, if_pos rfl]⟩
      · exact .inl hmem
    · refine .inr ⟨other, ?_⟩
      rw [hkept, if_neg, hkeep]
      rintro rfl
      rw [hfree old hkeep] at hlive
      cases hlive

/-- Handles that lose their keeper come to hand; unless the account is strict, they may also be
forgotten. -/
theorem take (h : Kept strict hand s) (hsame : s'.handles = s.handles)
    (hkept : ∀ {keeper id}, s'.kept? keeper = some id → s.kept? keeper = some id)
    (hhand : ∀ {id}, id ∈ hand' →
      id ∈ hand ∨ ∃ keeper, s.kept? keeper = some id ∧ s'.kept? keeper ≠ some id)
    (hall : strict → ∀ id, (id ∈ hand → id ∈ hand') ∧
      ∀ keeper, s.kept? keeper = some id → s'.kept? keeper = some id ∨ id ∈ hand') :
    Kept strict hand' s' := by
  have hhandle : ∀ other, s'.handle other = s.handle other := by
    intro other
    rw [State.handle, State.handle, hsame]
  refine ⟨?_, ?_, ?_, ?_, ?_⟩
  · intro keeper id hkeep
    rw [hsame]
    exact h.known (hkept hkeep)
  · intro number key id hkeep
    rw [hhandle]
    exact h.owned (hkept hkeep)
  · intro keeper keeper' id hkeep hkeep'
    exact h.unique (hkept hkeep) (hkept hkeep')
  · intro id hmem
    rw [hsame]
    rcases hhand hmem with hmem | ⟨keeper, hkeep, hgone⟩
    · obtain ⟨hid, hnone⟩ := h.held hmem
      exact ⟨hid, fun other hother => hnone other (hkept hother)⟩
    · -- a keeper that still keeps it kept it before, so it is the one that lost it
      refine ⟨h.known hkeep, fun other hother => hgone ?_⟩
      rwa [h.unique hkeep (hkept hother)]
  · intro hstrict id hid hcontainer hlive
    rw [hsame] at hid
    rw [hhandle] at hcontainer hlive
    obtain ⟨hstill, hcome⟩ := hall hstrict id
    rcases h.noneLost hstrict hid hcontainer hlive with hmem | ⟨keeper, hkeep⟩
    · exact .inl (hstill hmem)
    · rcases hcome keeper hkeep with hkeep | hmem
      · exact .inr ⟨keeper, hkeep⟩
      · exact .inl hmem

/-- A handle that is stopped need not be in hand. -/
theorem drop (h : Kept strict (id :: hand) s) (hstopped : (s.handle id).stopped = true) :
    Kept strict hand s where
  known := h.known
  owned := h.owned
  unique := h.unique
  held hmem := h.held (List.mem_cons_of_mem _ hmem)
  noneLost hstrict {other} hother hcontainer hlive := by
    refine (h.noneLost hstrict hother hcontainer hlive).imp_left fun hmem => ?_
    refine (List.mem_cons.mp hmem).resolve_left ?_
    rintro rfl
    rw [hstopped] at hlive
    cases hlive

/-- A handle in hand that is stopped is in hand no more. -/
theorem stopping (h : Kept strict (id :: hand) s) (hs : Stopping id s s') :
    Kept strict hand s' := by
  have hkept : ∀ keeper, s'.kept? keeper = s.kept? keeper := by
    rintro (⟨number, key⟩ | ⟨backend, key⟩)
    · rw [State.kept?, State.kept?, hs.bindings]
    · rw [State.kept?, State.kept?, hs.registry]
  have hnone := (h.held (List.mem_cons_self ..)).2
  refine ⟨?_, ?_, ?_, ?_, ?_⟩
  · intro keeper other hkeep
    rw [hkept] at hkeep
    rw [hs.size]
    exact h.known hkeep
  · intro number key other hkeep
    rw [hkept] at hkeep
    rw [hs.other fun heq => hnone _ (heq ▸ hkeep)]
    exact h.owned hkeep
  · intro keeper keeper' other hkeep hkeep'
    rw [hkept] at hkeep hkeep'
    exact h.unique hkeep hkeep'
  · intro other hmem
    rw [hs.size]
    simp only [hkept]
    exact h.held (List.mem_cons_of_mem _ hmem)
  · intro hstrict other hother hcontainer hlive
    have hne : other ≠ id := by
      rintro rfl
      rw [hs.stopped] at hlive
      cases hlive
    rw [hs.size] at hother
    rw [hs.other hne] at hcontainer hlive
    simp only [hkept]
    refine (h.noneLost hstrict hother hcontainer hlive).imp_left fun hmem => ?_
    exact (List.mem_cons.mp hmem).resolve_left hne

end Kept

end ScopedResources.Lifecycle
