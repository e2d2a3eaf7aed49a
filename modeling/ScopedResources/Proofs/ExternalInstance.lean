import ScopedResources.Proofs.ExternalHooks
import ScopedResources.Proofs.Trace

/-!
# Runs on an external instance

As long as one external instance is found whenever one is looked for, it stands in for all
containers of a backend: no hook makes, starts or stops one, all nodes share one handle, and
migrations run at the boundaries that ask for them, counted in the same way for every mode. The end
of the run closes the connection and leaves the instance as it is. -/

namespace ScopedResources.Lifecycle

open Trace

variable {tree : ScopeTree} {name : String} {params : ConnectionParams} {s s' s'' : State}
variable {node : ScopeNode} {id : HandleId}

/-! ## Migrations at the boundaries -/

namespace Coordinator

variable (c : Coordinator) {decl : Declaration} {binding : Binding}

/-- The external instance can be had: its handle has the type of connection that is asked for, or
there is no handle yet and nothing speaks against connecting. -/
inductive Attains (params : ConnectionParams) (s : State) : Prop where
  | registered {id : HandleId} (hid : s.external? c.backend.name params = some id)
    (htype : (s.handle id).connectionType = c.backend.connectionType)
  | unregistered (hnone : s.external? c.backend.name params = none)
    (haccepts : c.backend.externalRefusal = none)

/-- What the hooks around a node do about migrations when the external instance is used. The mode of
a declaration says for which nodes an instance is looked for, and nothing else depends on it. -/
structure MigratesAround (params : ConnectionParams) (node : ScopeNode) (s : State) : Prop where
  beforeClass : ∀ {decl}, node.kind = .testClass → c.Admits s node decl →
    decl.mode ≠ .testMethod → c.Finds params s → c.Attains params s →
    ∃ id s₁, Undisturbed s s₁ ∧ s₁.external? c.backend.name params = some id ∧
      c.beforeAll node s = (do
        (if decl.migration.appliesAt .perClass then acquire c.migrationRoot id decl.migration
          else pure ())
        c.bind node ⟨id, .shared⟩ : Action LifecycleError Unit) s₁
  /-- A method with an instance of its own. -/
  beforeMethod : ∀ {decl}, node.kind = .testMethod → c.Admits s node decl →
    decl.mode = .testMethod → c.Finds params s → c.Attains params s →
    ∃ id s₁, Undisturbed s s₁ ∧ s₁.external? c.backend.name params = some id ∧
      c.beforeEach node s = (do
        c.warnOfRepetition decl id
        (if decl.migration.appliesAt .perMethod then c.migrate .apply id decl.migration
          else pure ())
        c.bind node ⟨id, .shared⟩ : Action LifecycleError Unit) s₁
  /-- A method that borrows the instance of its class, which is opened first. -/
  beforeBorrower : ∀ {decl outer binding s₁}, node.kind = .testMethod → c.Admits s node decl →
    decl.mode ≠ .testMethod → node.ancestor? .testClass = some outer →
    (c.LooksUpForClass s outer → c.Finds params s) → c.beforeAll outer s = (.ok (), s₁) →
    c.binding? s₁ outer = some binding →
    s₁.external? c.backend.name params = some binding.handle ∧
      c.beforeEach node s = (do
        c.warnOfRepetition decl binding.handle
        (if decl.migration.appliesAt .perMethod then
            c.migrate .apply binding.handle decl.migration
          else pure ())
        c.bind node ⟨binding.handle, .borrowed⟩ : Action LifecycleError Unit) s₁
  afterMethod : ∀ {decl binding}, c.binding? s node = some binding →
    c.declarationAt s node = .ok decl →
    s.external? c.backend.name params = some binding.handle ∧
      c.afterEach node s = (if decl.migration.dropsAt .perMethod then
          c.migrate .drop binding.handle decl.migration
        else pure ()) (c.close node s).2
  afterClass : ∀ {decl binding}, node.kind = .testClass → c.binding? s node = some binding →
    c.declarationAt s node = .ok decl →
    s.external? c.backend.name params = some binding.handle ∧
      c.afterAll node s = (if decl.migration.dropsAt .perClass then
          release c.migrationRoot binding.handle decl.migration
        else pure ()) (c.close node s).2

theorem external?_attained (h : Replaced tree c.backend.name params s) (hfinds : c.Finds params s)
    (hattains : c.Attains params s) : ∃ id s₁, Undisturbed s s₁ ∧
      s₁.external? c.backend.name params = some id ∧ c.external? s = (.ok (some id), s₁) := by
  have hrun : ∃ id s₁, c.external? s = (.ok (some id), s₁) := by
    unfold external?
    rw [Action.run_bind, c.externalParams?_of_finds hfinds]
    unfold getOrCreate
    simp only [Action.run_bind, Action.run_get, h.live?]
    cases hattains with
    | registered hid htype =>
        simp only [hid, ofType, Action.run_bind, Action.run_get, if_pos htype]
        exact ⟨_, _, rfl⟩
    | unregistered hnone haccepts =>
        simp only [hnone, adoptExternal, Backend.connectExternal, haccepts, Action.run_bind]
        exact ⟨_, _, rfl⟩
  obtain ⟨id, s₁, hrun⟩ := hrun
  have hadopts := (c.external?_adopts h hfinds).of_run hrun
  obtain ⟨-, -, hfound⟩ := Adopts.furnished c hadopts h
  obtain ⟨_, ⟨⟩, hid⟩ := hfound _ rfl
  exact ⟨id, s₁, c.undisturbed_provides.external?.of_run hrun, hid, hrun⟩

theorem readyForClass_of_shared (h : binding.ownership = .shared) (decl : Declaration) :
    c.readyForClass decl binding = if decl.migration.appliesAt .perClass then
      acquire c.migrationRoot binding.handle decl.migration
    else pure () := by
  have hnot : binding.ownership ≠ .owned := by
    rw [h]
    exact nofun
  unfold readyForClass applyForClass
  rw [orStop_of_ne hnot, h]

theorem readyForTest_of_ne (hnot : binding.ownership ≠ .owned) (decl : Declaration) :
    c.readyForTest decl binding = (do
      c.warnOfRepetition decl binding.handle
      (if decl.migration.appliesAt .perMethod then
          c.migrate .apply binding.handle decl.migration
        else pure ()) : Action LifecycleError Unit) := by
  unfold readyForTest applyForMethod
  rw [orStop_of_ne hnot]

theorem bindReady_eq {obtain : Declaration → Action LifecycleError Binding}
    {ready : Declaration → Binding → Action LifecycleError Unit} {s₁ : State}
    (hobtain : obtain decl s = (.ok binding, s₁)) :
    c.bindReady node obtain ready decl s = (do
      ready decl binding
      c.bind node binding : Action LifecycleError Unit) s₁ := by
  unfold bindReady
  rw [Action.run_bind, hobtain]

theorem beforeEach_of_obtained {s₁ : State} (hkind : node.kind = .testMethod)
    (hadmits : c.Admits s node decl) (hobtain : c.obtainForTest node decl s = (.ok binding, s₁))
    (hnot : binding.ownership ≠ .owned) :
    c.beforeEach node s = (do
      c.warnOfRepetition decl binding.handle
      (if decl.migration.appliesAt .perMethod then
          c.migrate .apply binding.handle decl.migration
        else pure ())
      c.bind node binding : Action LifecycleError Unit) s₁ := by
  rw [c.beforeEach_of_admits hkind hadmits, c.bindReady_eq hobtain,
    c.readyForTest_of_ne hnot, bind_assoc]

/-- Wherever the external instance is in the place of all containers, migrations run around nodes.
-/
theorem migratesAround (h : Replaced tree c.backend.name params s) (hmem : node ∈ tree) :
    c.MigratesAround params node s where
  beforeClass {decl} hkind hadmits hmode hfinds hattains := by
    obtain ⟨id, s₁, hsame, hid, hrun⟩ := c.external?_attained h hfinds hattains
    have hobtain : c.obtainForClass node decl s = (.ok ⟨id, .shared⟩, s₁) := by
      unfold obtainForClass
      rw [Action.run_bind, hrun]
      rfl
    refine ⟨id, s₁, hsame, hid, ?_⟩
    rw [c.beforeAll_of_admits hkind hadmits hmode, c.bindReady_eq hobtain,
      c.readyForClass_of_shared rfl]
  beforeMethod {decl} hkind hadmits hmode hfinds hattains := by
    obtain ⟨id, s₁, hsame, hid, hrun⟩ := c.external?_attained h hfinds hattains
    have hobtain : c.obtainForTest node decl s = (.ok ⟨id, .shared⟩, s₁) := by
      unfold obtainForTest obtainForMethod
      rw [if_pos hmode, Action.run_bind, hrun]
      rfl
    have hopen := c.beforeEach_of_obtained hkind hadmits hobtain nofun
    exact ⟨id, s₁, hsame, hid, hopen⟩
  beforeBorrower {decl outer binding s₁} hkind hadmits hmode houter hfinds hopen hbound := by
    have hborrow : c.obtainForTest node decl s = (.ok ⟨binding.handle, .borrowed⟩, s₁) := by
      unfold obtainForTest borrowFromClass
      simp only [if_neg hmode, houter, Action.run_bind, hopen, Action.run_get, hbound]
      rfl
    have hserved := c.beforeAll_served h (ScopeTree.ancestor?_mem hmem houter).1 hfinds
    obtain ⟨hreplaced, -⟩ := hserved.of_run hopen
    have hrun := c.beforeEach_of_obtained hkind hadmits hborrow nofun
    exact ⟨(hreplaced.bound hbound).1, hrun⟩
  afterMethod hbinding hdecl := by
    obtain ⟨hid, hnot⟩ := h.bound hbinding
    refine ⟨hid, ?_⟩
    rw [c.afterEach_eq_closeDown, c.closeDown_of_bound hbinding hdecl, settle_of_ne hnot]
    rfl
  afterClass hkind hbinding hdecl := by
    obtain ⟨hid, hnot⟩ := h.bound hbinding
    refine ⟨hid, ?_⟩
    rw [c.afterAll_eq_closeDown, c.closeDown_of_bound hbinding hdecl, settle_of_ne hnot]
    unfold dropForClass
    rw [h.classes hmem hkind hbinding]

end Coordinator

/-! ## The end of a run -/

/-- Stopping a container changes nothing on its server but the container and what is counted. -/
theorem stop_external (index : Nat) (server : Memory.Server) :
    (Memory.stop index server).2.external = server.external := by
  unfold Memory.stop Memory.container Memory.check
  simp only [Action.run_bind, Action.run_get]
  cases server.containers[index]? with
  | none => rfl
  | some found =>
      simp only [Action.run_pure]
      split
      · rfl
      · split
        · rfl
        · split <;> rfl

/-- Databases that are managed elsewhere hold the same in both states. -/
def SameExternal (s s' : State) : Prop :=
  ∀ name, (s'.server name).external = (s.server name).external

theorem onServer_sameExternal {α : Type} {task : Memory.Task α}
    (htask : ∀ server, (task server).2.external = server.external) (name : String) (s : State) :
    SameExternal s (onServer name task s).2 := by
  intro other
  change ((s.setServer name (task (s.server name)).2).server other).external = _
  rw [State.server_setServer]
  split
  next hname => rw [htask, hname]
  next => rfl

theorem stopHandle_sameExternal (id : HandleId) : Action.Leaves SameExternal (stopHandle id) := by
  intro s
  cases hstopped : (s.handle id).stopped with
  | true =>
      rw [stopHandle_of_stopped hstopped]
      exact fun _ => rfl
  | false =>
      rw [stopHandle_of_live hstopped]
      cases (s.handle id).origin with
      | external => exact fun _ => rfl
      | container index => exact onServer_sameExternal (stop_external index) (s.handle id).server _

theorem SameExternal.trans (h : SameExternal s s') (h' : SameExternal s' s'') :
    SameExternal s s'' :=
  fun name => (h' name).trans (h name)

theorem shutdown_sameExternal (s : State) : SameExternal s (shutdown s).2 := by
  have hone : ∀ id report s, SameExternal s (shutdownOne report id s).2 := fun id =>
    shutdownOne_leaves (fun _ _ => rfl) .trans (fun _ _ _ => rfl) (stopHandle_sameExternal id)
  have hemptied : SameExternal s { s with registry := [] } := fun _ => rfl
  exact hemptied.trans (shutdownAll_leaves (fun _ _ => rfl) .trans hone _ _ _)

/-- A handle is stopped, and its connection is closed. -/
def State.Ended (s : State) (id : HandleId) : Prop :=
  (s.handle id).stopped = true ∧ (s.handle id).connection.closed = true

theorem Working.ended {started stopped : List ContainerId} (h : Working started stopped s s')
    (hended : s.Ended id) : s'.Ended id := by
  unfold State.Ended
  rwa [h.handle]

theorem closeHandle_ended (hended : s.Ended id) (other : HandleId) :
    (s.closeHandle other).Ended id := by
  unfold State.Ended
  rw [State.handle_closeHandle]
  split
  · exact ⟨rfl, rfl⟩
  · exact hended

theorem shutdownOne_ended (other : HandleId) (report : Report) (hended : s.Ended id) :
    (shutdownOne report other s).2.Ended id := by
  have htrans : ∀ {a b c : State}, (a.Ended id → b.Ended id) → (b.Ended id → c.Ended id) →
      a.Ended id → c.Ended id := fun h h' hended => h' (h hended)
  have hstop :=
    @stopHandle_leaves (fun s s' => s.Ended id → s'.Ended id) other (fun _ h => h) htrans
    (fun s h => closeHandle_ended h other) fun hwork => hwork.ended
  exact @shutdownOne_leaves (fun s s' => s.Ended id → s'.Ended id) other (fun _ h => h) htrans
    (fun _ _ h => h) hstop report s hended

theorem shutdownOne_ends (report : Report) (hknown : id < s.handles.size)
    (hlive : (s.handle id).stopped = false) : (shutdownOne report id s).2.Ended id := by
  have hclosed : (s.closeHandle id).Ended id := by
    unfold State.Ended
    rw [State.handle_closeHandle, if_pos ⟨rfl, hknown⟩]
    exact ⟨rfl, rfl⟩
  have hstop : (stopHandle id s).2.Ended id := by
    rw [stopHandle_of_live hlive]
    cases (s.handle id).origin with
    | external => exact hclosed
    | container index =>
        exact ((note_stopAsked _ index _).trans
          (onServer_sending (stop_sameSize index) _ _)).ended hclosed
  rw [shutdownOne_of_live report hlive]
  rcases hrun : stopHandle id s with ⟨_ | _, s'⟩ <;> rw [hrun] at hstop <;> exact hstop

theorem shutdownAll_ends {ids : List HandleId} (hmem : id ∈ ids) (report : Report)
    (hknown : id < s.handles.size) (hlive : (s.handle id).stopped = false) :
    (ids.foldlM shutdownOne report s).2.Ended id := by
  induction ids generalizing report s with
  | nil => cases hmem
  | cons other rest ih =>
      rw [List.foldlM_cons, Action.step_bind]
      by_cases hsame : other = id
      · subst hsame
        -- what comes after its turn leaves the handle as it is
        exact @shutdownAll_leaves (fun s s' => s.Ended other → s'.Ended other) (fun _ h => h)
          (fun h h' hended => h' (h hended)) (fun id report _ h => shutdownOne_ended id report h)
          rest _ _ (shutdownOne_ends report hknown hlive)
      · have hother := shutdownOne_confined report other s
        refine ih ((List.mem_cons.mp hmem).resolve_left (Ne.symm hsame)) _ ?_ ?_
        · rwa [hother.size]
        · rwa [hother.stopped (by simpa using Ne.symm hsame)]

theorem shutdownOne_stops {box : ContainerId} (report : Report) (hknown : id < s.handles.size)
    (hbox : (s.handle id).container? ≠ some box) :
    (shutdownOne report id s).2.stops box = s.stops box := by
  cases hlive : (s.handle id).stopped with
  | true => rw [shutdownOne_of_stopped report hlive]
  | false =>
      have hstop := (stopHandle_stopping hknown hlive).stops box
      rw [if_neg hbox, Nat.add_zero] at hstop
      rw [shutdownOne_of_live report hlive]
      rcases hrun : stopHandle id s with ⟨error | _, s'⟩
      · rw [hrun] at hstop
        exact (State.stops_note ..).trans hstop
      · rw [hrun] at hstop
        exact hstop

theorem shutdownAll_stops {box : ContainerId} {ids : List HandleId} (report : Report)
    (hids : ∀ id ∈ ids, id < s.handles.size ∧ (s.handle id).container? ≠ some box) :
    (ids.foldlM shutdownOne report s).2.stops box = s.stops box := by
  induction ids generalizing report s with
  | nil => rfl
  | cons id rest ih =>
      obtain ⟨hknown, hbox⟩ := hids id (List.mem_cons_self ..)
      have hone := shutdownOne_confined report id s
      rw [List.foldlM_cons, Action.step_bind]
      refine (ih _ fun other hmem => ?_).trans (shutdownOne_stops report hknown hbox)
      rw [hone.size, hone.container?]
      exact hids other (List.mem_cons_of_mem _ hmem)

/-- How the end of a run lets go of an external instance: its connection is closed once, containers
are stopped only for other backends, and what is managed elsewhere stays as it is. -/
structure LetsGo (name : String) (params : ConnectionParams) (s s' : State) : Prop where
  closed : ∀ {id}, s.external? name params = some id →
    s.closings id = 0 ∧ s'.closings id = 1 ∧ s'.Ended id
  stops : ∀ box, s.stops box < s'.stops box → ∃ backend key id, backend ≠ name ∧
    Assoc.find? (backend, key) s.registry = some id ∧ (s.handle id).container? = some box
  external : SameExternal s s'

theorem finish_letsGo (h : Replaced tree name params s) (horderly : Orderly tree False [] s)
    (root : ScopeNode) : LetsGo name params s (finishRun root s).2 where
  closed {id} hid := by
    have hreaches := h.reaches hid
    have hentry : id ∈ s.registry.map Prod.snd := List.mem_map.mpr ⟨_, Assoc.mem_of_find? hid, rfl⟩
    have hended : (finishRun root s).2.Ended id :=
      @shutdownAll_ends { s with registry := [] } id _ hentry {} hreaches.known hreaches.live
    have hledger := (finish_orderly not_false root horderly).ledger
    refine ⟨?_, ?_, hended⟩
    · rw [horderly.ledger.closed, hreaches.live]
      rfl
    · rw [hledger.closed, hended.1]
      rfl
  stops box hlt := by
    by_contra hnone
    -- no registered handle is in front of the container, so nobody stops it
    refine absurd (shutdownAll_stops (s := { s with registry := [] }) {} fun id hmem => ?_)
      (Nat.ne_of_gt hlt)
    obtain ⟨⟨⟨backend, key⟩, _⟩, hentry, rfl⟩ := List.mem_map.mp hmem
    have hfound := Assoc.find?_of_mem horderly.keys hentry
    have hkeep : s.kept? (.registry backend key) = some _ := hfound
    refine ⟨horderly.kept.known hkeep, fun hbox => ?_⟩
    by_cases hbackend : backend = name
    · subst hbackend
      change (s.handle _).container? = some box at hbox
      unfold Handle.container? at hbox
      rw [(h.registered hfound).2.origin] at hbox
      cases hbox
    · exact hnone ⟨backend, key, _, hbackend, hfound, hbox⟩
  external := shutdown_sameExternal s

/-! ## Whole runs -/

/-- A call that comes before the end of the run and, if it looks for an external instance of the
backend, finds the one with these parameters. -/
def Call.Finds (name : String) (params : ConnectionParams) (s : State) : Call → Prop
  | .request c node asked => c.backend.name = name → asked.LooksUp c node s → c.Finds params s
  | .finish => False
  | _ => True

/-- A run up to its end, in which the same external instance of a backend is found whenever one is
looked for. -/
structure ExternalRun (tree : ScopeTree) (name : String) (params : ConnectionParams)
    (calls : List Call) (start : State) : Prop where
  begins : ∃ environment files servers, start = .initial environment files servers
  within : ∀ call ∈ calls, call.Within tree
  finds : Legal (Call.Finds name params) (Call.perform tree.root) start calls

theorem perform_replaced {call : Call} (h : Replaced tree name params s)
    (horderly : Orderly tree False [] s) (hwithin : call.Within tree)
    (hfinds : call.Finds name params s) : Replaced tree name params (call.perform tree.root s) ∧
      ∀ {id}, s.external? name params = some id →
        (call.perform tree.root s).external? name params = some id := by
  have hquiet : ∀ {s'}, Quiet s s' → Replaced tree name params s' ∧
      ∀ {id}, s.external? name params = some id → s'.external? name params = some id := by
    intro s' hs
    refine ⟨h.quiet hs, fun hid => ?_⟩
    rwa [State.external?, hs.registry]
  cases call with
  | finish => exact hfinds.elim
  | disturb other server => exact hquiet (disturb_quiet other server tree.root s)
  | surround environment files => exact hquiet (surround_quiet environment files tree.root s)
  | request c node asked =>
      by_cases hname : c.backend.name = name
      · subst hname
        obtain ⟨hreplaced, hserved⟩ := request_served h hwithin (hfinds rfl)
        exact ⟨hreplaced, hserved.external?⟩
      · obtain ⟨hreplaced, hsame⟩ := request_aside hname h horderly hwithin asked
        refine ⟨hreplaced, fun hid => ?_⟩
        change (asked.perform c node s).external? name params = _
        rwa [hsame]

namespace ExternalRun

variable {calls before rest : List Call} {start : State}

theorem of_append (h : ExternalRun tree name params (before ++ rest) start) :
    ExternalRun tree name params before start where
  begins := h.begins
  within call hmem := h.within call (List.mem_append_left rest hmem)
  finds := h.finds.of_append.1

theorem orderly (h : ExternalRun tree name params calls start) :
    Orderly tree False [] (runCalls tree.root calls start) := by
  obtain ⟨environment, files, servers, rfl⟩ := h.begins
  exact runCalls_orderly h.within False.elim (initial_orderly environment files servers)

theorem replaced (h : ExternalRun tree name params calls start) :
    Replaced tree name params (runCalls tree.root calls start) := by
  induction calls using List.reverseRecOn with
  | nil =>
      obtain ⟨environment, files, servers, rfl⟩ := h.begins
      exact ⟨fun hfound => (by cases hfound), fun hfound => (by cases hfound),
        fun _ _ hfound => (by cases hfound)⟩
  | append_singleton calls call ih =>
      have hwithin := h.within call (by simp)
      have hlast :=
        perform_replaced (ih h.of_append) h.of_append.orderly hwithin h.finds.of_concat.2
      unfold runCalls
      rw [List.foldl_append]
      exact hlast.1

/-- The handle that is registered for the instance stays so. -/
theorem external?_append (h : ExternalRun tree name params (before ++ rest) start)
    (hid : (runCalls tree.root before start).external? name params = some id) :
    (runCalls tree.root (before ++ rest) start).external? name params = some id := by
  induction rest using List.reverseRecOn with
  | nil => rwa [List.append_nil]
  | append_singleton rest call ih =>
      rw [← List.append_assoc] at h ⊢
      have hwithin := h.within call (by simp)
      have hlast := perform_replaced h.of_append.replaced h.of_append.orderly hwithin
        h.finds.of_concat.2
      unfold runCalls
      rw [List.foldl_append]
      exact hlast.2 (ih h.of_append)

end ExternalRun

/-- What is registered for the external instance is one handle that reaches it; every node that is
bound for the backend is bound to that handle, and does not own it. -/
structure State.UsesOnly (s : State) (name : String) (params : ConnectionParams)
    (id? : Option HandleId) : Prop where
  registered : ∀ {id}, s.external? name params = some id → id? = some id ∧ s.Reaches params id
  bound : ∀ {node connectionType binding},
    s.bindings.get? node (name, connectionType) = some binding →
    s.external? name params = some binding.handle ∧ binding.ownership ≠ .owned

/-- Nothing is done but that warnings are given and that statements are sent through one handle; no
container is made, started or stopped, and no override is asked for one. -/
structure OnlyThrough (id? : Option HandleId) (s s' : State) : Prop where
  journal : Logs (Event.Through (id? = some ·)) s s'
  containers : SameContainers s s'

/-- Where the same external instance is found at every lookup of a backend, all its nodes hold one
handle for it up to the end of the run, its requests have no use for containers, migrations run at
the boundaries that ask for them and through that handle, and the end of the run closes the
connection once and changes nothing of the instance. -/
theorem external_instance_replaces_containers {calls : List Call} {start : State}
    (h : ExternalRun tree name params calls start) :
    ∃ id? : Option HandleId,
      (∀ before, before <+: calls → (runCalls tree.root before start).UsesOnly name params id?) ∧
      (∀ before c node asked, Splits calls before (.request c node asked) → c.backend.name = name →
        OnlyThrough id? (runCalls tree.root before start)
          (asked.perform c node (runCalls tree.root before start))) ∧
      (∀ before (c : Coordinator) node, before <+: calls → c.backend.name = name → node ∈ tree →
        c.MigratesAround params node (runCalls tree.root before start)) ∧
      LetsGo name params (runCalls tree.root calls start)
        (finishRun tree.root (runCalls tree.root calls start)).2 := by
  -- the handle is the one that is registered at the end of the calls, and never another one before
  refine ⟨(runCalls tree.root calls start).external? name params, ?_, ?_, ?_,
    finish_letsGo h.replaced h.orderly tree.root⟩
  · rintro before ⟨rest, rfl⟩
    have hreplaced := h.of_append.replaced
    exact ⟨fun hid => ⟨h.external?_append hid, hreplaced.reaches hid⟩, hreplaced.bound⟩
  · rintro before c node asked ⟨rest, rfl⟩ rfl
    have hwithin := h.within (.request c node asked) (by simp)
    have hfinds := h.finds before (.request c node asked) rest rfl
    obtain ⟨-, hserved⟩ := request_served h.of_append.replaced hwithin (hfinds rfl)
    refine ⟨hserved.journal.mono fun event hevent => hevent.mono fun id hid => ?_,
      hserved.containers⟩
    rw [List.append_cons] at h ⊢
    refine h.external?_append ?_
    unfold runCalls
    rwa [List.foldl_append]
  · rintro before c node ⟨rest, rfl⟩ rfl hmem
    exact c.migratesAround h.of_append.replaced hmem

/-! A class with an instance of its own and a class of the run, both on an external instance, beside
a backend that has none. -/

namespace TwoClasses

def elsewhere : ConnectionParams where
  scheme := "memory"
  host := "db"
  port := 5432

/-- A coordinator that knows of an external instance. -/
def guest : Coordinator where
  name := "guest"
  backend := Backend.memory "MemoryConnection"
  external := .ofInstances [("MEMORY", elsewhere)]
  migrationRoot := ""

/-- A coordinator of another backend, for which there is none. -/
def neighbour : Coordinator where
  name := "neighbour"
  backend := { Backend.memory "MemoryConnection" with name := "NEIGHBOUR" }
  external := .ofInstances [("MEMORY", elsewhere)]
  migrationRoot := ""

/-- Containers of a test's own are asked for, but the external instance is used. -/
def shared : List Call :=
  [.request guest scopesWithTest.root (.declare { mode := .run }),
    .request guest scopesWithTest.root (.overrideContainer { image := "own" }),
    .request guest alone (.declare {}),
    .request neighbour scopesWithTest.root (.declare { mode := .run }),
    .request guest together .beforeAll, .request neighbour together .beforeAll,
    .request guest test .beforeEach, .request guest together .afterAll]

/-- The state at the end of the calls. -/
def sharing : State :=
  runCalls scopesWithTest.root shared (.initial {} {} [])

theorem guest_finds (s : State) : guest.Finds elsewhere s := by
  unfold Coordinator.Finds guest Override.Source.ofInstances Override.Source.decide
  simp [Backend.memory, Assoc.find?_insert]

theorem shared_external :
    ExternalRun scopesWithTest "MEMORY" elsewhere shared (.initial {} {} []) where
  begins := ⟨{}, {}, [], rfl⟩
  within := by
    have hroot : scopesWithTest.root ∈ scopesWithTest := scopesWithTest.root_mem
    simp [shared, Call.Within, hroot, alone_mem', together_mem', test_mem]
  finds := by
    intro before call rest heq
    have hmem : call ∈ shared := heq ▸ List.mem_append_right before (List.mem_cons_self ..)
    simp only [shared, List.mem_cons, List.not_mem_nil, or_false] at hmem
    have hneighbour : ¬ neighbour.backend.name = "MEMORY" := by decide
    rcases hmem with rfl | rfl | rfl | rfl | rfl | rfl | rfl | rfl
    all_goals first
      | exact fun _ _ => guest_finds _
      | exact fun hname => absurd hname hneighbour

end TwoClasses

open TwoClasses in
/-- Class and method hold the handle for the external instance, of which the other class has let go,
and in the end only the container of the other backend is stopped. -/
theorem classes_share_external_instance :
    guest.binding? sharing alone = some ⟨0, .shared⟩ ∧
      guest.binding? sharing test = some ⟨0, .borrowed⟩ ∧ guest.binding? sharing together = none ∧
      sharing.Reaches elsewhere 0 ∧ sharing.starts ("MEMORY", 0) = 1 ∧
      (finishRun scopesWithTest.root sharing).2.closings 0 = 1 ∧
      (finishRun scopesWithTest.root sharing).2.stops ("MEMORY", 0) = 1 ∧
      SameExternal sharing (finishRun scopesWithTest.root sharing).2 := by
  have halone : guest.binding? sharing alone = some ⟨0, .shared⟩ := by decide +kernel
  obtain ⟨id?, huses, -, -, hlets⟩ := external_instance_replaces_containers shared_external
  have hend := huses shared (List.prefix_refl _)
  obtain ⟨hid, -⟩ := hend.bound halone
  exact ⟨halone, by decide +kernel, by decide +kernel, (hend.registered hid).2, by decide +kernel,
    (hlets.closed hid).2.1, by decide +kernel, hlets.external⟩

end ScopedResources.Lifecycle
