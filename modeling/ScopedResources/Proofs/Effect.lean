import ScopedResources.Lifecycle.Resolve
import ScopedResources.Proofs.State

/-!
# What a step leaves as it was

Most of what a hook does neither makes nor stops an instance: it looks things up, warns, and sends
statements. `Working` says that only servers and journal differ, and which containers the journal
tells to start and to stop; a migration is such a step without any container, whatever its plan.
`Quiet` also allows for counting the classes that rely on a migration.
-/

namespace ScopedResources.Lifecycle

/-- Only servers and journal differ, and no container is gone. The journal tells the containers of
the one list to start and those of the other to stop, and no handle is closed. -/
structure Working (started stopped : List ContainerId) (s s' : State) : Prop where
  rest : s' = { s with servers := s'.servers, journal := s'.journal }
  starts : ∀ box, s'.starts box = s.starts box + started.count box
  stops : ∀ box, s'.stops box = s.stops box + stopped.count box
  closings : ∀ id, s'.closings id = s.closings id
  created : ∀ box, s.Created box → s'.Created box

/-- A step without any container. -/
abbrev Sending : State → State → Prop :=
  Working [] []

/-- A handle apart from the classes that rely on its migrations. -/
def Handle.bare (handle : Handle) : Handle :=
  { handle with holders := [] }

/-- Instances, and what nodes and registry hold, are the same in both states. -/
structure Quiet (s s' : State) : Prop where
  size : s'.handles.size = s.handles.size
  bare : ∀ id, (s'.handle id).bare = (s.handle id).bare
  registry : s'.registry = s.registry
  bindings : s'.bindings = s.bindings
  declarations : s'.declarations = s.declarations
  starts : ∀ box, s'.starts box = s.starts box
  stops : ∀ box, s'.stops box = s.stops box
  closings : ∀ id, s'.closings id = s.closings id
  created : ∀ box, s.Created box → s'.Created box

variable {s s' s'' : State}

namespace Working

variable {started stopped started' stopped' : List ContainerId}

theorem refl (s : State) : Sending s s :=
  ⟨rfl, fun _ => rfl, fun _ => rfl, fun _ => rfl, fun _ h => h⟩

theorem trans (h : Working started stopped s s') (h' : Working started' stopped' s' s'') :
    Working (started ++ started') (stopped ++ stopped') s s'' where
  rest := by
    rw [h'.rest, h.rest]
  starts box := by
    rw [h'.starts, h.starts, List.count_append, Nat.add_assoc]
  stops box := by
    rw [h'.stops, h.stops, List.count_append, Nat.add_assoc]
  closings id := (h'.closings id).trans (h.closings id)
  created box hbox := h'.created box (h.created box hbox)

theorem handles (h : Working started stopped s s') : s'.handles = s.handles := by
  rw [h.rest]

theorem handle (h : Working started stopped s s') (id : HandleId) : s'.handle id = s.handle id := by
  rw [State.handle, State.handle, h.handles]

theorem bindings (h : Working started stopped s s') : s'.bindings = s.bindings := by
  rw [h.rest]

theorem registry (h : Working started stopped s s') : s'.registry = s.registry := by
  rw [h.rest]

theorem declarations (h : Working started stopped s s') : s'.declarations = s.declarations := by
  rw [h.rest]

theorem quiet (h : Sending s s') : Quiet s s' where
  size := by rw [h.handles]
  bare id := by rw [h.handle]
  registry := h.registry
  bindings := h.bindings
  declarations := h.declarations
  starts := h.starts
  stops := h.stops
  closings := h.closings
  created := h.created

end Working

namespace Quiet

theorem refl (s : State) : Quiet s s :=
  (Working.refl s).quiet

theorem trans (h : Quiet s s') (h' : Quiet s' s'') : Quiet s s'' where
  size := h'.size.trans h.size
  bare id := (h'.bare id).trans (h.bare id)
  registry := h'.registry.trans h.registry
  bindings := h'.bindings.trans h.bindings
  declarations := h'.declarations.trans h.declarations
  starts box := (h'.starts box).trans (h.starts box)
  stops box := (h'.stops box).trans (h.stops box)
  closings id := (h'.closings id).trans (h.closings id)
  created box hbox := h'.created box (h.created box hbox)

theorem stopped (h : Quiet s s') (id : HandleId) :
    (s'.handle id).stopped = (s.handle id).stopped := by
  have hbare := congrArg Handle.stopped (h.bare id)
  exact hbare

theorem container? (h : Quiet s s') (id : HandleId) :
    (s'.handle id).container? = (s.handle id).container? := by
  have hbare := congrArg Handle.container? (h.bare id)
  exact hbare

end Quiet

/-! ## Events and servers -/

/-- An event that is not about starting, stopping or closing. -/
def Event.Neutral (event : Event) : Prop :=
  (∀ box, event.starts box = false) ∧ (∀ box, event.stops box = false) ∧
    ∀ id, event.closes id = false

theorem Event.neutral_warned (warning : Warning) : (Event.warned warning).Neutral :=
  ⟨fun _ => rfl, fun _ => rfl, fun _ => rfl⟩

theorem Event.neutral_sent (id : HandleId) (statement : String) :
    (Event.sent id statement).Neutral :=
  ⟨fun _ => rfl, fun _ => rfl, fun _ => rfl⟩

theorem Event.neutral_overrideAsked (backend : String) (key : ResourceKey) :
    (Event.overrideAsked backend key).Neutral :=
  ⟨fun _ => rfl, fun _ => rfl, fun _ => rfl⟩

theorem Event.neutral_created (server : String) (index : Nat) :
    (Event.created server index).Neutral :=
  ⟨fun _ => rfl, fun _ => rfl, fun _ => rfl⟩

theorem note_sending {event : Event} (h : event.Neutral) (s : State) :
    Sending s (note event s).2 where
  rest := rfl
  starts box := by simp [State.starts_note, h.1]
  stops box := by simp [State.stops_note, h.2.1]
  closings id := by simp [State.closings_note, h.2.2]
  created _ hbox := hbox

theorem setServer_sending {name : String} {server : Memory.Server}
    (h : (s.server name).containers.size ≤ server.containers.size) :
    Sending s (s.setServer name server) where
  rest := rfl
  starts _ := rfl
  stops _ := rfl
  closings _ := rfl
  created box hbox := by
    unfold State.Created at *
    rw [State.server_setServer]
    split
    next hname => exact Nat.lt_of_lt_of_le hbox (hname ▸ h)
    next => exact hbox

theorem modifyHolders_quiet (s : State) (id : HandleId)
    (change : Assoc MigrationSet Nat → Assoc MigrationSet Nat) :
    Quiet s (s.modifyHandle id fun handle => { handle with holders := change handle.holders }) where
  size := s.size_modifyHandle id _
  bare other := by
    rw [State.handle_modifyHandle]
    split <;> rfl
  registry := rfl
  bindings := rfl
  declarations := rfl
  starts _ := rfl
  stops _ := rfl
  closings _ := rfl
  created _ hbox := hbox

/-! ## Statements and migrations -/

theorem size_setDatabase (server : Memory.Server) (database : Memory.Database)
    (target : Memory.Target) :
    (server.setDatabase database target).containers.size = server.containers.size := by
  cases target <;> simp [Memory.Server.setDatabase]

theorem size_execute {connection : Memory.Connection} {server next : Memory.Server}
    {statement : String} (h : connection.execute server statement = .ok next) :
    next.containers.size = server.containers.size := by
  unfold Memory.Connection.execute Memory.Server.execute at h
  split at h
  · cases h
  · split at h
    · cases h
      rfl
    · split at h
      · cases h
        exact size_setDatabase ..
      · cases h

theorem send_sending (id : HandleId) (statement : String) (s : State) :
    Sending s (send id statement s).2 := by
  have hnote := note_sending (Event.neutral_sent id statement) s
  unfold send
  simp only [Action.step_bind, Action.step_get]
  generalize (note (Event.sent id statement) s).2 = noted at hnote ⊢
  cases hrun : (noted.handle id).connection.execute
      (noted.server (noted.handle id).server) statement with
  | ok server => exact hnote.trans (setServer_sending (Nat.le_of_eq (size_execute hrun).symm))
  | error error => exact hnote

/-! What warnings and statements keep is kept by migrations, whatever their plan. -/

section Migrations

variable {rel : State → State → Prop} {id : HandleId}

theorem sendAll_leaves (hrefl : ∀ s, rel s s) (htrans : ∀ {a b c}, rel a b → rel b c → rel a c)
    (hsend : ∀ statement s, rel s (send id statement s).2) (steps : List Migration.Step)
    (s : State) : rel s (Migration.Plan.sendAll (send id) steps s).2 := by
  induction steps generalizing s with
  | nil => exact hrefl s
  | cons step rest ih =>
      have hfirst := hsend step.statement s
      unfold Migration.Plan.sendAll
      simp only [Action.step_bind]
      cases (send id step.statement s).1 with
      | ok _ => exact htrans hfirst (ih _)
      | error _ => exact hfirst

theorem run_leaves (hrefl : ∀ s, rel s s) (htrans : ∀ {a b c}, rel a b → rel b c → rel a c)
    (hsend : ∀ statement s, rel s (send id statement s).2) (plan : Migration.Plan) (s : State) :
    rel s (plan.run (send id) s).2 := by
  have hall := sendAll_leaves hrefl htrans hsend plan.steps s
  unfold Migration.Plan.run
  simp only [Action.step_bind]
  cases (Migration.Plan.sendAll (send id) plan.steps s).1 with
  | ok _ => cases plan.failure <;> exact hall
  | error _ => exact hall

theorem warnAll_leaves {ε : Type} (hrefl : ∀ s, rel s s)
    (htrans : ∀ {a b c}, rel a b → rel b c → rel a c)
    (hwarn : ∀ warning s, rel s (note (.warned warning) s).2) (warnings : List Warning)
    (s : State) :
    ∃ s', (forIn warnings PUnit.unit fun warning _ => do
        liftM (note (.warned warning))
        pure (ForInStep.yield PUnit.unit) : Action ε PUnit) s = (.ok PUnit.unit, s') ∧
      rel s s' := by
  induction warnings generalizing s with
  | nil => exact ⟨s, rfl, hrefl s⟩
  | cons warning rest ih =>
      obtain ⟨s', hrun, hs'⟩ := ih (note (.warned warning) s).2
      refine ⟨s', ?_, htrans (hwarn warning s) hs'⟩
      simp only [List.forIn_cons, Action.run_bind, Action.run_lift, Action.run_pure]
      exact hrun

theorem migrate_leaves (hrefl : ∀ s, rel s s) (htrans : ∀ {a b c}, rel a b → rel b c → rel a c)
    (hwarn : ∀ warning s, rel s (note (.warned warning) s).2)
    (hsend : ∀ statement s, rel s (send id statement s).2) (direction : Migration.Direction)
    (root : String) (policy : Migration.Policy) :
    Action.Leaves rel (migrate direction root id policy) := by
  intro s
  obtain ⟨s', hrun, hs'⟩ := warnAll_leaves (ε := LifecycleError) hrefl htrans hwarn
    (Migration.warnings direction policy.engine s.files root policy.locations) s
  unfold migrate
  simp only [Action.run_bind, Action.run_get, hrun]
  exact htrans hs' (run_leaves hrefl htrans hsend _ s')

end Migrations

theorem migrate_sending (direction : Migration.Direction) (root : String) (id : HandleId)
    (policy : Migration.Policy) (s : State) :
    Sending s (migrate direction root id policy s).2 :=
  migrate_leaves Working.refl Working.trans
    (fun warning => note_sending (Event.neutral_warned warning)) (send_sending id) direction root
    policy s

theorem acquire_quiet (root : String) (id : HandleId) (policy : Migration.Policy) (s : State) :
    Quiet s (acquire root id policy s).2 := by
  unfold acquire
  simp only [Action.run_bind, Action.run_get]
  generalize Assoc.find? (migrationSet policy) (s.handle id).holders = holders
  have hcount : ∀ s', Quiet s s' → Quiet s (s'.modifyHandle id fun handle =>
      { handle with
        holders := Assoc.insert (migrationSet policy) (holders.getD 0 + 1) handle.holders }) :=
    fun s' hs' => hs'.trans (modifyHolders_quiet s' id (Assoc.insert _ _))
  split
  · have hmigrate := (migrate_sending .apply root id policy s).quiet
    rw [Action.run_bind]
    rcases hrun : migrate .apply root id policy s with ⟨_ | _, s'⟩
    · rw [hrun] at hmigrate
      exact hmigrate
    · rw [hrun] at hmigrate
      exact hcount s' hmigrate
  · exact hcount s (Quiet.refl s)

theorem release_quiet (root : String) (id : HandleId) (policy : Migration.Policy) (s : State) :
    Quiet s (release root id policy s).2 := by
  unfold release
  simp only [Action.run_bind, Action.run_get]
  split
  · exact modifyHolders_quiet s id (Assoc.insert _ _)
  · rw [Action.run_bind]
    exact (modifyHolders_quiet s id (Assoc.erase _)).trans
      (migrate_sending .drop root id policy _).quiet

end ScopedResources.Lifecycle
