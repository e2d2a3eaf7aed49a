import ScopedResources.Proofs.ClassHooks

/-!
# What preparing an instance changes

Making, registering and stopping instances changes nothing that a node holds, and what was made
before is not stopped by it. A task for an instance changes even less: migrations reach the database
and are counted, and migrations that fail are counted by nobody. -/

namespace ScopedResources.Lifecycle

/-- Nodes hold the same in both states, and no handle below the limit was stopped. The containers of
the one list were told to start, those of the other to stop. -/
structure Preparing (limit : Nat) (started stopped : List ContainerId) (s s' : State) : Prop where
  environment : s'.environment = s.environment
  declarations : s'.declarations = s.declarations
  overrides : s'.overrides = s.overrides
  finished : s'.finished = s.finished
  bindings : s'.bindings = s.bindings
  size : s.handles.size ≤ s'.handles.size
  alive : ∀ id < limit, (s'.handle id).stopped = (s.handle id).stopped
  starts : ∀ box, s'.starts box = s.starts box + started.count box
  stops : ∀ box, s'.stops box = s.stops box + stopped.count box

/-- Only who relies on migrations differs, besides servers, journal and the keys warned about. -/
structure Tending (s s' : State) : Prop extends Quiet s s' where
  environment : s'.environment = s.environment
  overrides : s'.overrides = s.overrides
  finished : s'.finished = s.finished

/-- The same classes rely on the migrations of every handle. -/
def SameHolders (s s' : State) : Prop :=
  ∀ id, (s'.handle id).holders = (s.handle id).holders

/-- A live handle is in front of a container. -/
structure State.Fronts (s : State) (id : HandleId) (box : ContainerId) : Prop where
  known : id < s.handles.size
  container? : (s.handle id).container? = some box
  live : (s.handle id).stopped = false

variable {limit : Nat} {started stopped started' stopped' : List ContainerId}
variable {s s' s'' : State} {id : HandleId} {box : ContainerId}

theorem SameHolders.refl (s : State) : SameHolders s s :=
  fun _ => rfl

theorem SameHolders.trans (h : SameHolders s s') (h' : SameHolders s' s'') : SameHolders s s'' :=
  fun id => (h' id).trans (h id)

namespace Preparing

theorem refl (limit : Nat) (s : State) : Preparing limit [] [] s s :=
  ⟨rfl, rfl, rfl, rfl, rfl, Nat.le_refl _, fun _ _ => rfl, fun _ => rfl, fun _ => rfl⟩

theorem trans (h : Preparing limit started stopped s s')
    (h' : Preparing limit started' stopped' s' s'') :
    Preparing limit (started ++ started') (stopped ++ stopped') s s'' where
  environment := h'.environment.trans h.environment
  declarations := h'.declarations.trans h.declarations
  overrides := h'.overrides.trans h.overrides
  finished := h'.finished.trans h.finished
  bindings := h'.bindings.trans h.bindings
  size := Nat.le_trans h.size h'.size
  alive id hid := (h'.alive id hid).trans (h.alive id hid)
  starts box := by
    rw [h'.starts, h.starts, List.count_append, Nat.add_assoc]
  stops box := by
    rw [h'.stops, h.stops, List.count_append, Nat.add_assoc]

/-- Where more was told to start, something is in the list of what was started. -/
theorem mem_of_starts_lt (h : Preparing limit started stopped s s')
    (hlt : s.starts box < s'.starts box) : box ∈ started := by
  rw [h.starts] at hlt
  exact List.count_pos_iff.mp (by omega)

theorem stops_lt_of_mem (h : Preparing limit started stopped s s') (hmem : box ∈ stopped) :
    s.stops box < s'.stops box := by
  have hpos := List.count_pos_iff.mpr hmem
  rw [h.stops]
  omega

end Preparing

theorem Working.preparing (h : Working started stopped s s') (limit : Nat) :
    Preparing limit started stopped s s' where
  environment := by rw [h.rest]
  declarations := h.declarations
  overrides := by rw [h.rest]
  finished := by rw [h.rest]
  bindings := h.bindings
  size := Nat.le_of_eq (by rw [h.handles])
  alive id _ := by rw [h.handle]
  starts := h.starts
  stops := h.stops

/-- A new handle has a number that is not below the limit. -/
theorem push_preparing (hlimit : limit ≤ s.handles.size) (handle : Handle) :
    Preparing limit [] [] s { s with handles := s.handles.push handle } where
  environment := rfl
  declarations := rfl
  overrides := rfl
  finished := rfl
  bindings := rfl
  size := by simp
  alive id hid := by rw [State.handle_push, if_neg (Nat.ne_of_lt (Nat.lt_of_lt_of_le hid hlimit))]
  starts _ := rfl
  stops _ := rfl

theorem register_preparing (limit : Nat) (s : State) (backend : String) (key : ResourceKey)
    (id : HandleId) : Preparing limit [] [] s (s.register backend key id) :=
  ⟨rfl, rfl, rfl, rfl, rfl, Nat.le_refl _, fun _ _ => rfl, fun _ => rfl, fun _ => rfl⟩

namespace Tending

theorem refl (s : State) : Tending s s :=
  ⟨Quiet.refl s, rfl, rfl, rfl⟩

theorem trans (h : Tending s s') (h' : Tending s' s'') : Tending s s'' where
  toQuiet := h.toQuiet.trans h'.toQuiet
  environment := h'.environment.trans h.environment
  overrides := h'.overrides.trans h.overrides
  finished := h'.finished.trans h.finished

theorem preparing (h : Tending s s') (limit : Nat) : Preparing limit [] [] s s' where
  environment := h.environment
  declarations := h.declarations
  overrides := h.overrides
  finished := h.finished
  bindings := h.bindings
  size := Nat.le_of_eq h.size.symm
  alive id _ := h.stopped id
  starts := h.starts
  stops := h.stops

theorem fronts_iff (h : Tending s s') : s'.Fronts id box ↔ s.Fronts id box := by
  constructor
  · intro hfronts
    exact ⟨h.size ▸ hfronts.known, (h.container? id).symm.trans hfronts.container?,
      (h.stopped id).symm.trans hfronts.live⟩
  · intro hfronts
    exact ⟨h.size ▸ hfronts.known, (h.container? id).trans hfronts.container?,
      (h.stopped id).trans hfronts.live⟩

theorem live? (h : Tending s s') (backend : String) (key : ResourceKey) :
    s'.live? backend key = s.live? backend key := by
  unfold State.live?
  rw [h.registry]
  congr 1
  funext id
  rw [h.stopped]

end Tending

theorem Working.tending (h : Sending s s') : Tending s s' :=
  ⟨h.quiet, by rw [h.rest], by rw [h.rest], by rw [h.rest]⟩

theorem modifyHolders_tending (s : State) (id : HandleId)
    (change : Assoc MigrationSet Nat → Assoc MigrationSet Nat) :
    Tending s (s.modifyHandle id fun handle => { handle with holders := change handle.holders }) :=
  ⟨modifyHolders_quiet s id change, rfl, rfl, rfl⟩

theorem Working.sameHolders (h : Working started stopped s s') : SameHolders s s' :=
  fun id => by rw [h.handle]

theorem migrate_tending (direction : Migration.Direction) (root : String) (id : HandleId)
    (policy : Migration.Policy) : Action.Leaves Tending (migrate direction root id policy) :=
  fun s => (migrate_sending direction root id policy s).tending

theorem Coordinator.tending_tends (c : Coordinator) (id : HandleId) : c.Tends id Tending where
  refl := .refl
  trans := .trans
  migrate direction policy := migrate_tending direction c.migrationRoot id policy
  counted s change := modifyHolders_tending s id change

/-- What acquiring migrations comes to: they are held already, or they are applied first. -/
theorem acquire_eq (root : String) (id : HandleId) (policy : Migration.Policy) (s : State) :
    acquire root id policy s =
      match Assoc.find? (migrationSet policy) (s.handle id).holders with
      | some held => (.ok (), s.modifyHandle id fun handle =>
          { handle with holders := Assoc.insert (migrationSet policy) (held + 1) handle.holders })
      | none => match migrate .apply root id policy s with
        | (.ok _, s') => (.ok (), s'.modifyHandle id fun handle =>
            { handle with holders := Assoc.insert (migrationSet policy) 1 handle.holders })
        | (.error error, s') => (.error error, s') := by
  unfold acquire
  simp only [Action.run_bind, Action.run_get]
  cases Assoc.find? (migrationSet policy) (s.handle id).holders with
  | some held => rfl
  | none =>
      simp only [Option.isNone_none, if_true, Action.run_bind]
      rcases migrate .apply root id policy s with ⟨_ | _, s'⟩ <;> rfl

/-- Migrations that fail to be applied are held by nobody. -/
theorem acquire_failed {root : String} {policy : Migration.Policy} {error : LifecycleError}
    (h : acquire root id policy s = (.error error, s')) : SameHolders s s' := by
  rw [acquire_eq] at h
  split at h
  · cases h
  · have hsend := migrate_sending .apply root id policy s
    split at h
    · cases h
    next hrun =>
      cases h
      rw [hrun] at hsend
      exact hsend.sameHolders

/-! ## Stopping -/

theorem stopHandle_rest (id : HandleId) (s : State) :
    ∃ servers handles journal, (stopHandle id s).2 = { s with servers, handles, journal } := by
  cases hstopped : (s.handle id).stopped with
  | true => exact ⟨_, _, _, congrArg Prod.snd (stopHandle_of_stopped hstopped)⟩
  | false =>
      rw [stopHandle_of_live hstopped]
      cases (s.handle id).origin with
      | external => exact ⟨_, _, _, rfl⟩
      | container index => exact ⟨_, _, _, rfl⟩

theorem stopHandle_sameHolders (id : HandleId) (s : State) :
    SameHolders s (stopHandle id s).2 := by
  have hclose : SameHolders s (s.closeHandle id) := by
    intro other
    rw [State.handle_closeHandle]
    split <;> rfl
  cases hstopped : (s.handle id).stopped with
  | true =>
      rw [stopHandle_of_stopped hstopped]
      exact fun _ => rfl
  | false =>
      rw [stopHandle_of_live hstopped]
      cases (s.handle id).origin with
      | external => exact hclose
      | container index => exact hclose

theorem stopOrWarn_sameHolders (id : HandleId) (s : State) : SameHolders s (stopOrWarn id s).2 := by
  have hstop := stopHandle_sameHolders id s
  unfold stopOrWarn
  simp only [Action.step_bind]
  cases (stopHandle id s).1 with
  | ok _ => exact hstop
  | error _ => exact hstop

/-- Stopping a handle that is not below the limit. -/
theorem stopHandle_preparing (hlimit : limit ≤ id) (hfronts : s.Fronts id box) :
    Preparing limit [] [box] s (stopHandle id s).2 := by
  have hstop := stopHandle_stopping hfronts.known hfronts.live
  obtain ⟨servers, handles, journal, hrest⟩ := stopHandle_rest id s
  refine ⟨?_, ?_, ?_, ?_, ?_, Nat.le_of_eq hstop.size.symm, ?_, hstop.starts, ?_⟩
  · rw [hrest]
  · exact hstop.declarations
  · rw [hrest]
  · rw [hrest]
  · exact hstop.bindings
  · intro other hother
    rw [hstop.other (Nat.ne_of_lt (Nat.lt_of_lt_of_le hother hlimit))]
  · intro other
    rw [hstop.stops, hfronts.container?, List.count_singleton]
    simp

theorem stopOrWarn_preparing (hlimit : limit ≤ id) (hfronts : s.Fronts id box) :
    Preparing limit [] [box] s (stopOrWarn id s).2 := by
  have hstop := stopHandle_preparing hlimit hfronts
  unfold stopOrWarn
  simp only [Action.step_bind]
  cases (stopHandle id s).1 with
  | ok _ => exact hstop
  | error error =>
      exact hstop.trans ((note_sending (Event.neutral_warned _) _).preparing limit)

/-! ## Making an instance -/

/-- What making an instance comes to: whatever was started was told to stop, or one container is
behind a new handle. -/
inductive Made (limit : Nat) (s : State) : Except LifecycleError HandleId → State → Prop where
  | failed {error : LifecycleError} {boxes : List ContainerId} {s' : State}
    (hprep : Preparing limit boxes boxes s s') : Made limit s (.error error) s'
  | made {id : HandleId} {box : ContainerId} {s' : State} (hprep : Preparing limit [box] [] s s')
    (hnew : limit ≤ id) (hfronts : s'.Fronts id box) : Made limit s (.ok id) s'

theorem provision_made (hlimit : limit ≤ s.handles.size) (backend : Backend) (node : ScopeNode)
    (key : ResourceKey) : (provision backend node key).Yields s (Made limit s) := by
  refine (provision_provisioned backend node key s).mono ?_
  intro r s' hprovided
  cases r with
  | error error =>
      obtain ⟨boxes, -, -, hwork⟩ := hprovided
      exact .failed (hwork.preparing limit)
  | ok id =>
      obtain ⟨box, handle, s₁, rfl, -, -, hwork, hbox, hlive, -, rfl⟩ := hprovided
      have hsize : s₁.handles.size = s.handles.size := by rw [hwork.handles]
      have hself : ({ s₁ with handles := s₁.handles.push handle } : State).handle s.handles.size =
          handle := by
        rw [State.handle_push, if_pos hsize.symm]
      refine .made ((hwork.preparing limit).trans (push_preparing (hsize ▸ hlimit) handle))
        hlimit ?_
      refine ⟨?_, ?_, ?_⟩
      · rw [Array.size_push, hsize]
        exact Nat.lt_succ_self _
      · rw [hself, hbox]
      · rw [hself, hlive]

/-- All that a request to the registry can come to. -/
theorem getOrCreate_cases {backend connectionType : String} {key : ResourceKey}
    {factory : Action LifecycleError HandleId} {P : Except LifecycleError HandleId → State → Prop}
    {Q : Except LifecycleError (HandleId × Bool) → State → Prop} (hfactory : factory.Yields s P)
    (hfound : ∀ id, s.live? backend key = some id → Q (.ok (id, false)) s)
    (hmismatch : ∀ id error, s.live? backend key = some id → Q (.error error) s)
    (hmade : s.live? backend key = none → ∀ id s', P (.ok id) s' →
      Q (.ok (id, true)) (s'.register backend key id))
    (hfailed : ∀ error s', P (.error error) s' → Q (.error error) s') :
    (getOrCreate backend connectionType key factory).Yields s Q := by
  unfold getOrCreate
  refine Action.Yields.get_bind ?_
  cases hlive : s.live? backend key with
  | none => exact hfactory.bind (hmade hlive) hfailed
  | some id =>
      unfold ofType Action.Yields
      simp only [Action.run_bind, Action.run_get]
      by_cases htype : (s.handle id).connectionType = connectionType
      · rw [if_pos htype]
        exact hfound id hlive
      · rw [if_neg htype]
        exact hmismatch id _ hlive

theorem live?_register (hlive : (s.handle id).stopped = false) (backend : String)
    (key : ResourceKey) : (s.register backend key id).live? backend key = some id := by
  unfold State.live? State.register
  rw [Assoc.find?_insert, if_pos rfl, Option.filter_some]
  refine if_pos ?_
  change (!(s.handle id).stopped) = true
  rw [hlive]
  rfl

end ScopedResources.Lifecycle
