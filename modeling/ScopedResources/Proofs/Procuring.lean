import ScopedResources.Proofs.BeforeHook
import ScopedResources.Proofs.Preparing

/-!
# Obtaining an instance and making it ready

A container that is started for an instance is told to stop again if the instance is not obtained;
otherwise it is behind a handle that is new, or behind the one that the registry has for the run. If
migrations fail then, an instance of the node's own is stopped and any other one stays.
-/

namespace ScopedResources.Lifecycle

variable {limit : Nat} {s s' s'' : State} {id : HandleId} {box : ContainerId}

/-! ## Obtaining an instance -/

namespace Coordinator

variable (c : Coordinator) {node : ScopeNode} {decl : Declaration} {binding : Binding}

/-- A container is behind the live handle that the registry has for the resource of the run. -/
def BacksRun (s : State) (decl : Declaration) (id : HandleId) (box : ContainerId) : Prop :=
  decl.mode = .run ∧ ∃ key, c.keyFor s decl = .ok key ∧ s.live? c.backend.name key = some id ∧
    (s.handle id).container? = some box

/-- What obtaining an instance comes to. -/
inductive Procured (decl : Declaration) (limit : Nat) (s : State) :
    Except LifecycleError Binding → State → Prop where
  | failed {error : LifecycleError} {boxes : List ContainerId} {s' : State}
    (hprep : Preparing limit boxes boxes s s') : Procured decl limit s (.error error) s'
  | shared {id : HandleId} {boxes : List ContainerId} {s' : State}
    (hprep : Preparing limit boxes [] s s') (hbacks : ∀ box ∈ boxes, c.BacksRun s' decl id box) :
    Procured decl limit s (.ok ⟨id, .shared⟩) s'
  | owned {id : HandleId} {box : ContainerId} {s' : State} (hprep : Preparing limit [box] [] s s')
    (hnew : limit ≤ id) (hfronts : s'.Fronts id box) :
    Procured decl limit s (.ok ⟨id, .owned⟩) s'

variable {c}

theorem Procured.after {r : Except LifecycleError Binding} (h : Preparing limit [] [] s s')
    (h' : c.Procured decl limit s' r s'') : c.Procured decl limit s r s'' := by
  cases h' with
  | failed hprep => exact .failed (h.trans hprep)
  | shared hprep hbacks => exact .shared (h.trans hprep) hbacks
  | owned hprep hnew hfronts => exact .owned (h.trans hprep) hnew hfronts

variable (c)

theorem external?_preparing (hlimit : limit ≤ s.handles.size) :
    c.external?.Yields s fun _ s' => Preparing limit [] [] s s' := by
  have hparams : c.externalParams?.Yields s fun _ s' => Sending s s' := c.externalParams?_sending s
  unfold external?
  refine hparams.bind ?_ fun _ _ hsend => hsend.preparing limit
  intro params? s₁ hsend
  have hfirst := hsend.preparing limit
  cases params? with
  | none => exact hfirst
  | some params =>
      have hadopt : (c.adoptExternal params).Yields s₁ fun _ s' => Preparing limit [] [] s₁ s' := by
        unfold adoptExternal
        cases c.backend.connectExternal params with
        | error _ => exact Preparing.refl limit s₁
        | ok _ => exact push_preparing (Nat.le_trans hlimit hfirst.size) _
      refine (getOrCreate_yields (Q := fun s' => Preparing limit [] [] s₁ s')
        (Preparing.refl limit s₁) hadopt ?_ fun _ _ h => h).bind ?_ ?_
      · exact fun _ id s' h => h.trans (register_preparing limit s' _ _ id)
      · exact fun _ s' h => hfirst.trans h
      · exact fun _ s' h => hfirst.trans h

/-- An instance is the external one, or what is obtained without one. -/
theorem external?_bind_procured {f : Option HandleId → Action LifecycleError Binding}
    (hlimit : limit ≤ s.handles.size) (hsome : ∀ id, f (some id) = pure ⟨id, .shared⟩)
    (hnone : ∀ s', limit ≤ s'.handles.size → (f none).Yields s' (c.Procured decl limit s')) :
    (c.external? >>= f).Yields s (c.Procured decl limit s) := by
  refine (c.external?_preparing hlimit).bind ?_ fun _ _ h => .failed h
  intro found s' h
  cases found with
  | none => exact (hnone s' (Nat.le_trans hlimit h.size)).mono fun _ _ h' => h'.after h
  | some id =>
      rw [hsome]
      exact .shared h fun _ hmem => absurd hmem List.not_mem_nil

theorem provideOwned_procured (hlimit : limit ≤ s.handles.size) (key : ResourceKey) :
    (do return ⟨← provision c.backend node key, .owned⟩ :
      Action LifecycleError Binding).Yields s (c.Procured decl limit s) := by
  refine (provision_made hlimit c.backend node key).bind ?_ ?_
  · rintro id s' (_ | ⟨hprep, hnew, hfronts⟩)
    exact .owned hprep hnew hfronts
  · rintro error s' (⟨hprep⟩ | _)
    exact .failed hprep

theorem obtainForClass_procured (hlimit : limit ≤ s.handles.size) :
    (c.obtainForClass node decl).Yields s (c.Procured decl limit s) := by
  unfold obtainForClass
  refine c.external?_bind_procured hlimit (fun _ => rfl) fun s' hlimit' => ?_
  have hrefl := Preparing.refl limit s'
  refine Action.Yields.get_bind (Action.Yields.except_bind ?_ fun _ _ => .failed hrefl)
  intro key hkey
  by_cases hmode : decl.mode = .run
  · rw [if_pos hmode]
    have hgot : (getOrCreate c.backend.name c.backend.connectionType key
        (provision c.backend node key)).Yields s' fun r s'' =>
          c.Procured decl limit s' (r.map fun found => ⟨found.1, .shared⟩) s'' := by
      refine getOrCreate_cases (provision_made hlimit' c.backend node key) ?_ ?_ ?_ ?_
      · exact fun id _ => .shared hrefl fun _ hmem => absurd hmem List.not_mem_nil
      · exact fun _ _ _ => .failed hrefl
      · rintro - id s'' (_ | ⟨hprep, -, hfronts⟩)
        refine .shared (hprep.trans (register_preparing limit s'' _ _ id)) fun box hmem => ?_
        -- the handle is live and registered under the key just now
        obtain rfl := List.mem_singleton.mp hmem
        refine ⟨hmode, key, ?_, live?_register hfronts.live _ _, hfronts.container?⟩
        rw [← hkey]
        exact c.keyFor_congr hprep.environment decl
      · rintro error s'' (⟨hprep⟩ | _)
        exact .failed hprep
    exact hgot.bind (fun _ _ h => h) fun _ _ h => h
  · rw [if_neg hmode]
    exact c.provideOwned_procured hlimit' key

theorem obtainForMethod_procured (hlimit : limit ≤ s.handles.size) :
    (c.obtainForMethod node decl).Yields s (c.Procured decl limit s) := by
  unfold obtainForMethod
  refine c.external?_bind_procured hlimit (fun _ => rfl) fun s' hlimit' => ?_
  refine Action.Yields.get_bind (Action.Yields.except_bind ?_ ?_)
  · exact fun key _ => c.provideOwned_procured hlimit' key
  · exact fun _ _ => .failed (Preparing.refl limit s')

/-- What a class obtains, and that nobody is counted for it yet. -/
theorem obtainForClass_spec (node : ScopeNode) (decl : Declaration) (s : State) :
    (c.obtainForClass node decl).Yields s fun r s' =>
      c.Procured decl s.handles.size s r s' ∧ SameHolders s s' :=
  ⟨c.obtainForClass_procured (Nat.le_refl _), (c.obtainForClass_undisturbed node decl s).holders⟩

theorem obtainForMethod_spec (node : ScopeNode) (decl : Declaration) (s : State) :
    (c.obtainForMethod node decl).Yields s fun r s' =>
      c.Procured decl s.handles.size s r s' ∧ SameHolders s s' :=
  ⟨c.obtainForMethod_procured (Nat.le_refl _), (c.obtainForMethod_undisturbed node decl s).holders⟩

/-! ## Making it ready -/

/-- What making an instance ready comes to. -/
inductive Readied (limit : Nat) (binding : Binding) (s : State) :
    Except LifecycleError Unit → State → Prop where
  | ready {s' : State} (htend : Tending s s') : Readied limit binding s (.ok ()) s'
  /-- The instance is not the node's own, and stays. -/
  | spared {error : LifecycleError} {s' : State} (hnot : binding.ownership ≠ .owned)
    (htend : Tending s s') (hholders : SameHolders s s') : Readied limit binding s (.error error) s'
  | stopped {error : LifecycleError} {box : ContainerId} {s' : State}
    (howned : binding.ownership = .owned) (hfronts : s.Fronts binding.handle box)
    (hprep : Preparing limit [] [box] s s')
    (hholders : SameHolders s s') : Readied limit binding s (.error error) s'

/-- An instance of a node's own is new and runs. -/
def Ownable (limit : Nat) (binding : Binding) (s : State) : Prop :=
  binding.ownership = .owned → limit ≤ binding.handle ∧ ∃ box, s.Fronts binding.handle box

theorem ownable_borrowed (limit : Nat) (id : HandleId) (s : State) :
    Ownable limit ⟨id, .borrowed⟩ s :=
  fun howned => by cases howned

theorem orStop_sameHolders {task : Action LifecycleError Unit}
    (htask : Action.Leaves SameHolders task) : Action.Leaves SameHolders (orStop binding task) :=
  orStop_leaves .trans (stopOwned_leaves .refl (stopOrWarn_sameHolders binding.handle)) htask

theorem Readied.after {r : Except LifecycleError Unit} (h : Tending s s')
    (hholders : SameHolders s s')
    (h' : Readied limit binding s' r s'') : Readied limit binding s r s'' := by
  cases h' with
  | ready htend => exact .ready (h.trans htend)
  | spared hnot htend hheld => exact .spared hnot (h.trans htend) (hholders.trans hheld)
  | stopped howned hfronts hprep hheld =>
      exact .stopped howned (h.fronts_iff.mp hfronts) ((h.preparing limit).trans hprep)
        (hholders.trans hheld)

theorem Ownable.tending (h : Ownable limit binding s) (htend : Tending s s') :
    Ownable limit binding s' := by
  intro howned
  obtain ⟨hnew, box, hfronts⟩ := h howned
  exact ⟨hnew, box, htend.fronts_iff.mpr hfronts⟩

theorem orStop_readied {task : Action LifecycleError Unit} (htask : Action.Leaves Tending task)
    (hfailed : ∀ {s error s'}, task s = (.error error, s') → SameHolders s s')
    (hown : Ownable limit binding s) :
    (orStop binding task).Yields s (Readied limit binding s) := by
  have hrun := htask s
  unfold Action.Yields
  rw [run_orStop]
  rcases htask' : task s with ⟨error | _, s'⟩
  · rw [htask'] at hrun
    have hheld := hfailed htask'
    dsimp only
    unfold stopOwned
    by_cases howned : binding.ownership = .owned
    · rw [if_pos howned]
      obtain ⟨hnew, box, hfronts⟩ := hown howned
      have hstop := stopOrWarn_preparing hnew (hrun.fronts_iff.mpr hfronts)
      exact .stopped howned hfronts ((hrun.preparing limit).trans hstop)
        (hheld.trans (stopOrWarn_sameHolders _ _))
    · rw [if_neg howned]
      exact .spared howned hrun hheld
  · rw [htask'] at hrun
    exact .ready hrun

theorem migrate_failed {direction : Migration.Direction} {policy : Migration.Policy}
    {error : LifecycleError} (h : c.migrate direction id policy s = (.error error, s')) :
    SameHolders s s' := by
  have hsend := migrate_sending direction c.migrationRoot id policy s
  rw [show Lifecycle.migrate direction c.migrationRoot id policy s = _ from h] at hsend
  exact hsend.sameHolders

theorem readyForClass_readied (hown : Ownable limit binding s) :
    (c.readyForClass decl binding).Yields s (Readied limit binding s) := by
  unfold readyForClass applyForClass
  split
  next =>
    cases hownership : binding.ownership with
    | shared => exact orStop_readied ((c.tending_tends _).acquire _) acquire_failed hown
    | owned => exact orStop_readied (migrate_tending _ _ _ _) c.migrate_failed hown
    | borrowed => exact orStop_readied (migrate_tending _ _ _ _) c.migrate_failed hown
  next => exact .ready (Tending.refl s)

theorem warnOfRepetition_tending (decl : Declaration) (id : HandleId) (s : State) :
    Tending s (c.warnOfRepetition decl id s).2 ∧
      SameHolders s (c.warnOfRepetition decl id s).2 := by
  have hquiet := c.warnOfRepetition_quiet decl id s
  rcases c.warnOfRepetition_cases decl id s with hrun | hrun
  · rw [hrun] at hquiet ⊢
    exact ⟨⟨hquiet, rfl, rfl, rfl⟩, .refl _⟩
  · rw [hrun]
    exact ⟨Tending.refl s, .refl s⟩

theorem readyForTest_readied (hown : Ownable limit binding s) :
    (c.readyForTest decl binding).Yields s (Readied limit binding s) := by
  obtain ⟨htend, hholders⟩ := c.warnOfRepetition_tending decl binding.handle s
  have happly : (c.applyForMethod binding decl.migration).Yields
      (c.warnOfRepetition decl binding.handle s).2
      (Readied limit binding (c.warnOfRepetition decl binding.handle s).2) := by
    unfold applyForMethod
    split
    next => exact orStop_readied (migrate_tending _ _ _ _) c.migrate_failed (hown.tending htend)
    next => exact .ready (Tending.refl _)
  refine Action.Yields.lift_bind (happly.mono fun r s' h => ?_)
  exact h.after htend hholders

/-! ## The two together -/

/-- Nothing is left of a hook that failed, except what the registry has for the run: what was
started was told to stop, and no handle counts anybody more or less. -/
def Unwound (node : ScopeNode) (s s' : State) : Prop :=
  ∃ started stopped, Preparing s.handles.size started stopped s s' ∧ SameHolders s s' ∧
    ∀ box ∈ started, box ∈ stopped ∨
      ∃ decl id, c.declarationAt s node = .ok decl ∧ c.BacksRun s' decl id box

variable {c}

theorem BacksRun.tending (h : c.BacksRun s decl id box) (htend : Tending s s') :
    c.BacksRun s' decl id box := by
  obtain ⟨hmode, key, hkey, hlive, hbox⟩ := h
  refine ⟨hmode, key, ?_, (htend.live? _ _).trans hlive, (htend.container? id).trans hbox⟩
  rw [c.keyFor_congr htend.environment, hkey]

theorem Procured.preparing {r : Except LifecycleError Binding} (h : c.Procured decl limit s r s') :
    ∃ started stopped, Preparing limit started stopped s s' := by
  cases h with
  | failed hprep => exact ⟨_, _, hprep⟩
  | shared hprep => exact ⟨_, _, hprep⟩
  | owned hprep => exact ⟨_, _, hprep⟩

theorem Readied.preparing {r : Except LifecycleError Unit} (h : Readied limit binding s r s') :
    ∃ stopped, Preparing limit [] stopped s s' := by
  cases h with
  | ready htend => exact ⟨_, htend.preparing limit⟩
  | spared _ htend => exact ⟨_, htend.preparing limit⟩
  | stopped _ _ hprep => exact ⟨_, hprep⟩

theorem Readied.sameHolders {error : LifecycleError}
    (h : Readied limit binding s (.error error) s') : SameHolders s s' := by
  cases h with
  | spared _ _ hholders => exact hholders
  | stopped _ _ _ hholders => exact hholders

theorem Procured.ownable (h : c.Procured decl limit s (.ok binding) s') :
    Ownable limit binding s' := by
  cases h with
  | shared _ _ => exact fun howned => by cases howned
  | owned _ hnew hfronts => exact fun _ => ⟨hnew, _, hfronts⟩

/-- What was started for an instance that got ready is behind it. -/
theorem Procured.ready (h : c.Procured decl limit s (.ok binding) s') (htend : Tending s' s'') :
    ∃ started, Preparing limit started [] s s'' ∧ ∀ box ∈ started,
      c.BacksRun s'' decl binding.handle box ∨
        binding.ownership = .owned ∧ s''.Fronts binding.handle box := by
  have hlast := htend.preparing limit
  cases h with
  | shared hprep hbacks =>
      refine ⟨_, hprep.trans hlast, fun box hmem => .inl ?_⟩
      exact (hbacks box (by simpa using hmem)).tending htend
  | owned hprep hnew hfronts =>
      refine ⟨_, hprep.trans hlast, fun box hmem => .inr ⟨rfl, ?_⟩⟩
      obtain rfl : box = _ := by simpa using hmem
      exact htend.fronts_iff.mpr hfronts

theorem Procured.unwound {error : LifecycleError}
    (h : c.Procured decl s.handles.size s (.error error) s') (hholders : SameHolders s s')
    (node : ScopeNode) : c.Unwound node s s' := by
  cases h with
  | failed hprep => exact ⟨_, _, hprep, hholders, fun _ hmem => .inl hmem⟩

/-- An instance that does not get ready is stopped if it was made for the node. -/
theorem Procured.unwound_of_readied {error : LifecycleError}
    (hdecl : c.declarationAt s node = .ok decl)
    (h : c.Procured decl s.handles.size s (.ok binding) s') (hholders : SameHolders s s')
    (hready : Readied s.handles.size binding s' (.error error) s'') : c.Unwound node s s'' := by
  cases hready with
  | spared hnot htend hheld =>
      obtain ⟨started, hprep, hbehind⟩ := h.ready htend
      refine ⟨started, [], hprep, hholders.trans hheld, fun box hmem => .inr ?_⟩
      rcases hbehind box hmem with hbacks | ⟨howned, -⟩
      · exact ⟨decl, binding.handle, hdecl, hbacks⟩
      · exact absurd howned hnot
  | stopped howned hfronts hlast hheld =>
      cases h with
      | shared => cases howned
      | owned hprep hnew hmade =>
          have hsame := hmade.container?.symm.trans hfronts.container?
          cases hsame
          exact ⟨_, _, hprep.trans hlast, hholders.trans hheld,
            fun _ hmem => .inl (by simpa using hmem)⟩

/-- A hook that obtains an instance by itself and fails leaves nothing behind. -/
theorem Comes.unwound {idles : Declaration → Prop}
    {obtain : Declaration → Action LifecycleError Binding}
    {ready : Declaration → Binding → Action LifecycleError Unit} {error : LifecycleError}
    (h : c.Comes node idles obtain ready s (.error error) s')
    (hobtain : ∀ {decl}, c.Admits s node decl → (obtain decl).Yields s fun r s₁ =>
      c.Procured decl s.handles.size s r s₁ ∧ SameHolders s s₁)
    (hready : ∀ {decl binding s₁}, Ownable s.handles.size binding s₁ →
      (ready decl binding).Yields s₁ (Readied s.handles.size binding s₁)) :
    c.Unwound node s s' := by
  cases h with
  | refused =>
      exact ⟨[], [], Preparing.refl _ s, .refl s, fun _ hmem => absurd hmem List.not_mem_nil⟩
  | unobtained hadmits hrun =>
      obtain ⟨hprocured, hholders⟩ := (hobtain hadmits).of_run hrun
      exact hprocured.unwound hholders node
  | unready hadmits hrun hfailed =>
      obtain ⟨hprocured, hholders⟩ := (hobtain hadmits).of_run hrun
      have hreadied := (hready hprocured.ownable).of_run hfailed
      exact hprocured.unwound_of_readied hadmits.declared hholders hreadied

end Coordinator

end ScopedResources.Lifecycle
