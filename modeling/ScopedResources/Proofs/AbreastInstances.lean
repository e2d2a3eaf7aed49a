import ScopedResources.Proofs.Abreast
import ScopedResources.Proofs.PlanRuns

/-!
# Instances side by side

Making, using and stopping instances keeps two runs abreast: the server of the coordinator answers
alike in both, and only the numbers of the handles differ. -/

namespace ScopedResources.Lifecycle

variable {c : Coordinator} {own : Renumbering} {s t : State} {id id' : HandleId}

theorem warn_follows (h : Abreast c own s t) (warning : Warning) :
    Follows c own s t (note (.warned warning)) (note (.warned warning)) Agree :=
  note_follows h (.plain rfl)

/-! ## Migrations -/

theorem send_tracks (h : Abreast c own s t) (hid : own.Names id id') (statement : String) :
    Tracks c own s t (send id statement) (send id' statement) Agree := by
  unfold send
  refine Follows.bind (note_follows h (.sent hid statement)) fun hgrown h _ => Follows.get_bind ?_
  have hid := hid.mono hgrown
  dsimp only
  rw [h.handle hid, h.home hid.lt, h.server]
  split
  next server _ => exact ⟨_, setServer_paced h server, .ok rfl⟩
  next error _ => exact Tracks.throw h error

theorem sendAll_follows (h : Abreast c own s t) (hid : own.Names id id')
    (steps : List Migration.Step) :
    Follows c own s t (Migration.Plan.sendAll (send id) steps)
      (Migration.Plan.sendAll (send id') steps)
      fun own' => Outcome (Agree own') := by
  induction steps generalizing own s t with
  | nil => exact Tracks.pure h rfl
  | cons step rest ih =>
      refine Follows.bind (send_tracks h hid step.statement) fun hgrown h hsent => ?_
      cases hsent with
      | ok _ => exact ih h (hid.mono hgrown)
      | error error => exact Tracks.throw h _

theorem warnAll_tracks (h : Abreast c own s t) (warnings : List Warning) :
    Tracks c own s t (forIn warnings PUnit.unit fun warning _ => do
        liftM (note (.warned warning))
        pure (ForInStep.yield PUnit.unit) : Action LifecycleError PUnit)
      (forIn warnings PUnit.unit fun warning _ => do
        liftM (note (.warned warning))
        pure (ForInStep.yield PUnit.unit)) Agree := by
  induction warnings generalizing own s t with
  | nil => exact .pure h rfl
  | cons warning rest ih =>
      rw [List.forIn_cons]
      refine .bind (R := fun _ step step' => step = .yield .unit ∧ step' = .yield .unit) ?_ ?_
      · exact .bind (.lift (warn_follows h warning)) fun _ h _ => .pure h ⟨rfl, rfl⟩
      · rintro _ _ _ _ _ - h ⟨rfl, rfl⟩
        exact ih h

theorem migrate_tracks (h : Abreast c own s t) (hid : own.Names id id')
    (direction : Migration.Direction) (root : String) (policy : Migration.Policy) :
    Tracks c own s t (migrate direction root id policy)
      (migrate direction root id' policy) Agree := by
  unfold migrate
  refine .get_bind ?_
  rw [h.files]
  refine .bind (warnAll_tracks h _) fun hgrown h _ => ?_
  rw [Migration.run_of_sendAll, Migration.run_of_sendAll]
  refine Follows.bind (sendAll_follows h (hid.mono hgrown) _) fun _ h hsent => ?_
  cases hsent with
  | ok _ => exact ⟨_, .refl h, .same _⟩
  | error failure => exact Tracks.throw h _

theorem setHolders_follows (h : Abreast c own s t) (hid : own.Names id id')
    (change : Assoc MigrationSet Nat → Assoc MigrationSet Nat) :
    Follows c own s t
      (modify (·.modifyHandle id fun handle => { handle with holders := change handle.holders }) :
        StateM State Unit)
      (modify (·.modifyHandle id' fun handle => { handle with holders := change handle.holders }) :
        StateM State Unit) Agree :=
  modifyHandle_follows h hid fun _ => rfl

theorem acquire_tracks (h : Abreast c own s t) (hid : own.Names id id') (root : String)
    (policy : Migration.Policy) :
    Tracks c own s t (acquire root id policy) (acquire root id' policy) Agree := by
  unfold acquire
  refine .get_bind ?_
  dsimp only
  rw [h.handle hid]
  split
  · refine .bind (migrate_tracks h hid .apply root policy) fun hgrown h _ => ?_
    exact .lift (setHolders_follows h (hid.mono hgrown) _)
  · exact .lift (setHolders_follows h hid _)

theorem release_tracks (h : Abreast c own s t) (hid : own.Names id id') (root : String)
    (policy : Migration.Policy) :
    Tracks c own s t (release root id policy) (release root id' policy) Agree := by
  unfold release
  refine .get_bind ?_
  dsimp only
  rw [h.handle hid]
  split
  · exact .lift (setHolders_follows h hid _)
  · refine .bind (.lift (setHolders_follows h hid _)) fun hgrown h _ => ?_
    exact migrate_tracks h (hid.mono hgrown) .drop root policy

/-! ## Stopping -/

theorem stopHandle_tracks (h : Abreast c own s t) (hid : own.Names id id') :
    Tracks c own s t (stopHandle id) (stopHandle id') Agree := by
  unfold stopHandle
  refine .get_bind ?_
  dsimp only
  -- the container is on the coordinator's own server, which answers alike in both runs
  rw [h.handle hid, h.home hid.lt]
  split
  · exact .pure h rfl
  · refine .bind (.lift (modifyHandle_follows h hid fun _ => rfl)) fun hgrown h _ => ?_
    refine .bind (.lift (note_follows h (.closed (hid.mono hgrown)))) fun _ h _ => ?_
    split
    · exact .pure h rfl
    · exact .bind (.lift (note_follows h (.plain rfl))) fun _ h _ => onServer_tracks h _

theorem stopOrWarn_follows (h : Abreast c own s t) (hid : own.Names id id') :
    Follows c own s t (stopOrWarn id) (stopOrWarn id') Agree := by
  unfold stopOrWarn
  refine .bind (stopHandle_tracks h hid) fun hgrown h hstopped => ?_
  cases hstopped with
  | ok _ => exact .pure h rfl
  | error error =>
      refine .get_bind ?_
      rw [h.handle (hid.mono hgrown)]
      exact warn_follows h _

/-! ## Making -/

theorem createContainer_tracks (h : Abreast c own s t) (node : ScopeNode) (key : ResourceKey) :
    Tracks c own s t (createContainer c.backend node key) (createContainer c.backend node key)
      Agree := by
  have hcreated : ∀ {own s t}, Abreast c own s t → ∀ index, Tracks c own s t
      (do note (.created c.backend.server index); return index : Action ContainerError Nat)
      (do note (.created c.backend.server index); return index) Agree :=
    fun h index => .bind (.lift (note_follows h (.plain rfl))) fun _ h _ => .pure h rfl
  unfold createContainer
  refine .get_bind ?_
  rw [find?_congr h.overrides node]
  split
  · refine .bind (.lift (note_follows h (.plain rfl))) fun _ h _ => ?_
    refine .bind (onServer_tracks h _) ?_
    rintro _ _ _ _ index - h rfl
    exact hcreated h index
  · refine .bind (onServer_tracks h _) ?_
    rintro _ _ _ _ index - h rfl
    exact hcreated h index

theorem bringUp_tracks (h : Abreast c own s t) (index : Nat) :
    Tracks c own s t (bringUp c.backend index) (bringUp c.backend index) Agree := by
  unfold bringUp
  refine .bind (.lift (note_follows h (.plain rfl))) fun _ h _ => ?_
  refine .bind (onServer_tracks h _) fun _ h _ => ?_
  refine .bind (onServer_tracks h _) ?_
  rintro _ _ _ _ connection - h rfl
  exact .pure h rfl

theorem discard_follows (h : Abreast c own s t) (index : Nat) :
    Follows c own s t (discard c.backend index) (discard c.backend index) Agree := by
  unfold discard
  refine .bind (note_follows h (.plain rfl)) fun _ h _ => ?_
  refine .bind (onServer_tracks h _) fun _ h hstopped => ?_
  cases hstopped with
  | ok _ => exact .pure h rfl
  | error error =>
      refine .get_bind ?_
      rw [h.server]
      exact warn_follows h _

theorem bringUpOrDiscard_tracks (h : Abreast c own s t) (index : Nat) :
    Tracks c own s t (bringUpOrDiscard c.backend index) (bringUpOrDiscard c.backend index) Agree :=
  .tryCatch (bringUp_tracks h index) fun error _ h =>
    .bind (.lift (discard_follows h index)) fun _ h _ => .throw h error

theorem provision_tracks (h : Abreast c own s t) (node : ScopeNode) (key : ResourceKey) :
    Tracks c own s t (provision c.backend node key) (provision c.backend node key)
      Renumbering.Names := by
  unfold provision
  refine .adapt _ (.bind (createContainer_tracks h node key) ?_)
  rintro _ _ _ _ index - h rfl
  refine .bind (bringUpOrDiscard_tracks h index) ?_
  rintro _ _ _ _ connection - h rfl
  exact .lift (addHandle_follows h rfl)

/-! ## The registry -/

theorem live?_rel (h : Abreast c own s t) (key : ResourceKey) :
    Option.Rel own.Names (s.live? c.backend.name key) (t.live? c.backend.name key) := by
  unfold State.live?
  rcases rel_cases (h.registry key) with ⟨hs, ht⟩ | ⟨id, id', hs, ht, hid⟩
  · rw [hs, ht]
    exact .none
  · rw [hs, ht]
    simp only [Option.filter_some, h.handle hid]
    split
    · exact .some hid
    · exact .none

theorem ofType_tracks (h : Abreast c own s t) (hid : own.Names id id') :
    Tracks c own s t (ofType c.backend.name c.backend.connectionType id)
      (ofType c.backend.name c.backend.connectionType id') Renumbering.Names := by
  unfold ofType
  refine .get_bind ?_
  rw [h.handle hid]
  split
  · exact .pure h hid
  · exact .throw h _

theorem getOrCreate_tracks (h : Abreast c own s t) (key : ResourceKey)
    {factory factory' : Action LifecycleError HandleId}
    (hfactory : Tracks c own s t factory factory' Renumbering.Names) :
    Tracks c own s t (getOrCreate c.backend.name c.backend.connectionType key factory)
      (getOrCreate c.backend.name c.backend.connectionType key factory')
      fun own' found found' => own'.Names found.1 found'.1 ∧ found'.2 = found.2 := by
  unfold getOrCreate
  refine .get_bind ?_
  rcases rel_cases (live?_rel h key) with ⟨hs, ht⟩ | ⟨id, id', hs, ht, hid⟩
  · rw [hs, ht]
    refine .bind hfactory fun _ h hid => ?_
    refine .bind (R := Agree) ⟨_, register_paced h hid key, .ok rfl⟩ fun hgrown h _ => ?_
    exact .pure h ⟨hid.mono hgrown, rfl⟩
  · rw [hs, ht]
    exact .bind (ofType_tracks h hid) fun _ h hid => .pure h ⟨hid, rfl⟩

end ScopedResources.Lifecycle
