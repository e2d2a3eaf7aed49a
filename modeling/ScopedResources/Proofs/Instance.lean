import ScopedResources.Proofs.Effect

/-!
# Making and stopping instances

What it takes to make an instance, in terms of containers: the one that is created is told to start
once; if it does not get ready it is told to stop once, and otherwise a new handle stands for it.
Stopping a handle closes it and tells its container to stop, unless that was done before.
-/

namespace ScopedResources.Lifecycle

variable {s s' : State}

/-! ## Tasks of a server -/

/-- Both servers have the same number of containers. -/
def SameSize (server next : Memory.Server) : Prop :=
  next.containers.size = server.containers.size

theorem SameSize.trans {a b c : Memory.Server} (h : SameSize a b) (h' : SameSize b c) :
    SameSize a c :=
  Eq.trans h' h

theorem container_sameSize (index : Nat) : Action.Leaves SameSize (Memory.container index) := by
  intro server
  unfold Memory.container
  simp only [Action.run_bind, Action.run_get]
  cases server.containers[index]? <;> rfl

theorem check_sameSize (found : Memory.Container) (fault : Memory.Fault) :
    Action.Leaves SameSize (Memory.check found fault) := by
  intro server
  unfold Memory.check
  split <;> rfl

theorem throw_sameSize {α : Type} (error : ContainerError) :
    Action.Leaves SameSize (throw error : Memory.Task α) :=
  fun _ => rfl

theorem get_sameSize : Action.Leaves SameSize (get : Memory.Task Memory.Server) :=
  fun _ => rfl

theorem pure_sameSize {α : Type} (a : α) : Action.Leaves SameSize (pure a : Memory.Task α) :=
  fun _ => rfl

theorem size_setRunning (index : Nat) (running : Bool) (server : Memory.Server) :
    (Memory.setRunning index running server).containers.size = server.containers.size := by
  simp [Memory.setRunning]

theorem start_sameSize (index : Nat) : Action.Leaves SameSize (Memory.start index) := by
  have hmark : Action.Leaves SameSize (modify fun server =>
      { Memory.setRunning index true server with started := server.started + 1 } :
      Memory.Task Unit) :=
    fun server => size_setRunning index true server
  unfold Memory.start
  refine .bind .trans (container_sameSize index) fun found => ?_
  refine .bind .trans (check_sameSize found .start) fun _ => ?_
  refine .bind .trans get_sameSize fun server => ?_
  split
  · exact .bind .trans (throw_sameSize _) fun _ => .bind .trans hmark fun _ => check_sameSize _ _
  · exact .bind .trans hmark fun _ => check_sameSize _ _

theorem stop_sameSize (index : Nat) : Action.Leaves SameSize (Memory.stop index) := by
  have hmark : Action.Leaves SameSize (modify fun server =>
      { Memory.setRunning index false server with stopped := server.stopped + 1 } :
      Memory.Task Unit) :=
    fun server => size_setRunning index false server
  -- what is left of the task behind the check that may end it
  have hstop : ∀ found : Memory.Container, Action.Leaves SameSize (do
      Memory.check found .stop
      if found.running then
        modify fun server =>
          { Memory.setRunning index false server with stopped := server.stopped + 1 }) := by
    intro found
    refine .bind .trans (check_sameSize found .stop) fun _ => ?_
    split
    · exact hmark
    · exact pure_sameSize _
  unfold Memory.stop
  refine .bind .trans (container_sameSize index) fun found => ?_
  dsimp only
  split
  · exact .bind .trans (throw_sameSize _) fun _ => hstop found
  · exact hstop found

theorem host_sameSize (index : Nat) : Action.Leaves SameSize (Memory.host index) := by
  unfold Memory.host
  refine .bind .trans (container_sameSize index) fun found => ?_
  exact .bind .trans (check_sameSize found .host) fun _ => pure_sameSize _

theorem mappedPort_sameSize (index port : Nat) :
    Action.Leaves SameSize (Memory.mappedPort index port) := by
  have hport : Action.Leaves SameSize (do
      if port ≠ Memory.containerPort then
        throw ⟨"mapped_port", "port " ++ toString port ++ " is not exposed"⟩
      return Memory.firstPort + index : Memory.Task Nat) := by
    dsimp only
    split
    · exact .bind .trans (throw_sameSize _) fun _ => pure_sameSize _
    · exact pure_sameSize _
  unfold Memory.mappedPort
  refine .bind .trans (container_sameSize index) fun found => ?_
  refine .bind .trans (check_sameSize found .port) fun _ => ?_
  dsimp only
  split
  · exact .bind .trans (throw_sameSize _) fun _ => hport
  · exact hport

theorem connect_sameSize (index : Nat) : Action.Leaves SameSize (Memory.connect index) := by
  unfold Memory.connect
  refine .bind .trans (host_sameSize index) fun host => ?_
  refine .bind .trans (mappedPort_sameSize index _) fun port => ?_
  refine .bind .trans get_sameSize fun server => ?_
  split
  · exact pure_sameSize _
  · exact throw_sameSize _

/-! ## Provisioning -/

/-- A task that makes a container does so behind all others, or fails and does nothing. -/
def Creates (task : Memory.Task Nat) : Prop :=
  ∀ server, match task server with
    | (.ok index, next) =>
      index = server.containers.size ∧ next.containers.size = server.containers.size + 1
    | (.error _, next) => next = server

theorem create_creates (image : String) (aliases : List String) (faults : List Memory.Fault) :
    Creates (Memory.create image aliases faults) := by
  intro server
  by_cases hroom : server.containers.size < Memory.capacity
  · simp [Memory.create, hroom]
  · simp [Memory.create, hroom]

theorem createFor_creates (key : ResourceKey) : Creates (createFor key) :=
  create_creates _ _ _

theorem override_creates (override : ContainerOverride) (key : ResourceKey) :
    Creates (override.create key) := by
  unfold ContainerOverride.create
  split
  · intro server
    rfl
  · exact create_creates _ _ _

theorem onServer_sending {α : Type} {task : Memory.Task α} (h : Action.Leaves SameSize task)
    (name : String) (s : State) : Sending s (onServer name task s).2 :=
  setServer_sending (Nat.le_of_eq (h (s.server name)).symm)

/-- What follows a container that is made: it was not there before, and it is there after. -/
def Fresh (server : String) (s : State) (r : Except ContainerError Nat) (s' : State) : Prop :=
  Sending s s' ∧ ∀ index, r = .ok index → ¬ s.Created (server, index) ∧ s'.Created (server, index)

theorem onServer_fresh {name : String} {task : Memory.Task Nat} (h : Creates task) (s : State) :
    (onServer name task).Yields s (Fresh name s) := by
  have htask := h (s.server name)
  unfold Action.Yields Fresh onServer State.Created
  rcases hrun : task (s.server name) with ⟨_ | index, next⟩
  · rw [hrun] at htask
    subst htask
    exact ⟨setServer_sending (Nat.le_refl _), fun _ h => by cases h⟩
  · rw [hrun] at htask
    obtain ⟨rfl, hsize⟩ := htask
    refine ⟨setServer_sending (hsize ▸ Nat.le_succ _), ?_⟩
    rintro _ ⟨⟩
    refine ⟨Nat.lt_irrefl _, ?_⟩
    rw [State.server_setServer, if_pos rfl, hsize]
    exact Nat.lt_succ_self _

theorem createContainer_fresh (backend : Backend) (node : ScopeNode) (key : ResourceKey)
    (s : State) : (createContainer backend node key).Yields s (Fresh backend.server s) := by
  -- with an override or without, the container is noted at the end
  have hlast : ∀ index s', Fresh backend.server s (.ok index) s' →
      (do
        liftM (note (.created backend.server index))
        return index : Action ContainerError Nat).Yields s' (Fresh backend.server s) := by
    rintro index s' ⟨hsend, hfresh⟩
    have hnote := note_sending (Event.neutral_created backend.server index) s'
    refine ⟨hsend.trans hnote, ?_⟩
    rintro _ ⟨⟩
    exact (hfresh index rfl).imp_right fun hthere => hnote.created _ hthere
  unfold createContainer
  refine Action.Yields.get_bind ?_
  cases s.overrides.find? node backend.name with
  | none => exact (onServer_fresh (createFor_creates key) s).bind hlast fun _ _ h => h
  | some override =>
      have hnote := note_sending (Event.neutral_overrideAsked backend.name key) s
      refine Action.Yields.lift_bind (Action.Yields.bind ?_ hlast fun _ _ h => h)
      refine (onServer_fresh (override_creates override key) _).mono ?_
      exact fun r s' h => ⟨hnote.trans h.1, h.2⟩

theorem note_startAsked (server : String) (index : Nat) (s : State) :
    Working [(server, index)] [] s (note (.startAsked server index) s).2 where
  rest := rfl
  starts box := by
    rw [State.starts_note]
    by_cases h : (server, index) = box <;> simp [Event.starts, h]
  stops box := by simp [State.stops_note, Event.stops]
  closings id := by simp [State.closings_note, Event.closes]
  created _ h := h

theorem note_stopAsked (server : String) (index : Nat) (s : State) :
    Working [] [(server, index)] s (note (.stopAsked server index) s).2 where
  rest := rfl
  starts box := by simp [State.starts_note, Event.starts]
  stops box := by
    rw [State.stops_note]
    by_cases h : (server, index) = box <;> simp [Event.stops, h]
  closings id := by simp [State.closings_note, Event.closes]
  created _ h := h

theorem bringUp_working (backend : Backend) (index : Nat) (s : State) :
    (bringUp backend index).Yields s fun _ s' => Working [(backend.server, index)] [] s s' := by
  have hstart := (note_startAsked backend.server index s).trans
    (onServer_sending (start_sameSize index) backend.server _)
  refine Action.Yields.lift_bind (Action.Yields.bind
    (P := fun _ s' => Working [(backend.server, index)] [] s s') hstart ?_ fun _ _ h => h)
  intro _ s₁ hs₁
  have hconnect := hs₁.trans
    (onServer_sending (connect_sameSize index) backend.server s₁)
  exact Action.Yields.bind (P := fun _ s' => Working [(backend.server, index)] [] s s')
    hconnect (fun _ _ h => h) fun _ _ h => h

theorem discard_working (backend : Backend) (index : Nat) (s : State) :
    Working [] [(backend.server, index)] s (discard backend index s).2 := by
  have hnote := note_stopAsked backend.server index s
  have hstop := onServer_sending (stop_sameSize index) backend.server
    (note (.stopAsked backend.server index) s).2
  unfold discard
  simp only [Action.step_bind]
  have hdone := hnote.trans hstop
  cases (onServer backend.server (Memory.stop index)
      (note (.stopAsked backend.server index) s).2).1 with
  | ok _ => exact hdone
  | error error => exact hdone.trans (note_sending (Event.neutral_warned _) _)

/-- The containers that are told to stop when an instance does not get ready. -/
def unready {α : Type} (box : ContainerId) : Except ContainerError α → List ContainerId
  | .ok _ => []
  | .error _ => [box]

theorem bringUpOrDiscard_working (backend : Backend) (index : Nat) (s : State) :
    (bringUpOrDiscard backend index).Yields s fun r s' =>
      Working [(backend.server, index)] (unready (backend.server, index) r) s s' := by
  refine (bringUp_working backend index s).tryCatch (fun _ _ h => h) fun error s' h => ?_
  exact h.trans (discard_working backend index s')

/-- What follows a request for an instance. Either a container is behind the new handle, which was
not there before and was told to start once; or whatever was started was told to stop. -/
def Provisioned (s : State) : Except LifecycleError HandleId → State → Prop
  | .ok id, s' => ∃ box handle s₁, id = s.handles.size ∧ ¬ s.Created box ∧ s₁.Created box ∧
      Working [box] [] s s₁ ∧ handle.container? = some box ∧ handle.stopped = false ∧
      handle.holders = [] ∧ s' = { s₁ with handles := s₁.handles.push handle }
  | .error _, s' => ∃ boxes : List ContainerId, boxes.Nodup ∧
      (∀ box ∈ boxes, ¬ s.Created box ∧ s'.Created box) ∧ Working boxes boxes s s'

theorem provision_provisioned (backend : Backend) (node : ScopeNode) (key : ResourceKey)
    (s : State) : (provision backend node key).Yields s (Provisioned s) := by
  have hrun : (do
      let index ← createContainer backend node key
      let connection ← bringUpOrDiscard backend index
      addHandle (handleOf backend key index connection) :
      Action ContainerError HandleId).Yields s fun r s' =>
        Provisioned s (r.mapError (startError key.image)) s' := by
    refine (createContainer_fresh backend node key s).bind ?_ ?_
    · rintro index s₁ ⟨hsend, hfresh⟩
      obtain ⟨hbefore, hthere⟩ := hfresh index rfl
      refine (bringUpOrDiscard_working backend index s₁).bind ?_ ?_
      · intro connection s₂ hup
        have hwork := hsend.trans hup
        refine ⟨(backend.server, index), handleOf backend key index connection, s₂, ?_, hbefore,
          hup.created _ hthere, hwork, rfl, rfl, rfl, rfl⟩
        exact congrArg Array.size hwork.handles
      · intro error s₂ hup
        refine ⟨[(backend.server, index)], by simp, ?_, hsend.trans hup⟩
        intro box hbox
        obtain rfl := List.mem_singleton.mp hbox
        exact ⟨hbefore, hup.created _ hthere⟩
    · rintro error s₁ ⟨hsend, -⟩
      exact ⟨[], List.nodup_nil, fun _ h => absurd h List.not_mem_nil, hsend⟩
  exact hrun

namespace Provisioned

variable {r : Except LifecycleError HandleId}

theorem registry (h : Provisioned s r s') : s'.registry = s.registry := by
  cases r with
  | error error =>
      obtain ⟨_, -, -, hwork⟩ := h
      exact hwork.registry
  | ok id =>
      obtain ⟨_, _, s₁, -, -, -, hwork, -, -, -, rfl⟩ := h
      exact hwork.registry

/-- The new handle is the last one, and it is live. -/
theorem made {id : HandleId} (h : Provisioned s (.ok id) s') :
    id = s.handles.size ∧ s'.handles.size = s.handles.size + 1 ∧
      (s'.handle id).stopped = false := by
  obtain ⟨_, handle, s₁, rfl, -, -, hwork, -, hlive, -, rfl⟩ := h
  have hsize : s₁.handles.size = s.handles.size := congrArg Array.size hwork.handles
  refine ⟨rfl, ?_, ?_⟩
  · rw [Array.size_push, hsize]
  · rw [State.handle_push, if_pos hsize.symm, hlive]

theorem size_le (h : Provisioned s r s') : s.handles.size ≤ s'.handles.size := by
  cases r with
  | error error =>
      obtain ⟨_, -, -, hwork⟩ := h
      exact Nat.le_of_eq (congrArg Array.size hwork.handles).symm
  | ok id =>
      rw [h.made.2.1]
      exact Nat.le_succ _

/-- Handles that are there stay as they are. -/
theorem handle_eq (h : Provisioned s r s') {id : HandleId} (hid : id < s.handles.size) :
    s'.handle id = s.handle id := by
  cases r with
  | error error =>
      obtain ⟨_, -, -, hwork⟩ := h
      exact hwork.handle id
  | ok made =>
      obtain ⟨_, _, s₁, -, -, -, hwork, -, -, -, rfl⟩ := h
      have hsize : s₁.handles.size = s.handles.size := congrArg Array.size hwork.handles
      have hold : id ≠ s₁.handles.size := Nat.ne_of_lt (hsize.symm ▸ hid)
      rw [State.handle_push, if_neg hold, hwork.handle]

end Provisioned

/-- The handle of a new instance is that of its container, for the key that was asked for. -/
theorem provision_handleOf (backend : Backend) (node : ScopeNode) (key : ResourceKey) (s : State) :
    (provision backend node key).Yields s fun r s' => ∀ id, r = .ok id →
      ∃ index connection, s'.handle id = handleOf backend key index connection := by
  have hrun : (do
      let index ← createContainer backend node key
      let connection ← bringUpOrDiscard backend index
      addHandle (handleOf backend key index connection) :
      Action ContainerError HandleId).Yields s fun r s' =>
        ∀ id, r.mapError (startError key.image) = .ok id →
          ∃ index connection, s'.handle id = handleOf backend key index connection := by
    refine Action.Yields.bind (P := fun _ _ => True) trivial ?_ fun _ _ _ _ h => by cases h
    intro index s₁ _
    refine Action.Yields.bind (P := fun _ _ => True) trivial ?_ fun _ _ _ _ h => by cases h
    rintro connection s₂ - _ ⟨⟩
    refine ⟨index, connection, ?_⟩
    change State.handle { s₂ with handles := s₂.handles.push _ } s₂.handles.size = _
    rw [State.handle_push, if_pos rfl]
  exact hrun

/-! ## Stopping -/

/-- What stopping a handle does: nothing to the others, to nodes or to the registry. -/
structure Stopping (id : HandleId) (s s' : State) : Prop where
  size : s'.handles.size = s.handles.size
  other : ∀ {id'}, id' ≠ id → s'.handle id' = s.handle id'
  stopped : (s'.handle id).stopped = true
  container? : (s'.handle id).container? = (s.handle id).container?
  registry : s'.registry = s.registry
  bindings : s'.bindings = s.bindings
  declarations : s'.declarations = s.declarations
  starts : ∀ box, s'.starts box = s.starts box
  stops : ∀ box, s'.stops box =
    s.stops box + if (s.handle id).container? = some box then 1 else 0
  closings : ∀ id', s'.closings id' = s.closings id' + if id' = id then 1 else 0
  created : ∀ box, s.Created box → s'.Created box

theorem stopHandle_of_stopped {id : HandleId} (h : (s.handle id).stopped = true) :
    stopHandle id s = (.ok (), s) := by
  unfold stopHandle
  simp only [Action.run_bind, Action.run_get, h, if_true]
  rfl

/-- The state after a handle is marked as stopped and its connection is closed. -/
def State.closeHandle (s : State) (id : HandleId) : State :=
  (note (.closed id) (s.modifyHandle id fun handle =>
    { handle with stopped := true, connection := handle.connection.close })).2

theorem State.handle_closeHandle (s : State) (id other : HandleId) :
    (s.closeHandle id).handle other =
      if id = other ∧ other < s.handles.size then
        { s.handle other with stopped := true, connection := (s.handle other).connection.close }
      else s.handle other :=
  s.handle_modifyHandle id other _

theorem stopHandle_of_live {id : HandleId}
    (hlive : (s.handle id).stopped = false) :
    stopHandle id s = match (s.handle id).origin with
      | .external => (.ok (), s.closeHandle id)
      | .container index =>
        onServer (s.handle id).server (Memory.stop index)
          (note (.stopAsked (s.handle id).server index) (s.closeHandle id)).2 := by
  unfold stopHandle
  simp only [Action.run_bind, Action.run_get, hlive]
  cases horigin : (s.handle id).origin <;> rfl

/-- Once a handle that is live is closed, only its container, if it has one, is told to stop. -/
theorem stopHandle_working {id : HandleId} (hlive : (s.handle id).stopped = false) :
    Working [] (s.handle id).container?.toList (s.closeHandle id) (stopHandle id s).2 := by
  rw [stopHandle_of_live hlive]
  unfold Handle.container?
  cases (s.handle id).origin with
  | external => exact Working.refl _
  | container index =>
      exact (note_stopAsked _ index _).trans (onServer_sending (stop_sameSize index) _ _)

/-- Stopping a handle leaves every handle what it is, or marks and closes it. -/
theorem handle_stopHandle_cases (id other : HandleId) (s : State) :
    (stopHandle id s).2.handle other = s.handle other ∨
      (stopHandle id s).2.handle other =
        { s.handle other with
          stopped := true, connection := (s.handle other).connection.close } := by
  cases hstopped : (s.handle id).stopped with
  | true => exact .inl (by rw [stopHandle_of_stopped hstopped])
  | false =>
      rw [(stopHandle_working hstopped).handle, State.handle_closeHandle]
      split
      next => exact .inr rfl
      next => exact .inl rfl

theorem key_stopHandle (id other : HandleId) (s : State) :
    ((stopHandle id s).2.handle other).key = (s.handle other).key := by
  rcases handle_stopHandle_cases id other s with h | h <;> rw [h]

theorem connectionType_stopHandle (id other : HandleId) (s : State) :
    ((stopHandle id s).2.handle other).connectionType = (s.handle other).connectionType := by
  rcases handle_stopHandle_cases id other s with h | h <;> rw [h]

theorem size_stopHandle (id : HandleId) (s : State) :
    (stopHandle id s).2.handles.size = s.handles.size := by
  cases hstopped : (s.handle id).stopped with
  | true => rw [stopHandle_of_stopped hstopped]
  | false =>
      rw [(stopHandle_working hstopped).handles]
      exact s.size_modifyHandle id _

theorem stopHandle_stopping {id : HandleId} (hid : id < s.handles.size)
    (hlive : (s.handle id).stopped = false) : Stopping id s (stopHandle id s).2 := by
  have hwork := stopHandle_working hlive
  have hself : (s.closeHandle id).handle id =
      { s.handle id with stopped := true, connection := (s.handle id).connection.close } := by
    rw [State.handle_closeHandle, if_pos ⟨rfl, hid⟩]
  refine ⟨?_, ?_, ?_, ?_, hwork.registry, hwork.bindings, hwork.declarations, ?_, ?_, ?_, ?_⟩
  · exact size_stopHandle id s
  · intro other hother
    rw [hwork.handle, State.handle_closeHandle, if_neg fun h => hother h.1.symm]
  · rw [hwork.handle, hself]
  · rw [hwork.handle, hself]
    rfl
  · intro box
    rw [hwork.starts, State.closeHandle, State.starts_note]
    rfl
  · intro box
    rw [hwork.stops, State.closeHandle, State.stops_note]
    cases (s.handle id).container? with
    | none => rfl
    | some found =>
        by_cases h : found = box <;> simp [h, State.stops, Event.stops, State.modifyHandle]
  · intro other
    rw [hwork.closings, State.closeHandle, State.closings_note]
    by_cases h : id = other <;>
      simp [h, eq_comm, State.closings, Event.closes, State.modifyHandle]
  · intro box hbox
    exact hwork.created box hbox

end ScopedResources.Lifecycle
