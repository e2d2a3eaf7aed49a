import ScopedResources.Proofs.Entries
import ScopedResources.Proofs.PlanRuns
import ScopedResources.Proofs.State
import ScopedResources.Proofs.Veil

/-!
# Tasks that do not look at a password

Two runs are twins if they show the same: all that their states hold is equal but for the
environments and for the passwords in the parameters of handles. A task conceals the password if it
leaves twins behind it and gives both the same result. Such tasks are closed under all ways to put
tasks together, so it is enough that nothing that stops, makes or uses an instance reads a password.
-/

namespace ScopedResources.Lifecycle

open Override (passwordName)

/-! ## Twins -/

/-- The handle with asterisks in the place of the password. -/
def Handle.veiled (handle : Handle) : Handle :=
  { handle with connection := { handle.connection with params := handle.connection.params.veiled } }

/-- What a run shows: everything but the environment, with asterisks in the place of passwords. -/
def State.veiled (s : State) : State :=
  { s with environment := {}, handles := s.handles.map Handle.veiled }

/-- Two environments that give a backend two passwords and agree on everything else. -/
structure TwoSecrets where
  backend : String
  env : Environment
  env' : Environment
  agree : Environment.AgreeBut (passwordName backend) env env'
  given : (env.nonBlank? (passwordName backend)).isSome
  given' : (env'.nonBlank? (passwordName backend)).isSome
  /-- Containers may be asked for, so the images of declarations may be looked at. -/
  containers : Prop

/-- The image of the declaration does not show the password. -/
def TwoSecrets.Allows (both : TwoSecrets) (decl : Declaration) : Prop :=
  both.containers → ¬ Image.Reads decl.image (passwordName both.backend)

/-- Two runs, one in each environment, that show the same. -/
structure Twins (both : TwoSecrets) (s t : State) : Prop where
  environment : s.environment = both.env
  environment' : t.environment = both.env'
  veiled : t.veiled = s.veiled
  images : ∀ {number decl},
    Assoc.find? (number, both.backend) s.declarations.entries = some decl → both.Allows decl

variable {both : TwoSecrets} {s t : State}

theorem State.handle_veiled (s : State) (id : HandleId) :
    s.veiled.handle id = (s.handle id).veiled := by
  simp only [State.handle, State.veiled, Array.getD_eq_getD_getElem?, Array.getElem?_map]
  cases s.handles[id]? <;> rfl

theorem State.modifyHandle_veiled {change : Handle → Handle}
    (hchange : ∀ handle, (change handle).veiled = change handle.veiled) (s : State)
    (id : HandleId) : (s.modifyHandle id change).veiled = s.veiled.modifyHandle id change := by
  have hhandles : (s.handles.modify id change).map Handle.veiled =
      (s.handles.map Handle.veiled).modify id change := by
    refine Array.ext_getElem? fun other => ?_
    rw [Array.getElem?_map, Array.getElem?_modify, Array.getElem?_modify, Array.getElem?_map]
    split
    · cases s.handles[other]? with
      | none => rfl
      | some handle => exact congrArg some (hchange handle)
    · rfl
  unfold State.modifyHandle State.veiled
  rw [hhandles]

namespace Twins

/-- What is read off a state without the environment and the passwords is the same in both. -/
theorem read {γ : Type} (h : Twins both s t) (read : State → γ)
    (hread : ∀ u, read u.veiled = read u) : read t = read s := by
  rw [← hread t, h.veiled, hread]

theorem files (h : Twins both s t) : t.files = s.files :=
  h.read State.files fun _ => rfl

theorem server (h : Twins both s t) (name : String) : t.server name = s.server name :=
  h.read (fun u => u.server name) fun _ => rfl

theorem registry (h : Twins both s t) : t.registry = s.registry :=
  h.read State.registry fun _ => rfl

theorem declarations (h : Twins both s t) : t.declarations = s.declarations :=
  h.read State.declarations fun _ => rfl

theorem overrides (h : Twins both s t) : t.overrides = s.overrides :=
  h.read State.overrides fun _ => rfl

theorem bindings (h : Twins both s t) : t.bindings = s.bindings :=
  h.read State.bindings fun _ => rfl

theorem finished (h : Twins both s t) : t.finished = s.finished :=
  h.read State.finished fun _ => rfl

theorem warnedKeys (h : Twins both s t) : t.warnedKeys = s.warnedKeys :=
  h.read State.warnedKeys fun _ => rfl

theorem size (h : Twins both s t) : t.handles.size = s.handles.size :=
  h.read (fun u => u.handles.size) fun _ => Array.size_map

theorem handle (h : Twins both s t) (id : HandleId) :
    (t.handle id).veiled = (s.handle id).veiled := by
  rw [← State.handle_veiled, h.veiled, State.handle_veiled]

/-- What is read off a handle without the password is the same in both. -/
theorem readHandle {γ : Type} (h : Twins both s t) (id : HandleId) (read : Handle → γ)
    (hread : ∀ handle : Handle, read handle.veiled = read handle) :
    read (t.handle id) = read (s.handle id) := by
  rw [← hread (t.handle id), h.handle, hread]

theorem key (h : Twins both s t) (id : HandleId) : (t.handle id).key = (s.handle id).key :=
  h.readHandle id Handle.key fun _ => rfl

theorem origin (h : Twins both s t) (id : HandleId) : (t.handle id).origin = (s.handle id).origin :=
  h.readHandle id Handle.origin fun _ => rfl

theorem home (h : Twins both s t) (id : HandleId) : (t.handle id).server = (s.handle id).server :=
  h.readHandle id Handle.server fun _ => rfl

theorem connectionType (h : Twins both s t) (id : HandleId) :
    (t.handle id).connectionType = (s.handle id).connectionType :=
  h.readHandle id Handle.connectionType fun _ => rfl

theorem stopped (h : Twins both s t) (id : HandleId) :
    (t.handle id).stopped = (s.handle id).stopped :=
  h.readHandle id Handle.stopped fun _ => rfl

theorem holders (h : Twins both s t) (id : HandleId) :
    (t.handle id).holders = (s.handle id).holders :=
  h.readHandle id Handle.holders fun _ => rfl

theorem closed (h : Twins both s t) (id : HandleId) :
    (t.handle id).connection.closed = (s.handle id).connection.closed :=
  h.readHandle id (fun handle => handle.connection.closed) fun _ => rfl

theorem target (h : Twins both s t) (id : HandleId) :
    (t.handle id).connection.target = (s.handle id).connection.target :=
  h.readHandle id (fun handle => handle.connection.target) fun _ => rfl

theorem params (h : Twins both s t) (id : HandleId) :
    (t.handle id).connection.params.veiled = (s.handle id).connection.params.veiled :=
  congrArg (fun handle => handle.connection.params) (h.handle id)

theorem live? (h : Twins both s t) (backend : String) (key : ResourceKey) :
    t.live? backend key = s.live? backend key := by
  unfold State.live?
  simp only [h.registry, h.stopped]

/-- A statement goes where it would go for the other password. -/
theorem execute (h : Twins both s t) (id : HandleId) (server : Memory.Server) (statement : String) :
    (t.handle id).connection.execute server statement =
      (s.handle id).connection.execute server statement := by
  unfold Memory.Connection.execute
  rw [h.closed, h.target]

/-- A change that reads neither the environment nor a password. -/
theorem map (h : Twins both s t) (f : State → State)
    (hveiled : ∀ s, (f s).veiled = f s.veiled)
    (henvironment : ∀ s, (f s).environment = s.environment)
    (hdeclarations : ∀ s, (f s).declarations = s.declarations) : Twins both (f s) (f t) where
  environment := (henvironment s).trans h.environment
  environment' := (henvironment t).trans h.environment'
  veiled := by rw [hveiled, hveiled, h.veiled]
  images hfound := h.images (by rwa [hdeclarations] at hfound)

theorem setServer (h : Twins both s t) (name : String) (server : Memory.Server) :
    Twins both (s.setServer name server) (t.setServer name server) :=
  h.map (fun u => u.setServer name server) (fun _ => rfl) (fun _ => rfl) fun _ => rfl

theorem clearNode (h : Twins both s t) (node : ScopeNode) :
    Twins both (s.clearNode node) (t.clearNode node) where
  environment := h.environment
  environment' := h.environment'
  veiled := congrArg (fun u => u.clearNode node) h.veiled
  images hfound := h.images (Store.find?_of_clear hfound)

theorem addHandle (h : Twins both s t) {handle handle' : Handle}
    (hhandle : handle'.veiled = handle.veiled) :
    Twins both { s with handles := s.handles.push handle }
      { t with handles := t.handles.push handle' } where
  environment := h.environment
  environment' := h.environment'
  veiled := by
    have hpush : ∀ (u : State) (handle : Handle),
        ({ u with handles := u.handles.push handle } : State).veiled =
        { u.veiled with handles := u.veiled.handles.push handle.veiled } := by
      intro u handle
      unfold State.veiled
      rw [Array.map_push]
    rw [hpush, hpush, h.veiled, hhandle]
  images := h.images

end Twins

/-! ## Concealing a password -/

variable {α β ε : Type}

/-- Two tasks that leave twins behind them and have the same result. -/
def Matches (both : TwoSecrets) (s t : State) (x y : State → α × State) : Prop :=
  Twins both (x s).2 (y t).2 ∧ (y t).1 = (x s).1

/-- What is done leaves twins behind it and gives both the same. -/
def Veils (both : TwoSecrets) (x : StateM State α) : Prop :=
  ∀ s t, Twins both s t → Matches both s t x x

/-- The same for what may fail. -/
def Conceals (both : TwoSecrets) (x : Action ε α) : Prop :=
  ∀ s t, Twins both s t → Matches both s t x x

namespace Matches

/-- The runs of the two tasks, side by side. -/
theorem runs {x y : State → α × State} (h : Matches both s t x y) :
    ∃ r s' t', x s = (r, s') ∧ y t = (r, t') ∧ Twins both s' t' :=
  ⟨(x s).1, (x s).2, (y t).2, rfl, Prod.ext h.2 rfl, h.1⟩

theorem get_bind {f g : State → Action ε β} (h : Matches both s t (f s) (g t)) :
    Matches both s t (get >>= f : Action ε β) (get >>= g : Action ε β) :=
  h

theorem bind {x y : Action ε α} {f : α → Action ε β} (hxy : Matches both s t x y)
    (hf : ∀ a, (x s).1 = .ok a → Conceals both (f a)) : Matches both s t (x >>= f) (y >>= f) := by
  obtain ⟨r, s', t', hx, hy, htwins⟩ := hxy.runs
  unfold Matches
  rw [Action.run_bind, Action.run_bind, hx, hy]
  cases r with
  | ok a => exact hf a (by rw [hx]) s' t' htwins
  | error e => exact ⟨htwins, rfl⟩

end Matches

namespace Veils

theorem pure (a : α) : Veils both (pure a) :=
  fun _ _ h => ⟨h, rfl⟩

theorem bind {x : StateM State α} {f : α → StateM State β} (hx : Veils both x)
    (hf : ∀ a, Veils both (f a)) : Veils both (x >>= f) := by
  intro s t h
  obtain ⟨htwins, hresult⟩ := hx s t h
  have hnext := hf (x s).1 _ _ htwins
  unfold Matches
  rw [Action.step_bind, Action.step_bind, hresult]
  exact hnext

theorem get_bind {f : State → StateM State β}
    (hf : ∀ {s t}, Twins both s t → f t = f s ∧ Veils both (f s)) : Veils both (get >>= f) := by
  intro s t h
  obtain ⟨hsame, hnext⟩ := hf h
  change Matches both s t (f s) (f t)
  rw [hsame]
  exact hnext s t h

theorem change {f : State → State} (hveiled : ∀ s, (f s).veiled = f s.veiled)
    (henvironment : ∀ s, (f s).environment = s.environment)
    (hdeclarations : ∀ s, (f s).declarations = s.declarations) :
    Veils both (modify f : StateM State Unit) :=
  fun _ _ h => ⟨h.map f hveiled henvironment hdeclarations, rfl⟩

theorem modifyHandle {f : Handle → Handle} (hveiled : ∀ handle, (f handle).veiled = f handle.veiled)
    (id : HandleId) : Veils both (modify (·.modifyHandle id f) : StateM State Unit) :=
  change (fun s => State.modifyHandle_veiled hveiled s id) (fun _ => rfl) fun _ => rfl

end Veils

namespace Conceals

theorem pure (a : α) : Conceals both (pure a : Action ε α) :=
  fun _ _ h => ⟨h, rfl⟩

theorem throw (e : ε) : Conceals both (throw e : Action ε α) :=
  fun _ _ h => ⟨h, rfl⟩

/-- What comes next may rely on the result. -/
theorem bind_of {x : Action ε α} {f : α → Action ε β} (hx : Conceals both x)
    (hf : ∀ {s t a}, Twins both s t → (x s).1 = .ok a → Conceals both (f a)) :
    Conceals both (x >>= f) :=
  fun s t h => (hx s t h).bind fun _ hresult => hf h hresult

theorem bind {x : Action ε α} {f : α → Action ε β} (hx : Conceals both x)
    (hf : ∀ a, Conceals both (f a)) : Conceals both (x >>= f) :=
  bind_of hx fun _ _ => hf _

theorem get_bind {f : State → Action ε β}
    (hf : ∀ {s t}, Twins both s t → f t = f s ∧ Conceals both (f s)) :
    Conceals both (get >>= f) := by
  intro s t h
  obtain ⟨hsame, hnext⟩ := hf h
  change Matches both s t (f s) (f t)
  rw [hsame]
  exact hnext s t h

theorem lift {x : StateM State α} (hx : Veils both x) : Conceals both (liftM x : Action ε α) := by
  intro s t h
  obtain ⟨htwins, hresult⟩ := hx s t h
  exact ⟨htwins, congrArg Except.ok hresult⟩

theorem except_bind {x : Except ε α} {f : α → Action ε β}
    (hf : ∀ a, x = .ok a → Conceals both (f a)) : Conceals both (liftM x >>= f) := by
  cases x with
  | ok a => exact hf a rfl
  | error e => exact throw e

theorem tryCatch {x : Action ε α} {handler : ε → Action ε α} (hx : Conceals both x)
    (hf : ∀ e, Conceals both (handler e)) : Conceals both (tryCatch x handler) := by
  intro s t h
  obtain ⟨r, s', t', hs, ht, htwins⟩ := (hx s t h).runs
  unfold Matches
  rw [Action.run_tryCatch, Action.run_tryCatch, hs, ht]
  cases r with
  | ok a => exact ⟨htwins, rfl⟩
  | error e => exact hf e s' t' htwins

theorem adapt {ε' : Type} {x : Action ε α} (f : ε → ε') (hx : Conceals both x) :
    Conceals both (ExceptT.adapt f x) := by
  intro s t h
  obtain ⟨htwins, hresult⟩ := hx s t h
  exact ⟨htwins, congrArg (Except.mapError f) hresult⟩

end Conceals

/-! ## Using an instance -/

theorem note_veils (event : Event) : Veils both (note event) :=
  .change (fun _ => rfl) (fun _ => rfl) fun _ => rfl

theorem note_conceals (event : Event) : Conceals both (liftM (note event) : Action ε Unit) :=
  .lift (note_veils event)

theorem onServer_conceals (name : String) (task : Memory.Task α) :
    Conceals both (onServer name task) := by
  intro s t h
  change Twins both (s.setServer name (task (s.server name)).2)
      (t.setServer name (task (t.server name)).2) ∧
    (task (t.server name)).1 = (task (s.server name)).1
  rw [h.server]
  exact ⟨h.setServer name _, rfl⟩

theorem send_veils (id : HandleId) (statement : String) : Veils both (send id statement) := by
  unfold send
  refine .bind (note_veils _) fun _ => ?_
  intro s t h
  simp only [Matches, Action.step_bind, Action.step_get]
  rw [h.home, h.server, h.execute]
  generalize (s.handle id).connection.execute (s.server (s.handle id).server) statement = sent
  cases sent with
  | ok server => exact ⟨h.setServer _ server, rfl⟩
  | error error => exact ⟨h, rfl⟩

theorem sendAll_veils (id : HandleId) (steps : List Migration.Step) :
    Veils both (Migration.Plan.sendAll (send id) steps) := by
  induction steps with
  | nil => exact .pure _
  | cons step rest ih =>
      refine .bind (send_veils id step.statement) fun sent => ?_
      cases sent with
      | ok _ => exact ih
      | error error => exact .pure _

theorem warnAll_conceals (warnings : List Warning) :
    Conceals both (forIn warnings PUnit.unit fun warning _ => do
        liftM (note (.warned warning))
        pure (ForInStep.yield PUnit.unit) : Action LifecycleError PUnit) := by
  induction warnings with
  | nil => exact .pure _
  | cons warning rest ih =>
      rw [List.forIn_cons]
      refine .bind (.bind (note_conceals _) fun _ => .pure _) fun step => ?_
      cases step with
      | done _ => exact .pure _
      | yield _ => exact ih

theorem migrate_conceals (direction : Migration.Direction) (root : String) (id : HandleId)
    (policy : Migration.Policy) : Conceals both (migrate direction root id policy) := by
  unfold migrate
  refine .get_bind fun h => ⟨by rw [h.files], ?_⟩
  refine .bind (warnAll_conceals _) fun _ => ?_
  rw [Migration.run_of_sendAll]
  refine Veils.bind (sendAll_veils id _) fun sent => ?_
  cases sent <;> exact .pure _

theorem setHolders_conceals (id : HandleId)
    (change : Assoc MigrationSet Nat → Assoc MigrationSet Nat) :
    Conceals both (liftM (modify (·.modifyHandle id fun handle =>
      { handle with holders := change handle.holders }) : StateM State Unit) : Action ε Unit) :=
  .lift (.modifyHandle (fun _ => by rfl) id)

theorem acquire_conceals (root : String) (id : HandleId) (policy : Migration.Policy) :
    Conceals both (acquire root id policy) := by
  unfold acquire
  refine .get_bind fun h => ⟨by rw [h.holders], ?_⟩
  dsimp only
  split
  · exact .bind (migrate_conceals .apply root id policy) fun _ => setHolders_conceals id _
  · exact setHolders_conceals id _

theorem release_conceals (root : String) (id : HandleId) (policy : Migration.Policy) :
    Conceals both (release root id policy) := by
  unfold release
  refine .get_bind fun h => ⟨by rw [h.holders], ?_⟩
  dsimp only
  split
  · exact setHolders_conceals id _
  · exact .bind (setHolders_conceals id _) fun _ => migrate_conceals .drop root id policy

/-! ## Stopping -/

theorem stopHandle_conceals (id : HandleId) : Conceals both (stopHandle id) := by
  unfold stopHandle
  refine .get_bind fun {s t} h => ⟨by dsimp only; rw [h.stopped, h.origin, h.home], ?_⟩
  dsimp only
  split
  · exact .pure _
  · refine .bind (.lift (.modifyHandle (fun _ => by rfl) id)) fun _ => ?_
    refine .bind (note_conceals _) fun _ => ?_
    split
    · exact .pure _
    · exact .bind (note_conceals _) fun _ => onServer_conceals _ _

theorem stopOrWarn_veils (id : HandleId) : Veils both (stopOrWarn id) := by
  unfold stopOrWarn
  refine .bind (stopHandle_conceals id) fun stopped => ?_
  cases stopped with
  | ok _ => exact .pure _
  | error error => exact .get_bind fun h => ⟨by rw [h.key], note_veils _⟩

/-! ## Making -/

theorem createContainer_conceals (backend : Backend) (node : ScopeNode) (key : ResourceKey) :
    Conceals both (createContainer backend node key) := by
  unfold createContainer
  refine .get_bind fun h => ⟨by rw [h.overrides], ?_⟩
  split
  · refine .bind (note_conceals _) fun _ => .bind (onServer_conceals _ _) fun index => ?_
    exact .bind (note_conceals _) fun _ => .pure index
  · refine .bind (onServer_conceals _ _) fun index => ?_
    exact .bind (note_conceals _) fun _ => .pure index

theorem bringUp_conceals (backend : Backend) (index : Nat) :
    Conceals both (bringUp backend index) :=
  .bind (note_conceals _) fun _ => .bind (onServer_conceals _ _) fun _ =>
    .bind (onServer_conceals _ _) fun _ => .pure _

theorem discard_veils (backend : Backend) (index : Nat) : Veils both (discard backend index) := by
  unfold discard
  refine .bind (note_veils _) fun _ => .bind (onServer_conceals _ _) fun stopped => ?_
  cases stopped with
  | ok _ => exact .pure _
  | error error => exact .get_bind fun h => ⟨by rw [h.server], note_veils _⟩

theorem bringUpOrDiscard_conceals (backend : Backend) (index : Nat) :
    Conceals both (bringUpOrDiscard backend index) :=
  .tryCatch (bringUp_conceals backend index) fun error =>
    .bind (.lift (discard_veils backend index)) fun _ => .throw error

theorem addHandle_matches (h : Twins both s t) {handle handle' : Handle}
    (hhandle : handle'.veiled = handle.veiled) :
    Matches both s t (addHandle handle) (addHandle handle') :=
  ⟨h.addHandle hhandle, h.size⟩

theorem provision_conceals (backend : Backend) (node : ScopeNode) (key : ResourceKey) :
    Conceals both (provision backend node key) := by
  unfold provision
  refine .adapt _ (.bind (createContainer_conceals backend node key) fun index => ?_)
  refine .bind (bringUpOrDiscard_conceals backend index) fun connection => ?_
  exact .lift fun _ _ h => addHandle_matches h rfl

/-! ## The registry -/

theorem ofType_conceals (backend connectionType : String) (id : HandleId) :
    Conceals both (ofType backend connectionType id) := by
  unfold ofType
  refine .get_bind fun h => ⟨by rw [h.connectionType], ?_⟩
  split
  · exact .pure _
  · exact .throw _

theorem getOrCreate_matches (h : Twins both s t) (backend connectionType : String)
    (key : ResourceKey) {factory factory' : Action LifecycleError HandleId}
    (hfactory : Matches both s t factory factory') :
    Matches both s t (getOrCreate backend connectionType key factory)
      (getOrCreate backend connectionType key factory') := by
  unfold getOrCreate
  refine .get_bind ?_
  rw [h.live?]
  cases s.live? backend key with
  | some id =>
      exact (Conceals.bind (ofType_conceals backend connectionType id) fun _ => .pure _) s t h
  | none =>
      refine hfactory.bind fun id _ => .bind (.lift ?_) fun _ => .pure _
      exact .change (fun _ => rfl) (fun _ => rfl) fun _ => rfl

theorem getOrCreate_conceals (backend connectionType : String) (key : ResourceKey)
    {factory : Action LifecycleError HandleId} (hfactory : Conceals both factory) :
    Conceals both (getOrCreate backend connectionType key factory) :=
  fun s t h => getOrCreate_matches h backend connectionType key (hfactory s t h)

theorem shutdownOne_veils (report : Report) (id : HandleId) :
    Veils both (shutdownOne report id) := by
  unfold shutdownOne
  refine .get_bind fun h => ⟨by dsimp only; rw [h.stopped, h.key], ?_⟩
  dsimp only
  split
  · exact .pure _
  · refine .bind (stopHandle_conceals id) fun stopped => ?_
    cases stopped with
    | ok _ => exact .pure _
    | error error => exact .bind (note_veils _) fun _ => .pure _

theorem shutdownAll_veils (report : Report) (ids : List HandleId) :
    Veils both (ids.foldlM shutdownOne report) := by
  induction ids generalizing report with
  | nil => exact .pure _
  | cons id rest ih =>
      rw [List.foldlM_cons]
      exact .bind (shutdownOne_veils report id) fun report => ih report

theorem shutdown_veils : Veils both shutdown := by
  unfold shutdown
  refine .get_bind fun h => ⟨by rw [h.registry], ?_⟩
  exact .bind (.change (fun _ => rfl) (fun _ => rfl) fun _ => rfl) fun _ => shutdownAll_veils _ _

theorem finishRun_veils (root : ScopeNode) : Veils both (finishRun root) := by
  unfold finishRun
  refine .bind shutdown_veils fun report => .bind ?_ fun _ => .pure _
  exact fun _ _ h => ⟨h.clearNode root, rfl⟩

end ScopedResources.Lifecycle
