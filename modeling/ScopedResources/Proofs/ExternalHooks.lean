import ScopedResources.Proofs.OtherBackends

/-!
# External instances in place of containers

Where the same external instance is found whenever one is looked for, a backend makes no containers.
The first hook that needs an instance adopts the external one, and every node that is bound after
that is bound to the one handle for it. No node owns the handle, so no after-hook stops it;
migrations send their statements through it. -/

namespace ScopedResources.Lifecycle

variable {tree : ScopeTree} {name : String} {params : ConnectionParams} {s s' s'' : State}
variable {node : ScopeNode} {id : HandleId}

/-! ## Statements of an external instance -/

/-- The journal goes on with events of this kind. -/
def Logs (allowed : Event → Prop) (s s' : State) : Prop :=
  ∃ events, s'.journal = s.journal ++ events ∧ ∀ event ∈ events, allowed event

namespace Logs

variable {allowed allowed' : Event → Prop}

theorem of_same (h : s'.journal = s.journal) : Logs allowed s s' :=
  ⟨[], by rw [h, List.append_nil], fun _ hmem => absurd hmem List.not_mem_nil⟩

theorem note {event : Event} (h : allowed event) (s : State) : Logs allowed s (note event s).2 := by
  refine ⟨[event], rfl, fun found hmem => ?_⟩
  rwa [List.mem_singleton.mp hmem]

theorem trans (h : Logs allowed s s') (h' : Logs allowed s' s'') : Logs allowed s s'' := by
  obtain ⟨first, hfirst, hall⟩ := h
  obtain ⟨second, hsecond, hall'⟩ := h'
  refine ⟨first ++ second, by rw [hsecond, hfirst, List.append_assoc], fun event hmem => ?_⟩
  exact (List.mem_append.mp hmem).elim (hall event) (hall' event)

theorem mono (h : Logs allowed s s') (himp : ∀ event, allowed event → allowed' event) :
    Logs allowed' s s' := by
  obtain ⟨events, hevents, hall⟩ := h
  exact ⟨events, hevents, fun event hmem => himp event (hall event hmem)⟩

end Logs

/-- A warning, or a statement through a handle that may be used. -/
def Event.Through (used : HandleId → Prop) : Event → Prop
  | .warned _ => True
  | .sent id _ => used id
  | _ => False

theorem Event.Through.mono {used used' : HandleId → Prop} {event : Event} (h : event.Through used)
    (himp : ∀ id, used id → used' id) : event.Through used' := by
  cases event with
  | sent id _ => exact himp id h
  | _ => exact h

/-- On every server only the databases that are managed elsewhere may differ. -/
def SameContainers (s s' : State) : Prop :=
  ∀ name, s'.server name = { s.server name with external := (s'.server name).external }

namespace SameContainers

theorem of_same (h : s'.servers = s.servers) : SameContainers s s' := by
  intro name
  have hserver : s'.server name = s.server name := by rw [State.server, State.server, h]
  rw [hserver]

theorem trans (h : SameContainers s s') (h' : SameContainers s' s'') : SameContainers s s'' := by
  intro name
  rw [h' name, h name]

theorem setServer {name : String} {server : Memory.Server}
    (h : server = { s.server name with external := server.external }) :
    SameContainers s (s.setServer name server) := by
  intro other
  rw [State.server_setServer]
  split
  next hname => rwa [← hname]
  next => rfl

end SameContainers

/-- A statement that is not for a container reaches no container. -/
theorem execute_external {connection : Memory.Connection} {server next : Memory.Server}
    {statement : String} (hnot : ∀ index, connection.target ≠ .container index)
    (h : connection.execute server statement = .ok next) :
    next = { server with external := next.external } := by
  unfold Memory.Connection.execute Memory.Server.execute at h
  split at h
  · cases h
  · cases htarget : connection.target with
    | container index => exact absurd htarget (hnot index)
    | nowhere =>
        rw [htarget] at h
        cases h
        rfl
    | external port =>
        rw [htarget] at h
        dsimp only at h
        split at h
        · cases h
          rfl
        · cases h

/-- A task for a handle sends statements through no other one, and unless the handle is in front of
a container it reaches none. -/
structure Attending (id : HandleId) (s s' : State) : Prop extends Tending s s' where
  journal : Logs (Event.Through (· = id)) s s'
  containers : (∀ index, (s.handle id).connection.target ≠ .container index) → SameContainers s s'

namespace Attending

theorem refl (id : HandleId) (s : State) : Attending id s s :=
  ⟨Tending.refl s, .of_same rfl, fun _ => .of_same rfl⟩

theorem trans (h : Attending id s s') (h' : Attending id s' s'') : Attending id s s'' where
  toTending := h.toTending.trans h'.toTending
  journal := h.journal.trans h'.journal
  containers hnot := by
    have hbare := congrArg (·.connection.target) (h.bare id)
    have htarget : (s'.handle id).connection.target = (s.handle id).connection.target := hbare
    refine (h.containers hnot).trans (h'.containers fun index => ?_)
    rw [htarget]
    exact hnot index

end Attending

theorem note_warned_attending (id : HandleId) (warning : Warning) (s : State) :
    Attending id s (note (.warned warning) s).2 :=
  ⟨(note_sending (Event.neutral_warned warning) s).tending, .note trivial s, fun _ => .of_same rfl⟩

theorem send_attending (id : HandleId) (statement : String) (s : State) :
    Attending id s (send id statement s).2 := by
  have hallowed : (Event.sent id statement).Through (· = id) := rfl
  have hnote := Logs.note hallowed s
  have htend := (send_sending id statement s).tending
  unfold send at htend ⊢
  simp only [Action.step_bind, Action.step_get] at htend ⊢
  -- the statement is noted before it is executed
  generalize hnoted : (note (.sent id statement) s).2 = noted at hnote htend ⊢
  have hsame : SameContainers s noted := by
    rw [← hnoted]
    exact .of_same rfl
  cases hrun : (noted.handle id).connection.execute
      (noted.server (noted.handle id).server) statement with
  | error error =>
      rw [hrun] at htend
      exact ⟨htend, hnote, fun _ => hsame⟩
  | ok server =>
      rw [hrun] at htend
      refine ⟨htend, hnote.trans (.of_same rfl), fun hnot => ?_⟩
      refine hsame.trans (.setServer (execute_external (fun index => ?_) hrun))
      rw [← hnoted]
      exact hnot index

theorem Coordinator.attending_tends (c : Coordinator) (id : HandleId) :
    c.Tends id (Attending id) where
  refl := .refl id
  trans := .trans
  migrate direction policy := migrate_leaves (Attending.refl id) .trans
    (note_warned_attending id) (send_attending id) direction c.migrationRoot policy
  counted s change := ⟨modifyHolders_tending s id change, .of_same rfl, fun _ => .of_same rfl⟩

/-! ## The instance and who uses it -/

/-- The handle that is registered for an external instance of a backend. -/
def State.external? (s : State) (name : String) (params : ConnectionParams) : Option HandleId :=
  Assoc.find? (name, Coordinator.externalKey params) s.registry

/-- A live handle with an open connection to an external instance. -/
structure State.Reaches (s : State) (params : ConnectionParams) (id : HandleId) : Prop where
  known : id < s.handles.size
  live : (s.handle id).stopped = false
  origin : (s.handle id).origin = .external
  described : (s.handle id).connection.params = params
  opened : (s.handle id).connection.closed = false
  target : (s.handle id).connection.target = .external params.port ∨
    (s.handle id).connection.target = .nowhere

theorem State.Reaches.congr (h : s.Reaches params id) (hsize : s.handles.size ≤ s'.handles.size)
    (hbare : (s'.handle id).bare = (s.handle id).bare) : s'.Reaches params id := by
  have hstopped := congrArg Handle.stopped hbare
  have horigin := congrArg Handle.origin hbare
  have hconnection := congrArg Handle.connection hbare
  change (s'.handle id).connection = (s.handle id).connection at hconnection
  refine ⟨Nat.lt_of_lt_of_le h.known hsize, Eq.trans hstopped h.live, Eq.trans horigin h.origin, ?_,
    ?_, ?_⟩
  all_goals rw [hconnection]
  · exact h.described
  · exact h.opened
  · exact h.target

theorem State.Reaches.not_container (h : s.Reaches params id) (index : Nat) :
    (s.handle id).connection.target ≠ .container index := by
  rcases h.target with htarget | htarget <;> rw [htarget] <;> exact nofun

/-- An external instance has taken the place of all containers of a backend: it is all that is
registered, and all that nodes are bound to, though they do not own it. -/
structure Replaced (tree : ScopeTree) (name : String) (params : ConnectionParams) (s : State) :
    Prop where
  registered : ∀ {key id}, Assoc.find? (name, key) s.registry = some id →
    key = Coordinator.externalKey params ∧ s.Reaches params id
  bound : ∀ {number connectionType binding},
    Assoc.find? (number, (name, connectionType)) s.bindings.entries = some binding →
    s.external? name params = some binding.handle ∧ binding.ownership ≠ .owned
  classes : ∀ {node connectionType binding}, node ∈ tree → node.kind = .testClass →
    Assoc.find? (node.number, (name, connectionType)) s.bindings.entries = some binding →
    binding.ownership = .shared

/-- What is done for a backend that uses an external instance: there are warnings, and statements
through the handle for the instance, but no container is as much as looked at. -/
structure Served (name : String) (params : ConnectionParams) (s s' : State) : Prop where
  journal : Logs (Event.Through fun id => s'.external? name params = some id) s s'
  containers : SameContainers s s'
  external? : ∀ {id}, s.external? name params = some id → s'.external? name params = some id

namespace Served

theorem of_same (hjournal : s'.journal = s.journal) (hservers : s'.servers = s.servers)
    (hregistry : s'.registry = s.registry) : Served name params s s' where
  journal := .of_same hjournal
  containers := .of_same hservers
  external? hid := by rwa [State.external?, hregistry]

theorem refl (name : String) (params : ConnectionParams) (s : State) : Served name params s s :=
  .of_same rfl rfl rfl

theorem trans (h : Served name params s s') (h' : Served name params s' s'') :
    Served name params s s'' where
  journal := (h.journal.mono fun _ hevent => hevent.mono fun _ => h'.external?).trans h'.journal
  containers := h.containers.trans h'.containers
  external? hid := h'.external? (h.external? hid)

end Served

namespace Replaced

theorem reaches (h : Replaced tree name params s) (hid : s.external? name params = some id) :
    s.Reaches params id :=
  (h.registered hid).2

/-- What is registered is live, so it is found. -/
theorem live? (h : Replaced tree name params s) :
    s.live? name (Coordinator.externalKey params) = s.external? name params := by
  unfold State.live? State.external?
  cases hfound : Assoc.find? (name, Coordinator.externalKey params) s.registry with
  | none => rfl
  | some id => exact if_pos (by simp [(h.registered hfound).2.live])

/-- The instance stays where registry and bindings of the backend stay, and its handle does. -/
theorem of_same (h : Replaced tree name params s) (hsize : s.handles.size ≤ s'.handles.size)
    (hregistry : ∀ key, Assoc.find? (name, key) s'.registry = Assoc.find? (name, key) s.registry)
    (hbindings : ∀ number connectionType binding,
      Assoc.find? (number, (name, connectionType)) s'.bindings.entries = some binding →
      Assoc.find? (number, (name, connectionType)) s.bindings.entries = some binding)
    (hbare : ∀ {id}, s.external? name params = some id →
      (s'.handle id).bare = (s.handle id).bare) : Replaced tree name params s' where
  registered {key id} hfound := by
    rw [hregistry] at hfound
    obtain ⟨rfl, hreaches⟩ := h.registered hfound
    exact ⟨rfl, hreaches.congr hsize (hbare hfound)⟩
  bound hfound := by
    rw [State.external?, hregistry]
    exact h.bound (hbindings _ _ _ hfound)
  classes hmem hkind hfound := h.classes hmem hkind (hbindings _ _ _ hfound)

theorem quiet (h : Replaced tree name params s) (hs : Quiet s s') :
    Replaced tree name params s' := by
  refine h.of_same (Nat.le_of_eq hs.size.symm) (fun _ => by rw [hs.registry]) ?_ fun _ => hs.bare _
  intro number connectionType binding hfound
  rwa [hs.bindings] at hfound

end Replaced

theorem Attending.served (hs : Attending id s s') (h : Replaced tree name params s)
    (hid : s.external? name params = some id) : Served name params s s' where
  journal := by
    refine hs.journal.mono fun event hevent => hevent.mono fun other hother => ?_
    rw [hother, State.external?, hs.registry]
    exact hid
  containers := hs.containers (h.reaches hid).not_container
  external? hfound := by rwa [State.external?, hs.registry]

/-- What a node of the backend is given is the external instance, and a class shares it. -/
structure Given (name : String) (params : ConnectionParams) (node : ScopeNode) (binding : Binding)
    (s : State) : Prop where
  external? : s.external? name params = some binding.handle
  notOwned : binding.ownership ≠ .owned
  shared : node.kind = .testClass → binding.ownership = .shared

/-- An instance is obtained, or not, with the external one in the place of all containers. -/
def Furnished (tree : ScopeTree) (name : String) (params : ConnectionParams) (node : ScopeNode)
    (s : State) (r : Except LifecycleError Binding) (s' : State) : Prop :=
  Replaced tree name params s' ∧ Served name params s s' ∧
    ∀ binding, r = .ok binding → Given name params node binding s'

theorem Furnished.failed {error : LifecycleError} (h : Replaced tree name params s')
    (hserved : Served name params s s') : Furnished tree name params node s (.error error) s' :=
  ⟨h, hserved, fun _ heq => by cases heq⟩

namespace Coordinator

variable (c : Coordinator) {decl : Declaration} {binding : Binding}

/-! ## Looking for the instance -/

/-- Whoever looks for an external instance now finds the one with these parameters. -/
def Finds (params : ConnectionParams) (s : State) : Prop :=
  c.external.decide s.environment c.backend.name c.backend.scheme = .ok (.external params)

/-- A state in which an external instance was adopted. -/
def adopted (params : ConnectionParams) (connection : Memory.Connection) (s : State) : State :=
  State.register
    { s with handles := s.handles.push (externalHandle c.backend (externalKey params) connection) }
    c.backend.name (externalKey params) s.handles.size

/-- What looking for an external instance comes to where there is one. -/
inductive Adopts (params : ConnectionParams) (s : State) :
    Except LifecycleError (Option HandleId) → State → Prop where
  | refused (error : LifecycleError) : Adopts params s (.error error) s
  | found {id : HandleId} (hfound : s.external? c.backend.name params = some id) :
    Adopts params s (.ok (some id)) s
  | made {connection : Memory.Connection} (hnone : s.external? c.backend.name params = none)
    (hconnect : c.backend.connectExternal params = .ok connection) :
    Adopts params s (.ok (some s.handles.size)) (c.adopted params connection s)

theorem externalParams?_of_finds (hfinds : c.Finds params s) :
    c.externalParams? s = (.ok (some params), s) := by
  unfold Finds at hfinds
  unfold externalParams?
  simp only [Action.run_bind, Action.run_get, hfinds]
  rfl

theorem external?_adopts (h : Replaced tree c.backend.name params s) (hfinds : c.Finds params s) :
    c.external?.Yields s (c.Adopts params s) := by
  have hlive := h.live?
  have hadopt : (c.adoptExternal params).Yields s fun r s' =>
      (∃ error, r = .error error ∧ s' = s) ∨ ∃ connection, r = .ok s.handles.size ∧
        c.backend.connectExternal params = .ok connection ∧
        s'.register c.backend.name (externalKey params) s.handles.size =
          c.adopted params connection s := by
    unfold adoptExternal
    cases c.backend.connectExternal params with
    | error error => exact .inl ⟨_, rfl, rfl⟩
    | ok connection => exact .inr ⟨connection, rfl, rfl, rfl⟩
  have hgot : (getOrCreate c.backend.name c.backend.connectionType (externalKey params)
      (c.adoptExternal params)).Yields s fun r s' =>
        c.Adopts params s (r.map fun found => some found.1) s' := by
    refine getOrCreate_cases hadopt ?_ ?_ ?_ ?_
    · exact fun id hid => .found (hlive.symm.trans hid)
    · exact fun _ error _ => .refused error
    · rintro hnone id s' (⟨_, ⟨⟩, -⟩ | ⟨connection, ⟨⟩, hconnect, hmade⟩)
      rw [hmade]
      exact .made (hlive.symm.trans hnone) hconnect
    · rintro error s' (⟨_, -, rfl⟩ | ⟨_, ⟨⟩, -⟩)
      exact .refused error
  unfold Action.Yields external?
  rw [Action.run_bind, c.externalParams?_of_finds hfinds]
  exact hgot.bind (fun _ _ h => h) fun _ _ h => h

theorem connectExternal_reaches {connection : Memory.Connection}
    (hconnect : c.backend.connectExternal params = .ok connection) (s : State) :
    (c.adopted params connection s).Reaches params s.handles.size := by
  have hself : (c.adopted params connection s).handle s.handles.size =
      externalHandle c.backend (externalKey params) connection :=
    (s.handle_push _ _).trans (if_pos rfl)
  have hconnected : connection = c.backend.connection (Memory.connectExternal params) := by
    unfold Backend.connectExternal at hconnect
    cases hrefusal : c.backend.externalRefusal with
    | none =>
        rw [hrefusal] at hconnect
        cases hconnect
        rfl
    | some _ =>
        rw [hrefusal] at hconnect
        cases hconnect
  have hreaches : connection.params = params ∧ connection.closed = false ∧
      (connection.target = .external params.port ∨ connection.target = .nowhere) := by
    rw [hconnected]
    unfold Backend.connection
    split
    · exact ⟨rfl, rfl, .inl rfl⟩
    · exact ⟨rfl, rfl, .inr rfl⟩
  refine ⟨?_, ?_, ?_, ?_, ?_, ?_⟩
  · change s.handles.size < (s.handles.push _).size
    rw [Array.size_push]
    exact Nat.lt_succ_self _
  all_goals rw [hself]
  · rfl
  · rfl
  · exact hreaches.1
  · exact hreaches.2.1
  · exact hreaches.2.2

theorem external?_adopted (connection : Memory.Connection) (s : State) :
    (c.adopted params connection s).external? c.backend.name params = some s.handles.size :=
  (Assoc.find?_insert ..).trans (if_pos rfl)

/-- Where nothing is registered for the backend yet, no node is bound for it. -/
theorem adopted_replaced {connection : Memory.Connection}
    (h : Replaced tree c.backend.name params s) (hnone : s.external? c.backend.name params = none)
    (hconnect : c.backend.connectExternal params = .ok connection) :
    Replaced tree c.backend.name params (c.adopted params connection s) where
  registered {key id} hfound := by
    replace hfound := (Assoc.find?_insert ..).symm.trans hfound
    split at hfound
    next hkey =>
      cases hkey
      cases hfound
      exact ⟨rfl, c.connectExternal_reaches hconnect s⟩
    next =>
      obtain ⟨rfl, -⟩ := h.registered hfound
      cases hnone.symm.trans hfound
  bound hfound := by
    cases hnone.symm.trans (h.bound hfound).1
  classes := h.classes

theorem Adopts.furnished {r : Except LifecycleError (Option HandleId)} {s' : State}
    (hadopts : c.Adopts params s r s') (h : Replaced tree c.backend.name params s) :
    Replaced tree c.backend.name params s' ∧ Served c.backend.name params s s' ∧
      ∀ found, r = .ok found → ∃ id, found = some id ∧
        s'.external? c.backend.name params = some id := by
  cases hadopts with
  | refused error => exact ⟨h, .refl _ _ s, fun _ heq => by cases heq⟩
  | found hfound =>
      refine ⟨h, .refl _ _ s, ?_⟩
      rintro _ ⟨⟩
      exact ⟨_, rfl, hfound⟩
  | made hnone hconnect =>
      refine ⟨c.adopted_replaced h hnone hconnect, ⟨.of_same rfl, .of_same rfl, ?_⟩, ?_⟩
      · intro id hid
        cases hnone.symm.trans hid
      · rintro _ ⟨⟩
        exact ⟨_, rfl, c.external?_adopted _ s⟩

/-- Whoever asks for an instance is given the external one. -/
theorem external?_bind_furnished {f : Option HandleId → Action LifecycleError Binding}
    (h : Replaced tree c.backend.name params s) (hfinds : c.Finds params s)
    (hsome : ∀ id, f (some id) = pure ⟨id, .shared⟩) (node : ScopeNode) :
    (c.external? >>= f).Yields s (Furnished tree c.backend.name params node s) := by
  refine (c.external?_adopts h hfinds).bind ?_ ?_
  · intro found s' hadopts
    obtain ⟨hreplaced, hserved, hfound⟩ := Adopts.furnished c hadopts h
    obtain ⟨id, rfl, hid⟩ := hfound found rfl
    rw [hsome]
    refine ⟨hreplaced, hserved, ?_⟩
    rintro _ ⟨⟩
    exact ⟨hid, nofun, fun _ => rfl⟩
  · intro error s' hadopts
    obtain ⟨hreplaced, hserved, -⟩ := Adopts.furnished c hadopts h
    exact .failed hreplaced hserved

theorem obtainForClass_furnished (h : Replaced tree c.backend.name params s)
    (hfinds : c.Finds params s) (node : ScopeNode) (decl : Declaration) :
    (c.obtainForClass node decl).Yields s (Furnished tree c.backend.name params node s) :=
  c.external?_bind_furnished h hfinds (fun _ => rfl) node

theorem obtainForMethod_furnished (h : Replaced tree c.backend.name params s)
    (hfinds : c.Finds params s) (node : ScopeNode) (decl : Declaration) :
    (c.obtainForMethod node decl).Yields s (Furnished tree c.backend.name params node s) :=
  c.external?_bind_furnished h hfinds (fun _ => rfl) node

/-! ## Making it ready -/

theorem stopOwned_attending (hnot : binding.ownership ≠ .owned) (s : State) :
    Attending binding.handle s (stopOwned binding s).2 := by
  rw [stopOwned_of_ne hnot]
  exact .refl _ s

theorem readyForClass_attending (hnot : binding.ownership ≠ .owned) (decl : Declaration) :
    Action.Leaves (Attending binding.handle) (c.readyForClass decl binding) :=
  (c.attending_tends _).applyForClass (stopOwned_attending hnot) decl.migration

theorem warnOfRepetition_attending (decl : Declaration) (id : HandleId) (s : State) :
    Attending id s (c.warnOfRepetition decl id s).2 := by
  have htend := (c.warnOfRepetition_tending decl id s).1
  rcases c.warnOfRepetition_cases decl id s with hrun | hrun
  · rw [hrun] at htend ⊢
    exact ⟨htend, .note trivial _, fun _ => .of_same rfl⟩
  · rw [hrun]
    exact .refl id s

theorem readyForTest_attending (hnot : binding.ownership ≠ .owned) (decl : Declaration) :
    Action.Leaves (Attending binding.handle) (c.readyForTest decl binding) := by
  intro s
  have happly := (c.attending_tends binding.handle).applyForMethod (stopOwned_attending hnot)
    decl.migration
  exact (c.warnOfRepetition_attending decl binding.handle s).trans (happly _)

/-! ## Before-hooks -/

theorem bind_replaced (h : Replaced tree c.backend.name params s) (hmem : node ∈ tree)
    (hgiven : Given c.backend.name params node binding s) :
    Replaced tree c.backend.name params (c.bind node binding s).2 where
  registered hfound := by
    obtain ⟨hkey, hreaches⟩ := h.registered hfound
    exact ⟨hkey, hreaches.congr (Nat.le_refl _) rfl⟩
  bound {number connectionType found} hfound := by
    rw [find?_bind] at hfound
    split at hfound
    next =>
      cases hfound
      exact ⟨hgiven.external?, hgiven.notOwned⟩
    next => exact h.bound hfound
  classes {other connectionType found} hother hkind hfound := by
    rw [find?_bind] at hfound
    split at hfound
    next hplace =>
      cases hfound
      cases tree.eq_of_number_eq hmem hother (congrArg Prod.fst hplace)
      exact hgiven.shared hkind
    next => exact h.classes hother hkind hfound

variable {c}

theorem Comes.served {idles : Declaration → Prop}
    {obtain : Declaration → Action LifecycleError Binding}
    {ready : Declaration → Binding → Action LifecycleError Unit} {r : Except LifecycleError Unit}
    (hcomes : c.Comes node idles obtain ready s r s') (h : Replaced tree c.backend.name params s)
    (hmem : node ∈ tree)
    (hobtain : ∀ {decl}, c.Admits s node decl →
      (obtain decl).Yields s (Furnished tree c.backend.name params node s))
    (hready : ∀ {decl binding}, binding.ownership ≠ .owned →
      Action.Leaves (Attending binding.handle) (ready decl binding)) :
    Replaced tree c.backend.name params s' ∧ Served c.backend.name params s s' := by
  -- what is obtained is the external instance, and making it ready stops it as little
  have hobtained : ∀ {decl binding s₁ r₂ s₂}, c.Admits s node decl →
      obtain decl s = (.ok binding, s₁) → ready decl binding s₁ = (r₂, s₂) →
      Replaced tree c.backend.name params s₂ ∧ Served c.backend.name params s s₂ ∧
        Given c.backend.name params node binding s₂ := by
    intro decl binding s₁ r₂ s₂ hadmits hrun hdone
    obtain ⟨hreplaced, hserved, hgiven⟩ := (hobtain hadmits).of_run hrun
    obtain ⟨hid, hnot, hshared⟩ := hgiven binding rfl
    have hattend := (hready hnot).of_run hdone
    refine ⟨hreplaced.quiet hattend.toQuiet, hserved.trans (hattend.served hreplaced hid), ?_, hnot,
      hshared⟩
    rwa [State.external?, hattend.registry]
  cases hcomes with
  | refused => exact ⟨h, .refl _ _ s⟩
  | idle => exact ⟨h, .refl _ _ s⟩
  | unobtained hadmits hrun =>
      obtain ⟨hreplaced, hserved, -⟩ := (hobtain hadmits).of_run hrun
      exact ⟨hreplaced, hserved⟩
  | unready hadmits hrun hfailed =>
      obtain ⟨hreplaced, hserved, -⟩ := hobtained hadmits hrun hfailed
      exact ⟨hreplaced, hserved⟩
  | bound hadmits hactive hrun hdone =>
      obtain ⟨hreplaced, hserved, hgiven⟩ := hobtained hadmits hrun hdone
      exact ⟨c.bind_replaced hreplaced hmem hgiven, hserved.trans (.of_same rfl rfl rfl)⟩

variable (c)

/-- The hook before a class looks for an external instance. -/
def LooksUpForClass (s : State) (node : ScopeNode) : Prop :=
  node.kind = .testClass ∧ ∃ decl, c.Admits s node decl ∧ decl.mode ≠ .testMethod

/-- The hook before a method looks for an external instance, for the method or for its class. -/
def LooksUpForMethod (s : State) (node : ScopeNode) : Prop :=
  node.kind = .testMethod ∧ ∃ decl, c.Admits s node decl ∧
    (decl.mode ≠ .testMethod →
      ∃ outer, node.ancestor? .testClass = some outer ∧ c.LooksUpForClass s outer)

/-- With an instance for every method of its own a class is left as it is. -/
theorem beforeAll_of_deferred (hdecl : c.declarationAt s node = .ok decl)
    (hmode : decl.mode = .testMethod) : (c.beforeAll node s).2 = s := by
  by_cases hkind : node.kind = .testClass
  · cases hopen : s.finished.find? node c.backend.name with
    | some _ => rw [c.beforeAll_of_closed hkind (by rw [hopen]; rfl)]
    | none =>
        rw [c.beforeAll_of_open hkind hopen]
        split
        · rfl
        · rw [c.openClass_of_deferred hdecl hmode]
  · rw [c.beforeAll_of_kind_ne hkind]

theorem beforeAll_served (h : Replaced tree c.backend.name params s) (hmem : node ∈ tree)
    (hfinds : c.LooksUpForClass s node → c.Finds params s) :
    (c.beforeAll node).Yields s fun _ s' =>
      Replaced tree c.backend.name params s' ∧ Served c.backend.name params s s' := by
  by_cases hdeferred : ∃ decl, c.declarationAt s node = .ok decl ∧ decl.mode = .testMethod
  · obtain ⟨decl, hdecl, hmode⟩ := hdeferred
    unfold Action.Yields
    rw [c.beforeAll_of_deferred hdecl hmode]
    exact ⟨h, .refl _ _ s⟩
  · by_cases hkind : node.kind = .testClass
    · refine (c.beforeAll_comes node s).mono fun r s' hcomes => ?_
      refine hcomes.served h hmem ?_ fun hnot => c.readyForClass_attending hnot _
      intro decl hadmits
      refine c.obtainForClass_furnished h (hfinds ⟨hkind, decl, hadmits, fun hmode => ?_⟩) node decl
      exact hdeferred ⟨decl, hadmits.declared, hmode⟩
    · unfold Action.Yields
      rw [c.beforeAll_of_kind_ne hkind]
      exact ⟨h, .refl _ _ s⟩

theorem borrowFromClass_furnished (h : Replaced tree c.backend.name params s) (hmem : node ∈ tree)
    (hkind : node.kind = .testMethod)
    (hfinds : ∀ {outer}, node.ancestor? .testClass = some outer → c.LooksUpForClass s outer →
      c.Finds params s) :
    (c.borrowFromClass node).Yields s (Furnished tree c.backend.name params node s) := by
  have hopened : ∀ {outer r s'}, node.ancestor? .testClass = some outer →
      c.beforeAll outer s = (r, s') →
      Replaced tree c.backend.name params s' ∧ Served c.backend.name params s s' :=
    fun houter hrun =>
      (c.beforeAll_served h (ScopeTree.ancestor?_mem hmem houter).1 (hfinds houter)).of_run hrun
  refine (c.borrowFromClass_borrows node s).mono fun r s' hborrows => ?_
  cases hborrows with
  | outside => exact .failed h (.refl _ _ s)
  | unopened houter hopen =>
      obtain ⟨hreplaced, hserved⟩ := hopened houter hopen
      exact .failed hreplaced hserved
  | vacant houter hopen =>
      obtain ⟨hreplaced, hserved⟩ := hopened houter hopen
      exact .failed hreplaced hserved
  | borrowed houter hopen hbound =>
      obtain ⟨hreplaced, hserved⟩ := hopened houter hopen
      refine ⟨hreplaced, hserved, ?_⟩
      rintro _ ⟨⟩
      refine ⟨(hreplaced.bound hbound).1, nofun, fun hclass => ?_⟩
      rw [hkind] at hclass
      cases hclass

theorem obtainForTest_furnished (h : Replaced tree c.backend.name params s) (hmem : node ∈ tree)
    (hkind : node.kind = .testMethod) (hadmits : c.Admits s node decl)
    (hfinds : c.LooksUpForMethod s node → c.Finds params s) :
    (c.obtainForTest node decl).Yields s (Furnished tree c.backend.name params node s) := by
  unfold obtainForTest
  split
  next hmode =>
    refine c.obtainForMethod_furnished h (hfinds ⟨hkind, decl, hadmits, ?_⟩) node decl
    exact fun hnot => absurd hmode hnot
  next =>
    refine c.borrowFromClass_furnished h hmem hkind fun houter hlooks => ?_
    exact hfinds ⟨hkind, decl, hadmits, fun _ => ⟨_, houter, hlooks⟩⟩

theorem beforeEach_served (h : Replaced tree c.backend.name params s) (hmem : node ∈ tree)
    (hfinds : c.LooksUpForMethod s node → c.Finds params s) :
    (c.beforeEach node).Yields s fun _ s' =>
      Replaced tree c.backend.name params s' ∧ Served c.backend.name params s s' := by
  by_cases hkind : node.kind = .testMethod
  · refine (c.beforeEach_comes node s).mono fun r s' hcomes => ?_
    refine hcomes.served h hmem ?_ fun hnot => c.readyForTest_attending hnot _
    exact fun hadmits => c.obtainForTest_furnished h hmem hkind hadmits hfinds
  · unfold Action.Yields
    rw [c.beforeEach_of_kind_ne hkind]
    exact ⟨h, .refl _ _ s⟩

theorem prepare_served (h : Replaced tree c.backend.name params s) (hmem : node ∈ tree)
    (hfinds : c.LooksUpForClass s node ∨ c.LooksUpForMethod s node → c.Finds params s) :
    (c.prepare node).Yields s fun _ s' =>
      Replaced tree c.backend.name params s' ∧ Served c.backend.name params s s' := by
  have hsame : Replaced tree c.backend.name params s ∧ Served c.backend.name params s s :=
    ⟨h, .refl _ _ s⟩
  unfold prepare
  cases node.kind with
  | testMethod => exact c.beforeEach_served h hmem fun hlooks => hfinds (.inr hlooks)
  | run => exact hsame
  | testClass =>
      refine Action.Yields.get_bind (Action.Yields.except_bind ?_ fun _ _ => hsame)
      intro decl _
      dsimp only
      split
      · exact hsame
      · exact c.beforeAll_served h hmem fun hlooks => hfinds (.inl hlooks)

/-! ## After-hooks -/

theorem close_replaced (h : Replaced tree c.backend.name params s) (node : ScopeNode) :
    Replaced tree c.backend.name params (c.close node s).2 := by
  refine h.of_same (Nat.le_refl _) (fun _ => rfl) ?_ fun _ => rfl
  intro number connectionType binding hfound
  rw [find?_close] at hfound
  split at hfound
  · cases hfound
  · exact hfound

/-- No node owns the external instance, so an after-hook only sees to migrations. -/
theorem closeDown_served {drop : Binding → Migration.Policy → Action LifecycleError Unit}
    (hdrop : ∀ binding policy, Action.Leaves (Attending binding.handle) (drop binding policy))
    (h : Replaced tree c.backend.name params s) (node : ScopeNode) :
    (c.closeDown node drop).Yields s fun _ s' =>
      Replaced tree c.backend.name params s' ∧ Served c.backend.name params s s' := by
  have hclosed := c.close_replaced h node
  have hstart : Served c.backend.name params s (c.close node s).2 := .of_same rfl rfl rfl
  unfold closeDown
  refine Action.Yields.lift_bind ?_
  rw [show (c.close node s).1 = c.binding? s node from rfl]
  cases hbinding : c.binding? s node with
  | none => exact ⟨hclosed, hstart⟩
  | some binding =>
      refine Action.Yields.get_bind (Action.Yields.except_bind ?_ fun _ _ => ⟨hclosed, hstart⟩)
      intro decl _
      obtain ⟨hid, hnot⟩ := h.bound hbinding
      have hattend := settle_leaves .trans (stopOwned_attending hnot) (hdrop binding decl.migration)
        (c.close node s).2
      exact ⟨hclosed.quiet hattend.toQuiet, hstart.trans (hattend.served hclosed hid)⟩

end Coordinator

/-! ## Requests -/

/-- A request that looks for an external instance. -/
def Request.LooksUp (c : Coordinator) (node : ScopeNode) (s : State) : Request → Prop
  | .beforeAll => c.LooksUpForClass s node
  | .beforeEach => c.LooksUpForMethod s node
  | .resolve | .resolveParams => c.LooksUpForClass s node ∨ c.LooksUpForMethod s node
  | _ => False

/-- Whatever is asked for the backend, the external instance stays in the place of all containers.
-/
theorem request_served {c : Coordinator} {asked : Request}
    (h : Replaced tree c.backend.name params s) (hmem : node ∈ tree)
    (hfinds : asked.LooksUp c node s → c.Finds params s) :
    Replaced tree c.backend.name params (asked.perform c node s) ∧
      Served c.backend.name params s (asked.perform c node s) := by
  have hsame : ∀ {s' : State}, s'.handles = s.handles → s'.registry = s.registry →
      s'.bindings = s.bindings → s'.journal = s.journal → s'.servers = s.servers →
      Replaced tree c.backend.name params s' ∧ Served c.backend.name params s s' := by
    intro s' hhandles hregistry hbindings hjournal hservers
    refine ⟨?_, .of_same hjournal hservers hregistry⟩
    refine h.of_same (Nat.le_of_eq (by rw [hhandles])) (fun _ => by rw [hregistry]) ?_ ?_
    · intro number connectionType binding hfound
      rwa [hbindings] at hfound
    · intro id _
      rw [State.handle, State.handle, hhandles]
  refine Coordinator.request_cases (Q := fun s' => Replaced tree c.backend.name params s' ∧
    Served c.backend.name params s s') (fun _ => hsame rfl rfl rfl rfl rfl)
    (fun _ => hsame rfl rfl rfl rfl rfl) ⟨h, .refl _ _ s⟩ ?_ ?_ ?_ ?_ ?_
  · rintro rfl
    exact c.beforeAll_served h hmem hfinds
  · rintro rfl
    exact c.beforeEach_served h hmem hfinds
  · rintro (rfl | rfl)
    · exact c.prepare_served h hmem hfinds
    · exact c.prepare_served h hmem hfinds
  · rintro rfl
    exact c.closeDown_served
      (fun binding => (c.attending_tends binding.handle).dropForMethod) h node
  · rintro rfl
    exact c.closeDown_served
      (fun binding => (c.attending_tends binding.handle).dropForClass) h node

/-- A request for another backend leaves the external instance where it is. -/
theorem request_aside {strict : Prop} {c : Coordinator} (hother : c.backend.name ≠ name)
    (h : Replaced tree name params s) (horderly : Orderly tree strict [] s) (hmem : node ∈ tree)
    (asked : Request) : Replaced tree name params (asked.perform c node s) ∧
      (asked.perform c node s).external? name params = s.external? name params := by
  have haside := (Coordinator.aside_respects hother).request node asked s
  refine ⟨h.of_same haside.size haside.registered ?_ ?_, haside.registered _⟩
  · intro number connectionType binding hfound
    rwa [haside.bound] at hfound
  · intro id hid
    have hreaches := h.reaches hid
    refine haside.bare id hreaches.known ?_
    rw [request_spares horderly hmem c asked hid]
    exact hreaches.live

end ScopedResources.Lifecycle
