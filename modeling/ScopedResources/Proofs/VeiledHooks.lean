import ScopedResources.Proofs.Hooks
import ScopedResources.Proofs.VeiledTasks

/-!
# Hooks that do not look at a password

The password of an external instance goes from the environment into the parameters of its handle and
nowhere else: the key of the handle is made of the parameters as they are shown. So every request of
a coordinator conceals it, as long as no image of a declaration reads the same variable. -/

namespace ScopedResources.Lifecycle.Coordinator

open Override (Decision passwordName)

variable {c : Coordinator} {both : TwoSecrets} {s t : State} {decl : Declaration}

/-- The environment names no external instance for the coordinator, so it asks for containers. -/
def AsksForContainers (c : Coordinator) (env : Environment) : Prop :=
  c.external.decide env c.backend.name c.backend.scheme = .ok .unset ∨
    c.external.decide env c.backend.name c.backend.scheme = .ok .incomplete

/-- The coordinator is one of the backend, and asks for containers only if that is expected. -/
structure Meant (both : TwoSecrets) (c : Coordinator) : Prop where
  backend : c.backend.name = both.backend
  containers : c.AsksForContainers both.env → both.containers

/-! ## What a coordinator reads off the state -/

theorem declarationAt_twins (h : Twins both s t) (node : ScopeNode) :
    c.declarationAt t node = c.declarationAt s node := by
  unfold declarationAt
  rw [h.declarations]

theorem binding?_twins (h : Twins both s t) (node : ScopeNode) :
    c.binding? t node = c.binding? s node := by
  unfold binding?
  rw [h.bindings]

theorem allows_of_declarationAt (hc : c.Meant both) (h : Twins both s t) {node : ScopeNode}
    (hdecl : c.declarationAt s node = .ok decl) : both.Allows decl := by
  unfold declarationAt at hdecl
  split at hdecl
  next found hfound =>
    cases hdecl
    obtain ⟨outer, -, houter⟩ := List.exists_of_findSome?_eq_some hfound
    rw [hc.backend] at houter
    exact h.images houter
  next => cases hdecl

theorem keyFor_twins (h : Twins both s t)
    (himage : ¬ Image.Reads decl.image (passwordName both.backend)) :
    c.keyFor t decl = c.keyFor s decl := by
  unfold keyFor
  rw [h.environment, h.environment', Image.resolve_agreeBut both.agree himage]

/-- The steps of a task that begin with the declaration that a node sees. -/
theorem declared_conceals {α : Type} (hc : c.Meant both) (node : ScopeNode)
    {f : Declaration → Action LifecycleError α}
    (hf : ∀ decl, both.Allows decl → Conceals both (f decl)) :
    Conceals both (get >>= fun s => liftM (c.declarationAt s node) >>= f) := by
  refine .get_bind fun h => ⟨by rw [declarationAt_twins h], .except_bind fun decl hdecl => ?_⟩
  exact hf decl (allows_of_declarationAt hc h hdecl)

theorem ensureOpen_conceals (node : ScopeNode) : Conceals both (c.ensureOpen node) := by
  unfold ensureOpen
  refine .get_bind fun h => ⟨by rw [h.finished], ?_⟩
  split
  · exact .throw _
  · exact .pure _

/-! ## Obtaining an instance -/

theorem externalHandle_veiled (backend : Backend) {params params' : ConnectionParams}
    (hparams : params'.veiled = params.veiled) (key : ResourceKey) :
    (externalHandle backend key (backend.connection (Memory.connectExternal params'))).veiled =
      (externalHandle backend key (backend.connection (Memory.connectExternal params))).veiled := by
  have hport := congrArg ConnectionParams.port hparams
  replace hport : params'.port = params.port := hport
  unfold Backend.connection Memory.connectExternal Handle.veiled externalHandle
  split
  · rw [hport, hparams]
  · rw [hparams]

/-- The two instances have the same key, since the key shows no password. -/
theorem adoptExternal_matches (h : Twins both s t) {params params' : ConnectionParams}
    (hparams : params'.veiled = params.veiled) :
    Matches both s t (c.adoptExternal params) (c.adoptExternal params') := by
  have hlike := ConnectionParams.looksLike_of_veiled hparams
  unfold adoptExternal Backend.connectExternal externalKey
  rw [hlike.shown]
  cases c.backend.externalRefusal with
  | some error => exact ⟨h, rfl⟩
  | none =>
      obtain ⟨htwins, hid⟩ := addHandle_matches h (externalHandle_veiled c.backend hparams
        { image := "external:" ++ params.shown })
      exact ⟨htwins, congrArg Except.ok hid⟩

/-- Of what the environments decide, only the password may differ. -/
theorem decide_veiled (hc : c.Meant both) :
    (c.external.decide both.env' c.backend.name c.backend.scheme).map Decision.veiled =
      (c.external.decide both.env c.backend.name c.backend.scheme).map Decision.veiled := by
  rw [hc.backend]
  exact c.external.decide_veiled both.agree both.given both.given' c.backend.scheme

/-- What comes of a decision. -/
def decided (c : Coordinator) :
    Except Override.Fault Decision → Action LifecycleError (Option HandleId)
  | .error fault => throw (.configuration fault.message)
  | .ok .unset => pure none
  | .ok .incomplete => do
    note (.warned (.incompleteOverride c.backend.name))
    return none
  | .ok (.external params) => do
    let (id, _) ← getOrCreate c.backend.name c.backend.connectionType (externalKey params)
      (c.adoptExternal params)
    return some id

theorem external?_eq (c : Coordinator) (s : State) :
    c.external? s =
      c.decided (c.external.decide s.environment c.backend.name c.backend.scheme) s := by
  unfold external? externalParams?
  rw [Action.run_bind, Action.run_bind, Action.run_get]
  dsimp only
  cases c.external.decide s.environment c.backend.name c.backend.scheme with
  | error fault => rfl
  | ok decision => cases decision <;> rfl

theorem decided_matches (h : Twins both s t) {found found' : Except Override.Fault Decision}
    (hfound : found'.map Decision.veiled = found.map Decision.veiled) :
    Matches both s t (c.decided found) (c.decided found') := by
  cases found with
  | error fault =>
      cases found' with
      | error fault' =>
          cases hfound
          exact ⟨h, rfl⟩
      | ok decision' => cases hfound
  | ok decision =>
      cases found' with
      | error fault' => cases hfound
      | ok decision' =>
          replace hfound := Except.ok.inj hfound
          cases decision with
          | unset =>
              cases decision' with
              | unset => exact ⟨h, rfl⟩
              | incomplete | external => cases hfound
          | incomplete =>
              cases decision' with
              | incomplete => exact (Conceals.bind (note_conceals _) fun _ => .pure _) s t h
              | unset | external => cases hfound
          | external params =>
              cases decision' with
              | unset | incomplete => cases hfound
              | external params' =>
                  replace hfound := Decision.external.inj hfound
                  have hlike := ConnectionParams.looksLike_of_veiled hfound
                  unfold decided externalKey
                  dsimp only
                  rw [hlike.shown]
                  exact (getOrCreate_matches h _ _ _ (adoptExternal_matches h hfound)).bind
                    fun _ _ => .pure _

theorem external?_conceals (hc : c.Meant both) : Conceals both c.external? := by
  intro s t h
  have hmatches := decided_matches (c := c) h (decide_veiled hc)
  unfold Matches at *
  rw [external?_eq, external?_eq, h.environment, h.environment']
  exact hmatches

theorem asksForContainers_of_external? (h : (c.external? s).1 = .ok none) :
    c.AsksForContainers s.environment := by
  unfold AsksForContainers
  rw [external?_eq] at h
  revert h
  rcases c.external.decide s.environment c.backend.name c.backend.scheme with _ | _ | _ | params
  · exact nofun
  · exact fun _ => .inl rfl
  · exact fun _ => .inr rfl
  · unfold decided
    dsimp only
    rw [Action.run_bind]
    rcases getOrCreate c.backend.name c.backend.connectionType (externalKey params)
      (c.adoptExternal params) s with ⟨_ | _, _⟩ <;> exact nofun

theorem obtainForClass_conceals (hc : c.Meant both) (node : ScopeNode) (hdecl : both.Allows decl) :
    Conceals both (c.obtainForClass node decl) := by
  unfold obtainForClass
  refine .bind_of (external?_conceals hc) fun {s t found} h hfound => ?_
  cases found with
  | some id => exact .pure _
  | none =>
      have himage := hdecl (hc.containers (h.environment ▸ asksForContainers_of_external? hfound))
      refine .get_bind fun h => ⟨by rw [keyFor_twins h himage], .except_bind fun key _ => ?_⟩
      split
      · refine .bind (getOrCreate_conceals _ _ key (provision_conceals _ node key)) fun _ => .pure _
      · exact .bind (provision_conceals _ node key) fun _ => .pure _

theorem obtainForMethod_conceals (hc : c.Meant both) (node : ScopeNode) (hdecl : both.Allows decl) :
    Conceals both (c.obtainForMethod node decl) := by
  unfold obtainForMethod
  refine .bind_of (external?_conceals hc) fun {s t found} h hfound => ?_
  cases found with
  | some id => exact .pure _
  | none =>
      have himage := hdecl (hc.containers (h.environment ▸ asksForContainers_of_external? hfound))
      refine .get_bind fun h => ⟨by rw [keyFor_twins h himage], .except_bind fun key _ => ?_⟩
      exact .bind (provision_conceals _ node key) fun _ => .pure _

/-! ## Migrations of a binding -/

theorem stopOwned_veils (binding : Binding) : Veils both (stopOwned binding) := by
  unfold stopOwned
  split
  · exact stopOrWarn_veils _
  · exact .pure _

theorem orStop_conceals (binding : Binding) {task : Action LifecycleError Unit}
    (htask : Conceals both task) : Conceals both (orStop binding task) :=
  .tryCatch htask fun error => .bind (.lift (stopOwned_veils binding)) fun _ => .throw error

theorem settle_conceals (binding : Binding) {task : Action LifecycleError Unit}
    (htask : Conceals both task) : Conceals both (settle binding task) :=
  .bind (orStop_conceals binding htask) fun _ => .lift (stopOwned_veils binding)

theorem applyForClass_conceals (binding : Binding) (policy : Migration.Policy) :
    Conceals both (c.applyForClass binding policy) := by
  unfold applyForClass
  split
  · refine orStop_conceals binding ?_
    split
    · exact acquire_conceals _ _ _
    · exact migrate_conceals _ _ _ _
  · exact .pure _

theorem applyForMethod_conceals (binding : Binding) (policy : Migration.Policy) :
    Conceals both (c.applyForMethod binding policy) := by
  unfold applyForMethod
  split
  · exact orStop_conceals binding (migrate_conceals _ _ _ _)
  · exact .pure _

theorem dropForClass_conceals (binding : Binding) (policy : Migration.Policy) :
    Conceals both (c.dropForClass binding policy) := by
  unfold dropForClass
  split
  · split
    · exact release_conceals _ _ _
    · exact migrate_conceals _ _ _ _
  · exact .pure _

theorem dropForMethod_conceals (binding : Binding) (policy : Migration.Policy) :
    Conceals both (c.dropForMethod binding policy) := by
  unfold dropForMethod
  split
  · exact migrate_conceals _ _ _ _
  · exact .pure _

/-! ## Before-hooks -/

theorem bind_veils (node : ScopeNode) (binding : Binding) : Veils both (c.bind node binding) :=
  .change (fun _ => rfl) (fun _ => rfl) fun _ => rfl

theorem openClass_conceals (hc : c.Meant both) (node : ScopeNode) :
    Conceals both (c.openClass node) := by
  unfold openClass
  refine declared_conceals hc node fun decl hdecl => ?_
  split
  · exact .pure _
  · refine .except_bind fun _ _ => ?_
    refine .bind (obtainForClass_conceals hc node hdecl) fun binding => ?_
    exact .bind (applyForClass_conceals binding _) fun _ => .lift (bind_veils node binding)

theorem beforeAll_conceals (hc : c.Meant both) (node : ScopeNode) :
    Conceals both (c.beforeAll node) := by
  unfold beforeAll
  refine .except_bind fun _ _ => .bind (ensureOpen_conceals node) fun _ => ?_
  refine .get_bind fun h => ⟨by rw [binding?_twins h], ?_⟩
  split
  · exact .pure _
  · exact openClass_conceals hc node

theorem borrowFromClass_conceals (hc : c.Meant both) (node : ScopeNode) :
    Conceals both (c.borrowFromClass node) := by
  unfold borrowFromClass
  split
  · exact .throw _
  next outer _ =>
    refine .bind (beforeAll_conceals hc outer) fun _ => ?_
    refine .get_bind fun h => ⟨by rw [binding?_twins h], ?_⟩
    split
    · exact .pure _
    · exact .throw _

theorem warnOfRepetition_veils (decl : Declaration) (id : HandleId) :
    Veils both (c.warnOfRepetition decl id) := by
  unfold warnOfRepetition
  refine .get_bind fun h => ⟨by rw [h.key], ?_⟩
  dsimp only
  refine .get_bind fun h => ⟨by rw [h.warnedKeys], ?_⟩
  split
  · exact .bind (.change (fun _ => rfl) (fun _ => rfl) fun _ => rfl) fun _ => note_veils _
  · exact .pure _

theorem openMethod_conceals (hc : c.Meant both) (node : ScopeNode) :
    Conceals both (c.openMethod node) := by
  have hbound (decl : Declaration) (binding : Binding) : Conceals both (do
      c.warnOfRepetition decl binding.handle
      c.applyForMethod binding decl.migration
      c.bind node binding) :=
    .bind (.lift (warnOfRepetition_veils decl binding.handle)) fun _ =>
      .bind (applyForMethod_conceals binding _) fun _ => .lift (bind_veils node binding)
  unfold openMethod
  refine declared_conceals hc node fun decl hdecl => .except_bind fun _ _ => ?_
  split
  · exact .bind (obtainForMethod_conceals hc node hdecl) fun binding => hbound decl binding
  · exact .bind (borrowFromClass_conceals hc node) fun binding => hbound decl binding

theorem beforeEach_conceals (hc : c.Meant both) (node : ScopeNode) :
    Conceals both (c.beforeEach node) := by
  unfold beforeEach
  refine .except_bind fun _ _ => .bind (ensureOpen_conceals node) fun _ => ?_
  refine .get_bind fun h => ⟨by rw [binding?_twins h], ?_⟩
  split
  · exact .pure _
  · exact openMethod_conceals hc node

/-! ## After-hooks -/

theorem close_veils (node : ScopeNode) : Veils both (c.close node) := by
  unfold close
  refine .get_bind fun h => ⟨by rw [binding?_twins h], ?_⟩
  exact .bind (.change (fun _ => rfl) (fun _ => rfl) fun _ => rfl) fun _ => .pure _

theorem closeDown_conceals (hc : c.Meant both)
    {drop : Binding → Migration.Policy → Action LifecycleError Unit}
    (hdrop : ∀ binding policy, Conceals both (drop binding policy)) (node : ScopeNode) :
    Conceals both (c.closeDown node drop) := by
  unfold closeDown
  refine .bind (.lift (close_veils node)) fun binding => ?_
  cases binding with
  | none => exact .pure _
  | some binding =>
      exact declared_conceals hc node fun decl _ => settle_conceals binding (hdrop binding _)

/-! ## Connections -/

theorem prepare_conceals (hc : c.Meant both) (node : ScopeNode) :
    Conceals both (c.prepare node) := by
  unfold prepare
  split
  · exact beforeEach_conceals hc node
  · refine declared_conceals hc node fun decl _ => ?_
    split
    · exact .bind (.throw _) fun _ => beforeAll_conceals hc node
    · exact beforeAll_conceals hc node
  · exact .throw _

theorem resolve_conceals (hc : c.Meant both) (node : ScopeNode) :
    Conceals both (c.resolve node) := by
  unfold resolve
  refine .bind (prepare_conceals hc node) fun _ => ?_
  refine .get_bind fun h => ⟨by rw [binding?_twins h], ?_⟩
  split
  · exact .throw _
  · refine .get_bind fun h => ⟨by rw [h.stopped], ?_⟩
    split
    · exact .bind (.throw _) fun _ => .pure _
    · exact .pure _

/-- The parameters are those of the environment, so they are the same but for the password. -/
theorem resolveParams_twins (hc : c.Meant both) (h : Twins both s t) (node : ScopeNode) :
    Twins both (c.resolveParams node s).2 (c.resolveParams node t).2 ∧
      (c.resolveParams node t).1.map ConnectionParams.veiled =
        (c.resolveParams node s).1.map ConnectionParams.veiled := by
  obtain ⟨r, s', t', hs, ht, htwins⟩ := (resolve_conceals hc node s t h).runs
  unfold resolveParams
  rw [Action.run_bind, Action.run_bind, hs, ht]
  cases r with
  | error error => exact ⟨htwins, rfl⟩
  | ok id => exact ⟨htwins, congrArg Except.ok (htwins.params id)⟩

theorem declare_veils (node : ScopeNode) (hdecl : both.Allows decl) :
    Veils both (c.declare node decl) := by
  intro s t h
  refine ⟨?_, rfl⟩
  constructor
  case environment => exact h.environment
  case environment' => exact h.environment'
  case veiled =>
    exact congrArg (fun u : State =>
      { u with declarations := u.declarations.put node c.backend.name decl }) h.veiled
  case images =>
    intro number other hfound
    replace hfound := (Assoc.find?_insert ..).symm.trans hfound
    split at hfound
    next => exact Option.some.inj hfound ▸ hdecl
    next => exact h.images hfound

theorem declareFrom_conceals (node : ScopeNode) (file : DeclarationFile)
    (hfile : ∀ decl, file.declaration? c.backend.name = some decl → both.Allows decl) :
    Conceals both (c.declareFrom node file) := by
  unfold declareFrom
  split
  · exact .throw _
  next decl hdecl => exact .except_bind fun _ _ => .lift (declare_veils node (hfile decl hdecl))

theorem overrideContainer_veils (node : ScopeNode) (override : ContainerOverride) :
    Veils both (c.overrideContainer node override) :=
  .change (fun _ => rfl) (fun _ => rfl) fun _ => rfl

end ScopedResources.Lifecycle.Coordinator
