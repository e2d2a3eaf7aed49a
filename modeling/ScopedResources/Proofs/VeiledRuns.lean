import ScopedResources.Proofs.Course
import ScopedResources.Proofs.NonInterference
import ScopedResources.Proofs.VeiledHooks

/-!
# The password of an external instance never shows

Two runs do the same acts in two environments that give a backend two passwords. As long as no image
reads the variable of the password, or no container is asked for, nothing that the runs return and
nothing that they leave behind tells them apart, but for the passwords in the parameters themselves.
-/

namespace ScopedResources.Lifecycle

open Override (passwordName)

/-! ## What acts return -/

/-- What an act gives back to the one who does it. -/
inductive Return where
  | answer (answer : Answer)
  | report (report : Report)
  | stopped (result : Except ContainerError Unit)
  | node (node : ScopeNode)
  | nothing

/-- What is returned for an act; the state after it is left to `perform`. -/
def Act.returned (root : ScopeNode) (s : State) : Act → Return
  | .call (.request c node asked) => .answer (asked.answer c node s)
  | .call .finish => .report (finishRun root s).1
  | .grow parent kind name => .node (newNode parent kind name s).1
  | .stop id => .stopped (stopHandle id s).1
  | .shutdown => .report (Lifecycle.shutdown s).1
  | _ => .nothing

/-- What is returned for some acts. -/
def returned (root : ScopeNode) : State → List Act → List Return
  | _, [] => []
  | s, act :: rest => act.returned root s :: returned root (act.perform root s) rest

/-- The same, but for passwords in parameters that are asked for. -/
inductive Return.Alike : Return → Return → Prop
  | same (given : Return) : Return.Alike given given
  | params {p p' : ConnectionParams} (h : p.LooksLike p') :
      Return.Alike (.answer (.params (.ok p))) (.answer (.params (.ok p')))

/-- All that the states hold is equal but for environments and passwords: what was done and warned
of, what is registered and bound, the servers with what was executed there, the keys of handles and
all else that is known of them. -/
structure Undisclosed (s t : State) : Prop where
  rest : t = { s with environment := t.environment, handles := t.handles }
  size : t.handles.size = s.handles.size
  handle : ∀ id, t.handle id = { s.handle id with connection :=
    { (s.handle id).connection with params := (t.handle id).connection.params } }
  params : ∀ id, (s.handle id).connection.params.LooksLike (t.handle id).connection.params

namespace Act

/-- The act is one of the run itself or asks a coordinator of the backend. The environment is not
changed. -/
def Serves (backend : String) : Act → Prop
  | .call (.request c _ _) => c.backend.name = backend
  | .call (.surround _ _) => False
  | _ => True

/-- The act declares no image that reads the variable of the password. -/
def Discreet (backend : String) : Act → Prop
  | .call (.request _ _ (.declare decl)) => ¬ Image.Reads decl.image (passwordName backend)
  | .call (.request _ _ (.declareFrom file)) => ∀ decl, file.declaration? backend = some decl →
      ¬ Image.Reads decl.image (passwordName backend)
  | _ => True

/-- The act is a request of a coordinator that the environment names no external instance for. -/
def AsksForContainers (env : Environment) : Act → Prop
  | .call (.request c _ _) => c.AsksForContainers env
  | _ => False

end Act

variable {both : TwoSecrets} {s t : State} {node : ScopeNode}

theorem Twins.undisclosed (h : Twins both s t) : Undisclosed s t where
  rest := by
    have hveiled := h.veiled
    obtain ⟨_, _, _, _, _, _, _, _, _, _, _, _⟩ := s
    obtain ⟨_, _, _, _, _, _, _, _, _, _, _, _⟩ := t
    simp only [State.veiled, State.mk.injEq] at hveiled ⊢
    simp only [hveiled, and_self]
  size := h.size
  handle id := by
    have hveiled := h.handle id
    revert hveiled
    generalize s.handle id = handle
    generalize t.handle id = handle'
    intro hveiled
    obtain ⟨_, _, _, _, ⟨_, _, _⟩, _, _⟩ := handle
    obtain ⟨_, _, _, _, ⟨_, _, _⟩, _, _⟩ := handle'
    simp only [Handle.veiled, Handle.mk.injEq, Memory.Connection.mk.injEq] at hveiled ⊢
    simp only [hveiled, and_self]
  params id := ConnectionParams.looksLike_of_veiled (h.params id)

/-! ## One act -/

theorem Return.Alike.of_eq {given given' : Return} (h : given' = given) : given.Alike given' :=
  h ▸ .same given

theorem Return.Alike.of_veiled {r r' : Except LifecycleError ConnectionParams}
    (h : r'.map ConnectionParams.veiled = r.map ConnectionParams.veiled) :
    (Return.answer (.params r)).Alike (.answer (.params r')) := by
  cases r with
  | error error =>
      cases r' with
      | error error' => exact .of_eq (congrArg _ (congrArg _ (congrArg _ (Except.error.inj h))))
      | ok p' => cases h
  | ok p =>
      cases r' with
      | error error' => cases h
      | ok p' => exact .params (ConnectionParams.looksLike_of_veiled (Except.ok.inj h))

/-- What an act does to twins, and what it returns to both. -/
structure Alike (both : TwoSecrets) (root : ScopeNode) (s t : State) (act : Act) : Prop where
  twins : Twins both (act.perform root s) (act.perform root t)
  returned : (act.returned root s).Alike (act.returned root t)

/-- A request whose answer is only that it is done. -/
theorem Conceals.request_alike {c : Coordinator} {asked : Request} {x : Action LifecycleError Unit}
    (hx : Conceals both x) (hperform : ∀ s, asked.perform c node s = (x s).2)
    (hanswer : ∀ s, asked.answer c node s = .done (x s).1) (root : ScopeNode) (h : Twins both s t) :
    Alike both root s t (.call (.request c node asked)) := by
  obtain ⟨htwins, hresult⟩ := hx s t h
  constructor
  case twins =>
    dsimp only [Act.perform, Call.perform]
    rw [hperform, hperform]
    exact htwins
  case returned =>
    refine .of_eq ?_
    dsimp only [Act.returned]
    rw [hanswer, hanswer, hresult]

theorem request_alike {c : Coordinator} {asked : Request} (root : ScopeNode) (hc : c.Meant both)
    (hdiscreet : both.containers → (Act.call (.request c node asked)).Discreet both.backend)
    (h : Twins both s t) : Alike both root s t (.call (.request c node asked)) := by
  cases asked with
  | declare decl =>
      have hdeclare : Conceals both (liftM (c.declare node decl) : Action LifecycleError Unit) :=
        .lift (c.declare_veils node hdiscreet)
      exact hdeclare.request_alike (fun _ => rfl) (fun _ => rfl) root h
  | declareFrom file =>
      have hdeclare := c.declareFrom_conceals node file fun decl hdecl hcontainers =>
        hdiscreet hcontainers decl (hc.backend ▸ hdecl)
      exact hdeclare.request_alike (fun _ => rfl) (fun _ => rfl) root h
  | overrideContainer override =>
      have hoverride : Conceals both
          (liftM (c.overrideContainer node override) : Action LifecycleError Unit) :=
        .lift (c.overrideContainer_veils node override)
      exact hoverride.request_alike (fun _ => rfl) (fun _ => rfl) root h
  | beforeAll =>
      exact (c.beforeAll_conceals hc node).request_alike (fun _ => rfl) (fun _ => rfl) root h
  | beforeEach =>
      exact (c.beforeEach_conceals hc node).request_alike (fun _ => rfl) (fun _ => rfl) root h
  | resolve =>
      obtain ⟨htwins, hid⟩ := c.resolve_conceals hc node s t h
      exact ⟨htwins, .of_eq (congrArg (fun r => Return.answer (.handle r)) hid)⟩
  | resolveParams =>
      obtain ⟨htwins, hparams⟩ := c.resolveParams_twins hc h node
      exact ⟨htwins, .of_veiled hparams⟩
  | afterEach =>
      have hclose := c.closeDown_conceals hc c.dropForMethod_conceals node
      exact hclose.request_alike (fun _ => rfl) (fun _ => rfl) root h
  | afterAll =>
      have hclose := c.closeDown_conceals hc c.dropForClass_conceals node
      exact hclose.request_alike (fun _ => rfl) (fun _ => rfl) root h

/-- Twins stay twins, and what an act returns to both is alike. -/
theorem act_alike {act : Act} (root : ScopeNode) (hserves : act.Serves both.backend)
    (hcontainers : act.AsksForContainers both.env → both.containers)
    (hdiscreet : both.containers → act.Discreet both.backend) (h : Twins both s t) :
    Alike both root s t act := by
  cases act with
  | grow parent kind name =>
      have hnext : t.nextNode = s.nextNode := h.read State.nextNode fun _ => rfl
      refine ⟨?_, .of_eq ?_⟩
      · exact h.map (fun u => { u with nextNode := u.nextNode + 1 }) (fun _ => rfl) (fun _ => rfl)
          fun _ => rfl
      · exact congrArg (fun number => Return.node (parent.child number kind name)) hnext
  | stop id =>
      obtain ⟨htwins, hresult⟩ := stopHandle_conceals id s t h
      exact ⟨htwins, .of_eq (congrArg Return.stopped hresult)⟩
  | shutdown =>
      obtain ⟨htwins, hreport⟩ := shutdown_veils s t h
      exact ⟨htwins, .of_eq (congrArg Return.report hreport)⟩
  | disconnect id =>
      refine ⟨?_, .same _⟩
      exact (Veils.modifyHandle (f := fun handle =>
        { handle with connection := handle.connection.close }) (fun _ => rfl) id s t h).1
  | call made =>
      cases made with
      | request c node asked => exact request_alike root ⟨hserves, hcontainers⟩ hdiscreet h
      | finish =>
          obtain ⟨htwins, hreport⟩ := finishRun_veils root s t h
          exact ⟨htwins, .of_eq (congrArg Return.report hreport)⟩
      | surround environment files => exact hserves.elim
      | disturb name server =>
          refine ⟨?_, .same _⟩
          dsimp only [Act.perform, Call.perform]
          rw [h.server]
          split
          · exact h.setServer name server
          · exact h

/-! ## Whole runs -/

theorem course_alike (root : ScopeNode) (acts : List Act)
    (hserves : ∀ act ∈ acts, act.Serves both.backend)
    (hcontainers : ∀ act ∈ acts, act.AsksForContainers both.env → both.containers)
    (hdiscreet : both.containers → ∀ act ∈ acts, act.Discreet both.backend) (h : Twins both s t) :
    Twins both (course root s acts) (course root t acts) ∧
      List.Forall₂ Return.Alike (returned root s acts) (returned root t acts) := by
  induction acts generalizing s t with
  | nil => exact ⟨h, .nil⟩
  | cons act rest ih =>
      obtain ⟨hact, hserves⟩ := List.forall_mem_cons.mp hserves
      obtain ⟨hasks, hcontainers⟩ := List.forall_mem_cons.mp hcontainers
      have hfirst :=
        act_alike root hact hasks (fun hc => (List.forall_mem_cons.mp (hdiscreet hc)).1) h
      obtain ⟨htwins, hreturned⟩ := ih hserves hcontainers
        (fun hc => (List.forall_mem_cons.mp (hdiscreet hc)).2) hfirst.twins
      exact ⟨htwins, .cons hfirst.returned hreturned⟩

theorem initial_twins (both : TwoSecrets) (files : Files.Tree)
    (servers : Assoc String Memory.Server) :
    Twins both (.initial both.env files servers) (.initial both.env' files servers) where
  environment := rfl
  environment' := rfl
  veiled := rfl
  images hfound := by cases hfound

/-- Two environments hold two passwords for a backend and agree on everything else. If containers
are asked for at all, no image that is declared is a placeholder for the variable of the password.
Then the same acts are given the same in both: the same results, errors and nodes, and parameters
that differ in the password alone and are shown in the same words. What is left behind is the same
up to the environments and the passwords in the parameters of handles. -/
theorem password_never_shows {backend secret secret' : String} {env env' : Environment}
    (hagree : Environment.AgreeBut (passwordName backend) env env')
    (hheld : env.Holds (passwordName backend) secret)
    (hheld' : env'.Holds (passwordName backend) secret') (root : ScopeNode) (acts : List Act)
    (hserves : ∀ act ∈ acts, act.Serves backend)
    (hdiscreet : (∃ act ∈ acts, act.AsksForContainers env) → ∀ act ∈ acts, act.Discreet backend)
    (files : Files.Tree) (servers : Assoc String Memory.Server) :
    List.Forall₂ Return.Alike (returned root (.initial env files servers) acts)
        (returned root (.initial env' files servers) acts) ∧
      Undisclosed (course root (.initial env files servers) acts)
        (course root (.initial env' files servers) acts) := by
  have hgiven : ∀ {env : Environment} {secret}, env.Holds (passwordName backend) secret →
      (env.nonBlank? (passwordName backend)).isSome := fun hheld => by
    rw [Environment.nonBlank?_eq_some_iff.mpr hheld]
    rfl
  let both : TwoSecrets := {
    backend, env, env'
    agree := hagree
    given := hgiven hheld
    given' := hgiven hheld'
    containers := ∃ act ∈ acts, act.AsksForContainers env }
  have hcontainers : ∀ act ∈ acts, act.AsksForContainers both.env → both.containers :=
    fun act hmem hasks => ⟨act, hmem, hasks⟩
  obtain ⟨htwins, hreturned⟩ :=
    course_alike root acts hserves hcontainers hdiscreet (initial_twins both files servers)
  exact ⟨hreturned, htwins.undisclosed⟩

namespace TwoClasses

open Coordinator (reader)

/-- The environment with a password for the backend of the coordinators here. -/
def withPassword (env : Environment) (secret : String) : Environment :=
  env.set (passwordName "MEMORY") secret.toUTF8

theorem passwordName_isName : Environment.IsName (passwordName "MEMORY") :=
  Environment.isName_iff.mpr (by decide +kernel)

theorem withPassword_agreeBut (env : Environment) (secret secret' : String) :
    Environment.AgreeBut (passwordName "MEMORY") (withPassword env secret)
      (withPassword env secret') :=
  env.set_agreeBut passwordName_isName _ _

theorem withPassword_holds {env : Environment} {secret : String}
    (hentries : ∀ entry ∈ env.entries, Environment.IsName entry.1)
    (hsecret : ∃ c ∈ secret.toList, Text.isBlank c = false) :
    (withPassword env secret).Holds (passwordName "MEMORY") secret :=
  Environment.holds_set passwordName_isName hentries (by decide +kernel) (by decide +kernel) hsecret

/-- Host and port of an external instance. -/
def place : Environment :=
  ⟨[("EXTERNAL_TEST_MEMORY_HOST", "db".toUTF8), ("EXTERNAL_TEST_MEMORY_PORT", "5432".toUTF8)]⟩

theorem place_isName : ∀ entry ∈ place.entries, Environment.IsName entry.1 := by
  simp only [Environment.isName_iff]
  decide +kernel

/-- A class asks for the parameters of the external instance. -/
def asking : List Act :=
  [.call (.request reader alone (.declare {})), .call (.request reader alone .resolveParams),
    .call (.request reader alone .afterAll), .call .finish]

theorem asking_discreet : ∀ act ∈ asking, act.Discreet "MEMORY" := by
  have hnone : Image.placeholder? (Text.trimmed "").toList = none := by decide +kernel
  have himage : ¬ Image.Reads "" (passwordName "MEMORY") := fun ⟨body, hbody, _⟩ => by
    rw [hnone] at hbody
    cases hbody
  simp [asking, Act.Discreet, himage]

/-- The instance has one password or the other, and its handle one key. -/
theorem asking_hides_password :
    Environment.AgreeBut (passwordName "MEMORY") (withPassword place "alpha")
        (withPassword place "beta") ∧
      ((course scopes.root (.initial (withPassword place "alpha") {} []) asking).handle
        0).connection.params.password = some "alpha" ∧
      ((course scopes.root (.initial (withPassword place "beta") {} []) asking).handle
        0).connection.params.password = some "beta" ∧
      List.Forall₂ Return.Alike
          (returned scopes.root (.initial (withPassword place "alpha") {} []) asking)
          (returned scopes.root (.initial (withPassword place "beta") {} []) asking) ∧
        Undisclosed (course scopes.root (.initial (withPassword place "alpha") {} []) asking)
          (course scopes.root (.initial (withPassword place "beta") {} []) asking) := by
  have hagree := withPassword_agreeBut place "alpha" "beta"
  have hserves : ∀ act ∈ asking, act.Serves "MEMORY" := by
    simp [asking, Act.Serves, reader, Backend.memory]
  refine ⟨hagree, by decide +kernel, by decide +kernel, ?_⟩
  exact password_never_shows hagree
    (withPassword_holds place_isName ⟨'a', by decide, by decide⟩)
    (withPassword_holds place_isName ⟨'b', by decide, by decide⟩)
    scopes.root asking hserves (fun _ => asking_discreet) {} []

/-- A class names the variable of the password as its image, and there is no external instance. -/
def revealing : List Act :=
  [.call (.request reader alone (.declare { image := "$\x7bEXTERNAL_TEST_MEMORY_PASSWORD\x7d" })),
    .call (.request reader alone .resolve)]

/-- The placeholder puts the password where everyone sees it: into the key of the handle. -/
theorem revealing_shows_password :
    Environment.AgreeBut (passwordName "MEMORY") (withPassword {} "alpha")
      (withPassword {} "beta") ∧
      (withPassword {} "alpha").Holds (passwordName "MEMORY") "alpha" ∧
      (withPassword {} "beta").Holds (passwordName "MEMORY") "beta" ∧
      (∀ act ∈ revealing, act.Serves "MEMORY") ∧
      ((course scopes.root (.initial (withPassword {} "alpha") {} []) revealing).handle 0
        ).key.shown = "alpha" ∧
      ((course scopes.root (.initial (withPassword {} "beta") {} []) revealing).handle 0
        ).key.shown = "beta" := by
  refine ⟨withPassword_agreeBut {} "alpha" "beta",
    withPassword_holds nofun ⟨'a', by decide, by decide⟩,
    withPassword_holds nofun ⟨'b', by decide, by decide⟩, ?_, by decide +kernel, by decide +kernel⟩
  simp [revealing, Act.Serves, reader, Backend.memory]

end TwoClasses

end ScopedResources.Lifecycle
