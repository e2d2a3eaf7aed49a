import ScopedResources.Proofs.AbreastInstances
import ScopedResources.Proofs.Hooks

/-!
# Hooks side by side

Every request of a coordinator keeps two runs abreast and is answered alike in both. A coordinator
reads nothing but its own backend, so it cannot tell whether it has company. -/

namespace ScopedResources.Lifecycle.Coordinator

variable {c : Coordinator} {own : Renumbering} {s t : State} {id id' : HandleId}
variable {node : ScopeNode} {binding binding' : Binding}

/-! ## What a coordinator reads off the state -/

theorem declarationAt_congr (h : Abreast c own s t) (node : ScopeNode) :
    c.declarationAt t node = c.declarationAt s node := by
  unfold declarationAt
  rw [find?_congr h.declarations node]

theorem binding?_rel (h : Abreast c own s t) (node : ScopeNode) :
    Option.Rel (Binding.Same own) (c.binding? s node) (c.binding? t node) :=
  h.bindings node.number

theorem isSome_binding?_congr (h : Abreast c own s t) (node : ScopeNode) :
    (c.binding? t node).isSome = (c.binding? s node).isSome := by
  rcases rel_cases (binding?_rel h node) with ⟨hs, ht⟩ | ⟨_, _, hs, ht, -⟩
  · rw [hs, ht]
  · rw [hs, ht]
    rfl

theorem ensureOpen_tracks (h : Abreast c own s t) (node : ScopeNode) :
    Tracks c own s t (c.ensureOpen node) (c.ensureOpen node) Agree := by
  unfold ensureOpen
  refine .get_bind ?_
  rw [find?_congr h.finished node]
  split
  · exact .throw h _
  · exact .pure h rfl

/-! ## Obtaining an instance -/

theorem externalParams?_tracks (h : Abreast c own s t) :
    Tracks c own s t c.externalParams? c.externalParams? Agree := by
  unfold externalParams?
  refine .get_bind ?_
  rw [h.environment]
  split
  · exact .throw h _
  · exact .pure h rfl
  · exact .bind (.lift (warn_follows h _)) fun _ h _ => .pure h rfl
  · exact .pure h rfl

theorem adoptExternal_tracks (h : Abreast c own s t) (params : ConnectionParams) :
    Tracks c own s t (c.adoptExternal params) (c.adoptExternal params) Renumbering.Names := by
  unfold adoptExternal
  split
  · exact .throw h _
  · exact .lift (addHandle_follows h rfl)

theorem external?_tracks (h : Abreast c own s t) :
    Tracks c own s t c.external? c.external? fun own' => Option.Rel own'.Names := by
  unfold external?
  refine .bind (externalParams?_tracks h) ?_
  rintro _ _ _ _ params? - h rfl
  cases params? with
  | none => exact .pure h .none
  | some params =>
      refine .bind (getOrCreate_tracks h (externalKey params) (adoptExternal_tracks h params)) ?_
      rintro _ _ _ _ _ - h ⟨hid, -⟩
      exact .pure h (.some hid)

theorem provideOwned_tracks (h : Abreast c own s t) (node : ScopeNode) (key : ResourceKey) :
    Tracks c own s t (do return ⟨← provision c.backend node key, .owned⟩)
      (do return ⟨← provision c.backend node key, .owned⟩) Binding.Same :=
  .bind (provision_tracks h node key) fun _ h hid => .pure h ⟨hid, rfl⟩

theorem obtainForClass_tracks (h : Abreast c own s t) (node : ScopeNode) (decl : Declaration) :
    Tracks c own s t (c.obtainForClass node decl) (c.obtainForClass node decl) Binding.Same := by
  unfold obtainForClass
  refine .bind (external?_tracks h) fun _ h hfound => ?_
  rcases rel_cases hfound with ⟨hs, ht⟩ | ⟨_, _, hs, ht, hid⟩
  · rw [hs, ht]
    refine .get_bind (.except_bind h (c.keyFor_congr h.environment decl) fun key _ => ?_)
    split
    · refine .bind (getOrCreate_tracks h key (provision_tracks h node key)) ?_
      rintro _ _ _ _ _ - h ⟨hid, -⟩
      exact .pure h ⟨hid, rfl⟩
    · exact provideOwned_tracks h node key
  · rw [hs, ht]
    exact .pure h ⟨hid, rfl⟩

theorem obtainForMethod_tracks (h : Abreast c own s t) (node : ScopeNode) (decl : Declaration) :
    Tracks c own s t (c.obtainForMethod node decl) (c.obtainForMethod node decl) Binding.Same := by
  unfold obtainForMethod
  refine .bind (external?_tracks h) fun _ h hfound => ?_
  rcases rel_cases hfound with ⟨hs, ht⟩ | ⟨_, _, hs, ht, hid⟩
  · rw [hs, ht]
    exact .get_bind (.except_bind h (c.keyFor_congr h.environment decl) fun key _ =>
      provideOwned_tracks h node key)
  · rw [hs, ht]
    exact .pure h ⟨hid, rfl⟩

/-! ## Migrations of a binding -/

theorem stopOwned_follows (h : Abreast c own s t) (hbinding : binding.Same own binding') :
    Follows c own s t (stopOwned binding) (stopOwned binding') Agree := by
  unfold stopOwned
  rw [hbinding.2]
  split
  · exact stopOrWarn_follows h hbinding.1
  · exact .pure h rfl

theorem orStop_tracks {task task' : Action LifecycleError Unit}
    (hbinding : binding.Same own binding') (htask : Tracks c own s t task task' Agree) :
    Tracks c own s t (orStop binding task) (orStop binding' task') Agree :=
  .tryCatch htask fun error hgrown h =>
    .bind (.lift (stopOwned_follows h (hbinding.mono hgrown))) fun _ h _ => .throw h error

theorem settle_tracks {task task' : Action LifecycleError Unit}
    (hbinding : binding.Same own binding') (htask : Tracks c own s t task task' Agree) :
    Tracks c own s t (settle binding task) (settle binding' task') Agree :=
  .bind (orStop_tracks hbinding htask) fun hgrown h _ =>
    .lift (stopOwned_follows h (hbinding.mono hgrown))

theorem applyForClass_tracks (h : Abreast c own s t) (hbinding : binding.Same own binding')
    (policy : Migration.Policy) :
    Tracks c own s t (c.applyForClass binding policy) (c.applyForClass binding' policy) Agree := by
  unfold applyForClass
  split
  · refine orStop_tracks hbinding ?_
    rw [hbinding.2]
    split
    · exact acquire_tracks h hbinding.1 c.migrationRoot policy
    · exact migrate_tracks h hbinding.1 .apply c.migrationRoot policy
  · exact .pure h rfl

theorem applyForMethod_tracks (h : Abreast c own s t) (hbinding : binding.Same own binding')
    (policy : Migration.Policy) :
    Tracks c own s t (c.applyForMethod binding policy)
      (c.applyForMethod binding' policy) Agree := by
  unfold applyForMethod
  split
  · exact orStop_tracks hbinding (migrate_tracks h hbinding.1 .apply c.migrationRoot policy)
  · exact .pure h rfl

theorem dropForClass_tracks (h : Abreast c own s t) (hbinding : binding.Same own binding')
    (policy : Migration.Policy) :
    Tracks c own s t (c.dropForClass binding policy) (c.dropForClass binding' policy) Agree := by
  unfold dropForClass
  split
  · rw [hbinding.2]
    split
    · exact release_tracks h hbinding.1 c.migrationRoot policy
    · exact migrate_tracks h hbinding.1 .drop c.migrationRoot policy
  · exact .pure h rfl

theorem dropForMethod_tracks (h : Abreast c own s t) (hbinding : binding.Same own binding')
    (policy : Migration.Policy) :
    Tracks c own s t (c.dropForMethod binding policy) (c.dropForMethod binding' policy) Agree := by
  unfold dropForMethod
  split
  · exact migrate_tracks h hbinding.1 .drop c.migrationRoot policy
  · exact .pure h rfl

/-! ## Before-hooks -/

theorem openClass_tracks (h : Abreast c own s t) (node : ScopeNode) :
    Tracks c own s t (c.openClass node) (c.openClass node) Agree := by
  unfold openClass
  refine .get_bind (.except_bind h (declarationAt_congr h node) fun decl _ => ?_)
  split
  · exact .pure h rfl
  · refine .except_bind h rfl fun _ _ => ?_
    refine .bind (obtainForClass_tracks h node decl) fun _ h hbinding => ?_
    refine .bind (applyForClass_tracks h hbinding _) fun hgrown h _ => ?_
    exact .lift (bind_follows h (hbinding.mono hgrown) node)

theorem beforeAll_tracks (h : Abreast c own s t) (node : ScopeNode) :
    Tracks c own s t (c.beforeAll node) (c.beforeAll node) Agree := by
  unfold beforeAll
  refine .except_bind h rfl fun _ _ => .bind (ensureOpen_tracks h node) fun _ h _ => .get_bind ?_
  rw [isSome_binding?_congr h node]
  split
  · exact .pure h rfl
  · exact openClass_tracks h node

theorem borrowFromClass_tracks (h : Abreast c own s t) (node : ScopeNode) :
    Tracks c own s t (c.borrowFromClass node) (c.borrowFromClass node) Binding.Same := by
  unfold borrowFromClass
  split
  · exact .throw h _
  next outer _ =>
    refine .bind (beforeAll_tracks h outer) fun _ h _ => .get_bind ?_
    rcases rel_cases (binding?_rel h outer) with ⟨hs, ht⟩ | ⟨_, _, hs, ht, hbinding⟩
    · rw [hs, ht]
      exact .throw h _
    · rw [hs, ht]
      exact .pure h ⟨hbinding.1, rfl⟩

theorem warnOfRepetition_follows (h : Abreast c own s t) (hid : own.Names id id')
    (decl : Declaration) :
    Follows c own s t (c.warnOfRepetition decl id) (c.warnOfRepetition decl id') Agree := by
  have hwarned :
      ∀ key, t.warnedKeys.contains (c.name, key) = s.warnedKeys.contains (c.name, key) := by
    intro key
    rw [Bool.eq_iff_iff, List.contains_iff_mem, List.contains_iff_mem, h.warnedKeys]
  unfold warnOfRepetition
  refine .get_bind (.get_bind ?_)
  rw [h.handle hid, hwarned]
  split
  · exact .bind (R := Agree) ⟨own, recall_paced h _, rfl⟩ fun _ h _ => warn_follows h _
  · exact .pure h rfl

theorem openMethod_tracks (h : Abreast c own s t) (node : ScopeNode) :
    Tracks c own s t (c.openMethod node) (c.openMethod node) Agree := by
  have hbound : ∀ {own s t binding binding'}, Abreast c own s t → binding.Same own binding' →
      ∀ decl : Declaration, Tracks c own s t
        (do c.warnOfRepetition decl binding.handle
            c.applyForMethod binding decl.migration
            c.bind node binding)
        (do c.warnOfRepetition decl binding'.handle
            c.applyForMethod binding' decl.migration
            c.bind node binding') Agree := by
    intro own s t binding binding' h hbinding decl
    refine .bind (.lift (warnOfRepetition_follows h hbinding.1 decl)) fun hgrown h _ => ?_
    have hbinding := hbinding.mono hgrown
    refine .bind (applyForMethod_tracks h hbinding _) fun hgrown h _ => ?_
    exact .lift (bind_follows h (hbinding.mono hgrown) node)
  unfold openMethod
  refine .get_bind (.except_bind h (declarationAt_congr h node) fun decl _ => ?_)
  refine .except_bind h rfl fun _ _ => ?_
  split
  · exact .bind (obtainForMethod_tracks h node decl) fun _ h hbinding => hbound h hbinding decl
  · exact .bind (borrowFromClass_tracks h node) fun _ h hbinding => hbound h hbinding decl

theorem beforeEach_tracks (h : Abreast c own s t) (node : ScopeNode) :
    Tracks c own s t (c.beforeEach node) (c.beforeEach node) Agree := by
  unfold beforeEach
  refine .except_bind h rfl fun _ _ => .bind (ensureOpen_tracks h node) fun _ h _ => .get_bind ?_
  rw [isSome_binding?_congr h node]
  split
  · exact .pure h rfl
  · exact openMethod_tracks h node

/-! ## After-hooks -/

theorem closeDown_tracks {drop : Binding → Migration.Policy → Action LifecycleError Unit}
    (hdrop : ∀ {own s t binding binding'}, Abreast c own s t → binding.Same own binding' →
      ∀ policy, Tracks c own s t (drop binding policy) (drop binding' policy) Agree)
    (h : Abreast c own s t) (node : ScopeNode) :
    Tracks c own s t (c.closeDown node drop) (c.closeDown node drop) Agree := by
  unfold closeDown
  refine .bind (.lift (close_follows h node)) fun _ h hclosed => ?_
  rcases rel_cases hclosed with ⟨hs, ht⟩ | ⟨_, _, hs, ht, hbinding⟩
  · rw [hs, ht]
    exact .pure h rfl
  · rw [hs, ht]
    exact .get_bind (.except_bind h (declarationAt_congr h node) fun decl _ =>
      settle_tracks hbinding (hdrop h hbinding decl.migration))

theorem afterEach_tracks (h : Abreast c own s t) (node : ScopeNode) :
    Tracks c own s t (c.afterEach node) (c.afterEach node) Agree :=
  closeDown_tracks dropForMethod_tracks h node

theorem afterAll_tracks (h : Abreast c own s t) (node : ScopeNode) :
    Tracks c own s t (c.afterAll node) (c.afterAll node) Agree :=
  closeDown_tracks dropForClass_tracks h node

/-! ## Connections -/

theorem prepare_tracks (h : Abreast c own s t) (node : ScopeNode) :
    Tracks c own s t (c.prepare node) (c.prepare node) Agree := by
  unfold prepare
  split
  · exact beforeEach_tracks h node
  · refine .get_bind (.except_bind h (declarationAt_congr h node) fun decl _ => ?_)
    split
    · exact .bind (R := Agree) (.throw h _) fun _ h _ => beforeAll_tracks h node
    · exact beforeAll_tracks h node
  · exact .throw h _

theorem resolve_tracks (h : Abreast c own s t) (node : ScopeNode) :
    Tracks c own s t (c.resolve node) (c.resolve node) Renumbering.Names := by
  unfold resolve
  refine .bind (prepare_tracks h node) fun _ h _ => .get_bind ?_
  rcases rel_cases (binding?_rel h node) with ⟨hs, ht⟩ | ⟨_, _, hs, ht, hbinding⟩
  · rw [hs, ht]
    exact .throw h _
  · rw [hs, ht]
    refine .get_bind ?_
    rw [h.handle hbinding.1]
    split
    · exact .bind (R := Agree) (.throw h _) fun hgrown h _ => .pure h (hbinding.1.mono hgrown)
    · exact .pure h hbinding.1

theorem resolveParams_tracks (h : Abreast c own s t) (node : ScopeNode) :
    Tracks c own s t (c.resolveParams node) (c.resolveParams node) Agree := by
  unfold resolveParams
  refine .bind (resolve_tracks h node) fun _ h hid => .get_bind ?_
  rw [h.handle hid]
  exact .pure h rfl

theorem declareFrom_tracks (h : Abreast c own s t) (node : ScopeNode) (file : DeclarationFile) :
    Tracks c own s t (c.declareFrom node file) (c.declareFrom node file) Agree := by
  unfold declareFrom
  split
  · exact .throw h _
  · exact .except_bind h rfl fun _ _ => .lift (declare_follows h node _)

end ScopedResources.Lifecycle.Coordinator
