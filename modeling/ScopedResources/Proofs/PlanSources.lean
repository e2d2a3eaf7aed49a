import ScopedResources.Migration.Run

/-!
# What plans are made of

The statements of a plan come in runs from one place each: the statements of a file, those of a
change set, or the statements that drop the tables which files create. A plan that fails on its way
has the statements of the places before the failure. -/

namespace ScopedResources.Migration

open Files

/-- Statements that come from one place, in their order. -/
structure Source where
  origin : String
  statements : List String

/-- The statements of a source with the place that they come from. -/
def Source.steps (source : Source) : List Step :=
  source.statements.map (Step.mk source.origin)

theorem map_statement_steps (sources : List Source) :
    (sources.flatMap Source.steps).map Step.statement = sources.flatMap Source.statements := by
  simp [List.map_flatMap, Source.steps, Function.comp_def]

/-- A source is a readable file at some locations. -/
def OfFile (tree : Tree) (root : String) (locations extensions : List String)
    (source : Source) : Prop :=
  ∃ files file text, collect tree root extensions locations = .ok files ∧ file ∈ files ∧
    tree.read file.path = .ok text ∧ source = ⟨file.path, Sql.statements text⟩

/-- The statements of a change set, to apply it or to roll it back. -/
def Changelog.ChangeSet.statementsTo (set : Changelog.ChangeSet) : Direction → List String
  | .apply => set.statements
  | .drop => set.rollback

/-- The sources that an engine takes statements from. -/
inductive Supplies (tree : Tree) (root : String) (locations : List String) :
    Direction → Engine → Source → Prop
  | script {direction source} (hfile : OfFile tree root locations Scripts.extensions source) :
      Supplies tree root locations direction .scripts source
  | versioned {direction source} (hfile : OfFile tree root locations Flyway.extensions source) :
      Supplies tree root locations direction .flyway source
  | numbered {source} (hfile : OfFile tree root locations Cognitor.extensions source) :
      Supplies tree root locations .apply .cognitor source
  | changeSet {direction sets set} (hsets : Changelog.changeSets tree root locations = .ok sets)
      (hset : set ∈ sets) :
      Supplies tree root locations direction .liquibase ⟨set.origin, set.statementsTo direction⟩
  | generated {engine} (hengine : engine = .flyway ∨ engine = .cognitor) (tables : List String) :
      Supplies tree root locations .drop engine ⟨",".intercalate locations, dropStatements tables⟩

/-- The statements of a plan are those of some sources, one source after another. -/
def Plan.ComesFrom (supplied : Source → Prop) (plan : Plan) : Prop :=
  ∃ sources : List Source,
    (∀ source ∈ sources, supplied source) ∧ plan.steps = sources.flatMap Source.steps

variable {supplied : Source → Prop} {tree : Tree} {root : String} {locations : List String}

namespace Plan.ComesFrom

theorem of_steps_nil {plan : Plan} (h : plan.steps = []) : plan.ComesFrom supplied :=
  ⟨[], fun _ hmem => absurd hmem List.not_mem_nil, h⟩

theorem ofStatements {source : Source} (h : supplied source) :
    (Plan.ofStatements source.origin source.statements).ComesFrom supplied := by
  refine ⟨[source], fun other hmem => ?_, ?_⟩
  · rwa [List.mem_singleton.mp hmem]
  · rw [List.flatMap_singleton]
    rfl

theorem append {p q : Plan} (hp : p.ComesFrom supplied) (hq : q.ComesFrom supplied) :
    (p.append q).ComesFrom supplied := by
  unfold Plan.append
  cases p.failure with
  | some _ => exact hp
  | none =>
      obtain ⟨sources, hsources, hsteps⟩ := hp
      obtain ⟨others, hothers, hrest⟩ := hq
      refine ⟨sources ++ others, fun source hmem => ?_, ?_⟩
      · rcases List.mem_append.mp hmem with hmem | hmem
        · exact hsources source hmem
        · exact hothers source hmem
      · rw [List.flatMap_append, ← hsteps, ← hrest]

theorem concat {plans : List Plan} (h : ∀ plan ∈ plans, plan.ComesFrom supplied) :
    (Plan.concat plans).ComesFrom supplied := by
  induction plans with
  | nil => exact of_steps_nil rfl
  | cons plan rest ih =>
      rw [List.forall_mem_cons] at h
      exact append h.1 (ih h.2)

theorem ofExcept {known : Except Failure Plan}
    (h : ∀ plan, known = .ok plan → plan.ComesFrom supplied) :
    (Plan.ofExcept known).ComesFrom supplied := by
  cases known with
  | ok plan => exact h plan rfl
  | error failure => exact of_steps_nil rfl

theorem ofExcept_map {α : Type} {known : Except Failure α} {f : α → Plan}
    (h : ∀ a, known = .ok a → (f a).ComesFrom supplied) :
    (Plan.ofExcept (known.map f)).ComesFrom supplied := by
  refine ofExcept fun plan hplan => ?_
  cases known with
  | ok a =>
      cases hplan
      exact h a rfl
  | error failure => cases hplan

end Plan.ComesFrom

/-! ## Files -/

theorem bind_eq_ok {ε α β : Type} {x : Except ε α} {f : α → Except ε β} {b : β} :
    (x >>= f) = .ok b ↔ ∃ a, x = .ok a ∧ f a = .ok b := by
  cases x <;> simp [bind, Except.bind]

theorem textAt_eq_ok {path text : String} :
    textAt tree path = .ok text ↔ tree.read path = .ok text := by
  unfold textAt
  cases tree.read path with
  | error fault => constructor <;> intro h <;> cases h
  | ok found => exact ⟨fun h => by cases h; rfl, fun h => by cases h; rfl⟩

theorem runFile_comesFrom {file : Found}
    (h : ∀ text, tree.read file.path = .ok text → supplied ⟨file.path, Sql.statements text⟩) :
    (runFile tree file).ComesFrom supplied :=
  .ofExcept_map fun text htext => .ofStatements (h text (textAt_eq_ok.mp htext))

theorem runFiles_comesFrom {files : List Found}
    (h : ∀ file ∈ files, ∀ text, tree.read file.path = .ok text →
      supplied ⟨file.path, Sql.statements text⟩) : (runFiles tree files).ComesFrom supplied := by
  refine .concat fun plan hplan => ?_
  obtain ⟨file, hfile, rfl⟩ := List.mem_map.mp hplan
  exact runFile_comesFrom (h file hfile)

/-- Some of the files at the locations of an engine. -/
theorem runFiles_comesFrom_collected {extensions : List String} {files some : List Found}
    (hcollect : collect tree root extensions locations = .ok files)
    (hsome : ∀ file ∈ some, file ∈ files)
    (hsupplied : ∀ source, OfFile tree root locations extensions source → supplied source) :
    (runFiles tree some).ComesFrom supplied :=
  runFiles_comesFrom fun file hfile text htext =>
    hsupplied _ ⟨files, file, text, hcollect, hsome file hfile, htext, rfl⟩

theorem mem_of_ordered {naming : Naming} {files : List Found} {scripts : List VersionedFile}
    (h : naming.ordered files = .ok scripts) {file : Found} (hfile : file ∈ scripts.map (·.file)) :
    file ∈ files := by
  obtain ⟨script, hscript, rfl⟩ := List.mem_map.mp hfile
  unfold Naming.ordered at h
  dsimp only at h
  split at h
  · cases h
  · cases h
    rw [List.mem_mergeSort, List.mem_filterMap] at hscript
    obtain ⟨file, hmem, hversion⟩ := hscript
    obtain ⟨version, -, rfl⟩ := Option.map_eq_some_iff.mp hversion
    exact hmem

theorem applyVersions_comesFrom {extensions : List String} {files : List Found} (naming : Naming)
    (hcollect : collect tree root extensions locations = .ok files)
    (hsupplied : ∀ source, OfFile tree root locations extensions source → supplied source) :
    (applyVersions tree naming files).ComesFrom supplied :=
  .ofExcept_map fun _ hscripts => runFiles_comesFrom_collected hcollect
    (fun _ hfile => mem_of_ordered hscripts hfile) hsupplied

theorem dropCreated_comesFrom (naming : Naming) (files : List Found)
    (hsupplied : ∀ tables, supplied ⟨",".intercalate locations, dropStatements tables⟩) :
    (dropCreated tree naming locations files).ComesFrom supplied := by
  refine .ofExcept fun plan hplan => ?_
  obtain ⟨scripts, -, hplan⟩ := bind_eq_ok.mp hplan
  obtain ⟨statements, -, hplan⟩ := bind_eq_ok.mp hplan
  cases hplan
  exact .ofStatements (hsupplied _)

/-! ## Engines -/

theorem scripts_comesFrom {keep : Found → Bool} (direction : Direction) :
    (Plan.ofExcept ((collect tree root Scripts.extensions locations).map fun files =>
      runFiles tree (files.filter keep))).ComesFrom
        (Supplies tree root locations direction .scripts) :=
  .ofExcept_map fun _ hcollect => runFiles_comesFrom_collected hcollect
    (fun _ hfile => (List.mem_filter.mp hfile).1) fun _ => .script

theorem flyway_drop_comesFrom : (Flyway.drop tree root locations).ComesFrom
    (Supplies tree root locations .drop .flyway) := by
  refine .ofExcept fun plan hplan => ?_
  obtain ⟨files, hcollect, hplan⟩ := bind_eq_ok.mp hplan
  obtain ⟨undo, hundo, hplan⟩ := bind_eq_ok.mp hplan
  cases hplan
  split
  · exact dropCreated_comesFrom _ _ fun tables => .generated (.inl rfl) tables
  · refine runFiles_comesFrom_collected hcollect (fun file hfile => ?_) fun _ => .versioned
    refine mem_of_ordered hundo ?_
    rwa [List.map_reverse, List.mem_reverse] at hfile

theorem changelog_comesFrom {direction : Direction}
    (arrange : List Changelog.ChangeSet → List Changelog.ChangeSet)
    (harrange : ∀ sets set, set ∈ arrange sets → set ∈ sets) :
    (Plan.ofExcept ((Changelog.changeSets tree root locations).map fun sets =>
      .concat ((arrange sets).map fun set =>
        .ofStatements set.origin (set.statementsTo direction)))).ComesFrom
      (Supplies tree root locations direction .liquibase) := by
  refine .ofExcept_map fun sets hsets => .concat fun plan hplan => ?_
  obtain ⟨set, hset, rfl⟩ := List.mem_map.mp hplan
  exact .ofStatements (Supplies.changeSet hsets (harrange sets set hset))

/-- Whatever an engine does in either direction, it takes its statements from its sources. -/
theorem plan_comesFrom (direction : Direction) (engine : Engine) (tree : Tree) (root : String)
    (locations : List String) :
    (plan direction engine tree root locations).ComesFrom
      (Supplies tree root locations direction engine) := by
  cases direction with
  | apply =>
      cases engine with
      | none => exact .of_steps_nil rfl
      | scripts => exact scripts_comesFrom .apply
      | flyway => exact .ofExcept_map fun _ h => applyVersions_comesFrom _ h fun _ => .versioned
      | liquibase => exact changelog_comesFrom id fun _ _ h => h
      | cognitor => exact .ofExcept_map fun _ h => applyVersions_comesFrom _ h fun _ => .numbered
  | drop =>
      cases engine with
      | none => exact .of_steps_nil rfl
      | scripts => exact scripts_comesFrom .drop
      | flyway => exact flyway_drop_comesFrom
      | liquibase =>
          exact changelog_comesFrom List.reverse fun _ _ h => List.mem_reverse.mp h
      | cognitor =>
          exact .ofExcept_map fun files _ => dropCreated_comesFrom _ files fun tables =>
            .generated (.inr rfl) tables

end ScopedResources.Migration
