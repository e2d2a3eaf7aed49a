import ScopedResources.Proofs.ChangelogLoading
import ScopedResources.Proofs.PlainFiles
import ScopedResources.Proofs.Rearranged
import ScopedResources.Proofs.VersionedRuns
import Mathlib.Data.List.Nodup
import Mathlib.Data.List.Perm.Basic

/-!
# The order of walks

A walk comes to the files at a location in an order that nobody fixes. The files are sorted by name,
so the order is gone where no two of them have the same name. An engine that sorts by versions as
well does not even see the order of the locations, since like versions are refused. -/

namespace ScopedResources.Migration

open Files

/-- The extensions of the files that an engine looks for. -/
def Engine.extensions : Engine → List String
  | .none => []
  | .scripts => Scripts.extensions
  | .flyway => Flyway.extensions
  | .liquibase => Changelog.extensions
  | .cognitor => Cognitor.extensions

/-! ## Plans of collected files -/

/-- What an engine does with the files that it has collected. -/
def planOf (direction : Direction) (engine : Engine) (tree : Tree) (locations : List String)
    (files : List Found) : Plan :=
  match direction, engine with
  | _, .none => {}
  | .apply, .scripts => runFiles tree (files.filter fun file => !Scripts.isDrop file)
  | .drop, .scripts => runFiles tree (files.filter Scripts.isDrop)
  | .apply, .flyway => applyVersions tree .applied files
  | .drop, .flyway => .ofExcept ((Naming.undone.ordered files).map fun undo =>
    if undo.isEmpty then dropCreated tree .applied locations files
    else runFiles tree (undo.reverse.map (·.file)))
  | direction, .liquibase => .ofExcept ((files.mapM fun file =>
      Changelog.load tree (Changelog.maxDepth + 1) file.path).map fun sets =>
    .concat ((Changelog.arrange direction sets.flatten).map fun set =>
      .ofStatements set.origin (set.statementsTo direction)))
  | .apply, .cognitor => applyVersions tree .numbered files
  | .drop, .cognitor => dropCreated tree .numbered locations files

/-- What an engine does once collecting files has come to a result. The engine that does nothing
collects nothing. -/
def planFrom (direction : Direction) (engine : Engine) (tree : Tree) (locations : List String)
    (collected : Except Failure (List Found)) : Plan :=
  match engine with
  | .none => {}
  | engine => .ofExcept (collected.map (planOf direction engine tree locations))

theorem plan_eq_planFrom (direction : Direction) (engine : Engine) (tree : Tree) (root : String)
    (locations : List String) : plan direction engine tree root locations =
      planFrom direction engine tree locations (collect tree root engine.extensions locations) := by
  cases engine with
  | none => cases direction <;> rfl
  | scripts => cases direction <;> rfl
  | flyway =>
      cases direction with
      | apply => rfl
      | drop =>
          simp only [plan, Flyway.drop, planFrom, Engine.extensions]
          cases collect tree root Flyway.extensions locations <;> rfl
  | liquibase =>
      rw [Changelog.plan_eq, Changelog.changeSets]
      simp only [planFrom, Engine.extensions]
      cases collect tree root Changelog.extensions locations with
      | error failure => rfl
      | ok files =>
          simp only [Except.map, Plan.ofExcept, planOf]
          cases hload : files.mapM fun file =>
              Changelog.load tree (Changelog.maxDepth + 1) file.path <;>
            simp [hload, bind, Except.bind, pure, Except.pure]
  | cognitor => cases direction <;> rfl

section Reading

variable {tree tree' : Tree}

theorem runFiles_congr (h : textAt tree = textAt tree') : runFiles tree = runFiles tree' := by
  have hfile : runFile tree = runFile tree' := by
    funext file
    rw [runFile, runFile, h]
  funext files
  rw [runFiles, runFiles, hfile]

theorem dropCreated_congr (h : textAt tree = textAt tree') :
    dropCreated tree = dropCreated tree' := by
  funext naming locations files
  simp only [dropCreated, h]

theorem load_congr (h : textAt tree = textAt tree') (levels : Nat) :
    Changelog.load tree levels = Changelog.load tree' levels := by
  induction levels with
  | zero => rfl
  | succ levels ih =>
      funext path
      simp only [Changelog.load, Changelog.loadChangeSet, h, ih]

/-- What an engine does with its files depends on the tree through the texts that it reads. -/
theorem planOf_congr (h : textAt tree = textAt tree') (direction : Direction) (engine : Engine) :
    planOf direction engine tree = planOf direction engine tree' := by
  funext locations files
  cases direction <;> cases engine <;>
    simp only [planOf, applyVersions, runFiles_congr h, dropCreated_congr h, load_congr h]

theorem planFrom_congr (h : textAt tree = textAt tree') (direction : Direction) (engine : Engine) :
    planFrom direction engine tree = planFrom direction engine tree' := by
  funext locations collected
  cases engine <;> simp only [planFrom, planOf_congr h]

end Reading

/-! ## Walks -/

/-- A location, and the files that a walk comes to there, in the order in which it comes to them. -/
structure Walk where
  location : String
  files : List Found

namespace Walk

/-- The walk comes to the files at its location, each once, in whatever order. -/
def Complete (tree : Tree) (root : String) (walk : Walk) : Prop :=
  walk.files.Perm (tree.filesAt (Path.join root walk.location))

/-- No two files with one of the extensions have the same name. -/
def Unambiguous (extensions : List String) (walk : Walk) : Prop :=
  ((walk.files.filter (hasExtension extensions)).map Found.name).Nodup

/-- The files of an engine, as the walk of their location comes to them. -/
def collected (tree : Tree) (root : String) (extensions : List String) (walk : Walk) :
    Except Failure (List Found) :=
  let path := Path.join root walk.location
  if tree.exists? path then .ok (select extensions walk.files)
  else .error ⟨path, .locationMissing⟩

end Walk

/-- The files of an engine at some locations, as the walks come to them. -/
def collectWalked (tree : Tree) (root : String) (extensions : List String) (walks : List Walk) :
    Except Failure (List Found) :=
  (walks.mapM (Walk.collected tree root extensions)).map List.flatten

/-- Runs the plan of an engine. -/
def Plan.runFor {m : Type → Type} [Monad m] (send : String → m (Except StatementError Unit))
    (engine : Engine) (plan : Plan) : m (Except LifecycleError Unit) := do
  let result ← plan.run send
  return result.mapError (Failure.toError engine)

/-- Runs a migration on what the walks come to. -/
def runWalked {m : Type → Type} [Monad m] (send : String → m (Except StatementError Unit))
    (direction : Direction) (engine : Engine) (tree : Tree) (root : String) (walks : List Walk) :
    m (Except LifecycleError Unit) :=
  (planFrom direction engine tree (walks.map Walk.location)
    (collectWalked tree root engine.extensions walks)).runFor send engine

variable {tree : Tree} {root : String} {extensions : List String}

/-- Files with names of their own are sorted in one way only. -/
theorem select_eq_of_perm {files others : List Found} (hperm : files.Perm others)
    (hnodup : ((files.filter (hasExtension extensions)).map Found.name).Nodup) :
    select extensions files = select extensions others := by
  have hsorted : ∀ files : List Found,
      (select extensions files).Pairwise fun a b => decide (a.name ≤ b.name) = true := by
    intro files
    refine List.pairwise_mergeSort (fun a b c hab hbc => ?_) (fun a b => ?_) _
    · exact decide_eq_true (String.le_trans (of_decide_eq_true hab) (of_decide_eq_true hbc))
    · simp [String.le_total a.name b.name]
  have hselected : (select extensions files).Perm (files.filter (hasExtension extensions)) :=
    List.mergeSort_perm ..
  have hothers : (select extensions others).Perm (others.filter (hasExtension extensions)) :=
    List.mergeSort_perm ..
  have hsame := hselected.trans ((hperm.filter _).trans hothers.symm)
  refine List.Perm.eq_of_pairwise (fun a b ha hb hab hba => ?_) (hsorted files)
    (hsorted others) hsame
  exact List.inj_on_of_nodup_map hnodup (hselected.mem_iff.mp ha)
    (hselected.mem_iff.mp (hsame.mem_iff.mpr hb))
    (String.le_antisymm (of_decide_eq_true hab) (of_decide_eq_true hba))

theorem select_perm {files others : List Found} (h : files.Perm others) :
    (select extensions files).Perm (select extensions others) :=
  (List.mergeSort_perm ..).trans ((h.filter _).trans (List.mergeSort_perm ..).symm)

variable {walks : List Walk}

theorem collectWalked_eq_collect (hcomplete : ∀ walk ∈ walks, walk.Complete tree root)
    (hnames : ∀ walk ∈ walks, walk.Unambiguous extensions) :
    collectWalked tree root extensions walks =
      collect tree root extensions (walks.map Walk.location) := by
  have hwalk : ∀ walk ∈ walks,
      walk.collected tree root extensions = collectAt tree root extensions walk.location := by
    intro walk hmem
    rw [Walk.collected, select_eq_of_perm (hcomplete walk hmem) (hnames walk hmem)]
    rfl
  rw [collectWalked, collect, List.mapM_map]
  exact congrArg (Except.map List.flatten) (mapM_congr hwalk)

theorem collectWalked_eq_ok_iff {files : List Found} :
    collectWalked tree root extensions walks = .ok files ↔
      (∀ walk ∈ walks, tree.exists? (Path.join root walk.location) = true) ∧
        (walks.flatMap fun walk => select extensions walk.files) = files :=
  mapM_flatten_eq_ok_iff fun _ _ => ite_eq_ok_iff

/-! ## Rearranged trees -/

/-- Walks of some locations as the order of a tree has it. -/
def walksOf (tree : Tree) (root : String) (locations : List String) : List Walk :=
  locations.map fun location => ⟨location, tree.filesAt (Path.join root location)⟩

theorem map_location_walksOf (tree : Tree) (root : String) (locations : List String) :
    (walksOf tree root locations).map Walk.location = locations := by
  rw [walksOf, List.map_map]
  exact List.map_id _

/-- A run in a rearranged tree is a run on walks that come to all files. -/
theorem run_of_rearranged {tree' : Tree} (h : tree.Rearranges tree') (direction : Direction)
    (engine : Engine) (root : String) (locations : List String) :
    (∀ walk ∈ walksOf tree' root locations, walk.Complete tree root) ∧
      ∀ {m : Type → Type} [Monad m] (send : String → m (Except StatementError Unit)),
        run send direction engine tree' root locations =
          runWalked send direction engine tree root (walksOf tree' root locations) := by
  have hcollect : collect tree' root engine.extensions locations =
      collectWalked tree root engine.extensions (walksOf tree' root locations) := by
    rw [collect, collectWalked, walksOf, List.mapM_map]
    refine congrArg (Except.map List.flatten) (mapM_congr fun location _ => ?_)
    unfold collectAt
    dsimp only
    rw [← h.exists?]
    rfl
  have htext : textAt tree' = textAt tree := by
    funext path
    rw [textAt, textAt, h.read]
  have hplan : plan direction engine tree' root locations =
      planFrom direction engine tree locations
        (collectWalked tree root engine.extensions (walksOf tree' root locations)) := by
    rw [plan_eq_planFrom, hcollect, planFrom_congr htext]
  constructor
  · intro walk hwalk
    obtain ⟨location, -, rfl⟩ := List.mem_map.mp hwalk
    exact (h.filesAt _).symm
  · intro m _ send
    rw [runWalked, map_location_walksOf, ← hplan]
    rfl

/-! ## Results that differ in little -/

/-- Both succeed, with results that are related, or both fail. -/
inductive Agree {ε α β : Type} (related : α → β → Prop) : Except ε α → Except ε β → Prop
  | ok {a : α} {b : β} (h : related a b) : Agree related (.ok a) (.ok b)
  | error (e e' : ε) : Agree related (.error e) (.error e')

theorem agree_collect {locations : List String}
    (hcomplete : ∀ walk ∈ walks, walk.Complete tree root)
    (hlocations : locations.Perm (walks.map Walk.location)) :
    Agree List.Perm (collectWalked tree root extensions walks)
      (collect tree root extensions locations) := by
  have hexist : (∀ walk ∈ walks, tree.exists? (Path.join root walk.location) = true) ↔
      ∀ location ∈ locations, tree.exists? (Path.join root location) = true := by
    simp [hlocations.mem_iff]
  have hfiles : (walks.flatMap fun walk => select extensions walk.files).Perm
      (locations.flatMap fun location =>
        select extensions (tree.filesAt (Path.join root location))) := by
    refine (List.Perm.flatMap_left walks fun walk hwalk =>
      select_perm (hcomplete walk hwalk)).trans ?_
    have hright := hlocations.symm.flatMap_right fun location =>
      select extensions (tree.filesAt (Path.join root location))
    rwa [List.flatMap_map] at hright
  cases hwalked : collectWalked tree root extensions walks with
  | ok files =>
      obtain ⟨hall, rfl⟩ := collectWalked_eq_ok_iff.mp hwalked
      rw [collect_eq_ok_iff.mpr ⟨hexist.mp hall, rfl⟩]
      exact .ok hfiles
  | error failure =>
      cases hcollect : collect tree root extensions locations with
      | error other => exact .error ..
      | ok files =>
          have hall := hexist.mpr (collect_eq_ok_iff.mp hcollect).1
          cases hwalked.symm.trans (collectWalked_eq_ok_iff.mpr ⟨hall, rfl⟩)

/-- There is one strict order of scripts with unlike versions, from whatever order they come. -/
theorem Naming.agree_ordered (naming : Naming) {files others : List Found} (h : files.Perm others) :
    Agree (· = ·) (naming.ordered files) (naming.ordered others) := by
  have hversioned : (naming.versioned files).Perm (naming.versioned others) := h.filterMap _
  have hdistinct := hversioned.pairwise_iff (R := Distinct) fun h h' => h h'.symm
  -- Whether two versions are alike does not hang on the order, so mixed cases cannot occur.
  rcases naming.ordered_cases files with
    ⟨hlike, failure, hordered⟩ | ⟨hunlike, scripts, hordered, hsorted, hperm⟩ <;>
  rcases naming.ordered_cases others with
    ⟨hlike', failure', hordered'⟩ | ⟨hunlike', scripts', hordered', hsorted', hperm'⟩ <;>
  rw [hordered, hordered']
  · exact .error ..
  · exact absurd (hdistinct.mpr hunlike') hlike
  · exact absurd (hdistinct.mp hunlike) hlike'
  · have hscripts := hperm.trans (hversioned.trans hperm'.symm)
    exact .ok (List.Perm.eq_of_pairwise (fun _ _ _ _ hbelow habove => absurd habove hbelow.asymm)
      hsorted hsorted' hscripts)

namespace Plan

/-- Plans with the same statements, which may name other places, and which both fail or both do not.
-/
structure Alike (p q : Plan) : Prop where
  statements : p.steps.map Step.statement = q.steps.map Step.statement
  failure : p.failure.isNone = q.failure.isNone

variable {p q : Plan}

theorem Alike.refl (p : Plan) : p.Alike p :=
  ⟨rfl, rfl⟩

theorem Alike.fail (failure failure' : Failure) : (Plan.fail failure).Alike (Plan.fail failure') :=
  ⟨rfl, rfl⟩

theorem Alike.ofStatements (origin origin' : String) (statements : List String) :
    (Plan.ofStatements origin statements).Alike (Plan.ofStatements origin' statements) :=
  ⟨by simp [Plan.ofStatements, Function.comp_def], rfl⟩

theorem Alike.ofExcept_map {α β : Type} {related : α → β → Prop} {known : Except Failure α}
    {known' : Except Failure β} {f : α → Plan} {g : β → Plan} (h : Agree related known known')
    (hplans : ∀ a b, related a b → (f a).Alike (g b)) :
    (Plan.ofExcept (known.map f)).Alike (Plan.ofExcept (known'.map g)) := by
  cases h with
  | ok hrelated => exact hplans _ _ hrelated
  | error e e' => exact .fail e e'

theorem sendAll_congr {steps others : List Step}
    (h : steps.map Step.statement = others.map Step.statement) (rule : Rule) (past : Traffic) :
    (sendAll rule.send steps past).2 = (sendAll rule.send others past).2 ∧
      (sendAll rule.send steps past).1.isOk = (sendAll rule.send others past).1.isOk := by
  induction steps generalizing past others with
  | nil =>
      obtain rfl := List.map_eq_nil_iff.mp h.symm
      exact ⟨rfl, rfl⟩
  | cons step rest ih =>
      obtain ⟨other, others, rfl, hstatement, hrest⟩ := List.map_eq_cons_iff.mp h.symm
      unfold sendAll
      rw [Lifecycle.Action.step_bind, Lifecycle.Action.step_bind, Rule.send, Rule.send, hstatement]
      cases rule past.seen step.statement with
      | none => exact ih hrest.symm _
      | some error => exact ⟨rfl, rfl⟩

theorem runFor_send (plan : Plan) (engine : Engine) (rule : Rule) (past : Traffic) :
    (plan.runFor rule.send engine past).2 = (sendAll rule.send plan.steps past).2 ∧
      (plan.runFor rule.send engine past).1.isOk =
        ((sendAll rule.send plan.steps past).1.isOk && plan.failure.isNone) := by
  unfold Plan.runFor Plan.run
  rw [Lifecycle.Action.step_bind, Lifecycle.Action.step_bind]
  rcases sendAll rule.send plan.steps past with ⟨failure | _, traffic⟩
  · exact ⟨rfl, rfl⟩
  · cases plan.failure <;> exact ⟨rfl, rfl⟩

/-- Alike plans send the same, and both succeed or both fail. -/
theorem Alike.runFor (h : p.Alike q) (engine : Engine) (rule : Rule) (past : Traffic) :
    (p.runFor rule.send engine past).2 = (q.runFor rule.send engine past).2 ∧
      (p.runFor rule.send engine past).1.isOk = (q.runFor rule.send engine past).1.isOk := by
  obtain ⟨htraffic, hok⟩ := sendAll_congr h.statements rule past
  obtain ⟨hp, hpok⟩ := p.runFor_send engine rule past
  obtain ⟨hq, hqok⟩ := q.runFor_send engine rule past
  exact ⟨by rw [hp, hq, htraffic], by rw [hpok, hqok, hok, h.failure]⟩

end Plan

/-! ## Runs -/

theorem dropCreated_alike (naming : Naming) {files others : List Found} (h : files.Perm others)
    (locations locations' : List String) :
    (dropCreated tree naming locations files).Alike
      (dropCreated tree naming locations' others) := by
  have hordered := naming.agree_ordered h
  unfold dropCreated
  generalize naming.ordered files = known at hordered
  generalize naming.ordered others = known' at hordered
  cases hordered with
  | error e e' => exact .fail e e'
  | @ok scripts _ heq =>
      subst heq
      dsimp only [bind, Except.bind]
      cases scripts.mapM fun script => (textAt tree script.file.path).map Sql.statements with
      | error failure => exact .refl _
      | ok statements => exact .ofStatements ..

/-- An engine that sorts by versions sees neither the order of its files nor that of the locations.
-/
theorem planOf_alike (tree : Tree) (direction : Direction) {engine : Engine}
    (hengine : engine = .flyway ∨ engine = .cognitor) {files others : List Found}
    (h : files.Perm others) (locations locations' : List String) :
    (planOf direction engine tree locations files).Alike
      (planOf direction engine tree locations' others) := by
  have happly : ∀ naming : Naming,
      (applyVersions tree naming files).Alike (applyVersions tree naming others) := fun naming =>
    .ofExcept_map (naming.agree_ordered h) fun scripts _ heq => heq ▸ .refl _
  rcases hengine with rfl | rfl
  · cases direction with
    | apply => exact happly .applied
    | drop =>
        refine .ofExcept_map (Naming.undone.agree_ordered h) fun undo _ heq => ?_
        subst heq
        split
        · exact dropCreated_alike .applied h locations locations'
        · exact .refl _
  · cases direction with
    | apply => exact happly .numbered
    | drop => exact dropCreated_alike .numbered h locations locations'

theorem planFrom_alike (tree : Tree) (direction : Direction) {engine : Engine}
    (hengine : engine = .flyway ∨ engine = .cognitor) {known known' : Except Failure (List Found)}
    (h : Agree List.Perm known known') (locations locations' : List String) :
    (planFrom direction engine tree locations known).Alike
      (planFrom direction engine tree locations' known') := by
  have halike := Plan.Alike.ofExcept_map h fun files others hperm =>
    planOf_alike tree direction hengine hperm locations locations'
  rcases hengine with rfl | rfl <;> exact halike

/-- Let every walk come to the files at its location, in any order. Where the files of the engine at
each location have names of their own, a migration in either direction does on every connection what
it does in the order of the tree, with the same result. An engine that sorts by versions sends the
same whatever the names are, also with the locations in another order, and then both runs succeed or
both fail. -/
theorem runs_ignore_walk_order (direction : Direction) (engine : Engine) (tree : Tree)
    (root : String) (walks : List Walk) (hcomplete : ∀ walk ∈ walks, walk.Complete tree root) :
    ((∀ walk ∈ walks, walk.Unambiguous engine.extensions) →
      ∀ {m : Type → Type} [Monad m] (send : String → m (Except StatementError Unit)),
        runWalked send direction engine tree root walks =
          run send direction engine tree root (walks.map Walk.location)) ∧
    (engine = .flyway ∨ engine = .cognitor →
      ∀ locations, locations.Perm (walks.map Walk.location) → ∀ (rule : Rule) (past : Traffic),
        (runWalked rule.send direction engine tree root walks past).2 =
            (run rule.send direction engine tree root locations past).2 ∧
          (runWalked rule.send direction engine tree root walks past).1.isOk =
            (run rule.send direction engine tree root locations past).1.isOk) := by
  constructor
  · intro hnames m _ send
    rw [runWalked, collectWalked_eq_collect hcomplete hnames, ← plan_eq_planFrom]
    rfl
  · intro hengine locations hlocations rule past
    have hcollected : Agree List.Perm (collectWalked tree root engine.extensions walks) _ :=
      agree_collect hcomplete hlocations
    have halike :=
      planFrom_alike tree direction hengine hcollected (walks.map Walk.location) locations
    rw [← plan_eq_planFrom] at halike
    exact halike.runFor engine rule past

/-! ## A directory that is walked backwards -/

namespace Backwards

/-- A directory with two versions, and a third one beside it. -/
def files : Tree where
  entries := [(["db"], .directory),
    (["db", "V1__users.sql"], .file "CREATE TABLE users(id INT)".toUTF8),
    (["db", "V2__roles.sql"], .file "CREATE TABLE roles(id INT)".toUTF8),
    (["V3__tags.sql"], .file "CREATE TABLE tags(id INT)".toUTF8)]

def backwards : List Walk :=
  [⟨"V3__tags.sql", [⟨"V3__tags.sql", "V3__tags.sql"⟩]⟩,
    ⟨"db", [⟨"db/V2__roles.sql", "V2__roles.sql"⟩, ⟨"db/V1__users.sql", "V1__users.sql"⟩]⟩]

theorem plain_names : PlainName "V3__tags.sql" ∧ PlainName "db" := by
  decide +kernel

theorem filesAt_tags : files.filesAt "V3__tags.sql" = [⟨"V3__tags.sql", "V3__tags.sql"⟩] :=
  plain_names.1.filesAt rfl rfl

theorem filesAt_db : files.filesAt "db" =
    [⟨"db/V1__users.sql", "V1__users.sql"⟩, ⟨"db/V2__roles.sql", "V2__roles.sql"⟩] := by
  have hresolve : files.resolve "db" = .ok ["db"] :=
    plain_names.2.resolve_entry rfl rfl fun _ heq => by cases heq
  rw [Tree.filesAt, hresolve]
  dsimp only
  rw [Tree.walk_eq]
  decide +kernel

theorem backwards_complete : ∀ walk ∈ backwards, walk.Complete files "" := by
  unfold backwards Walk.Complete
  rw [List.forall_mem_cons, List.forall_mem_singleton, plain_names.1.join, plain_names.2.join,
    filesAt_tags, filesAt_db]
  exact ⟨.refl _, .swap ..⟩

theorem backwards_walk_runs_the_same :
    (∀ walk ∈ backwards, walk.Complete files "") ∧
    (∀ walk ∈ backwards, walk.Unambiguous Flyway.extensions) ∧
    (∀ (rule : Rule) (past : Traffic), runWalked rule.send .apply .flyway files "" backwards past =
      run rule.send .apply .flyway files "" ["V3__tags.sql", "db"] past) ∧
    ∀ (rule : Rule) (past : Traffic),
      (runWalked rule.send .apply .flyway files "" backwards past).2 =
      (run rule.send .apply .flyway files "" ["db", "V3__tags.sql"] past).2 := by
  have hnames : ∀ walk ∈ backwards, walk.Unambiguous Flyway.extensions := by
    unfold Walk.Unambiguous
    decide +kernel
  obtain ⟨hsame, hswapped⟩ :=
    runs_ignore_walk_order .apply .flyway files "" backwards backwards_complete
  exact ⟨backwards_complete, hnames, fun rule past => congrFun (hsame hnames rule.send) past,
    fun rule past => (hswapped (.inl rfl) _ (.swap ..) rule past).1⟩

end Backwards

end ScopedResources.Migration
