import ScopedResources.Proofs.ChangelogLoading

/-!
# Expanding changelogs

A changelog stands for the change sets of its entries, where an entry that includes another
changelog stands for the change sets of that one, in its place. What is loaded is this expansion,
whatever the includes are. So to apply changelogs executes their expansions from front to back, and
to drop them goes through the same change sets from back to front. -/

namespace ScopedResources.Migration.Changelog

open Files

/-- A change set as it stands in the changelog at a path. -/
structure Placed where
  path : String
  set : ChangeSetText

namespace Placed

/-- The statements of a change set in a direction: what it executes, or what rolls it back. -/
def statementsTo (tree : Tree) (placed : Placed) : Direction → List String
  | .apply => forwardStatements tree placed.path placed.set
  | .drop => statementsOf placed.set.rollback

end Placed

/-- The change sets of some entries of the changelog at a path, with those of an included changelog
in the place of the entry that includes it. -/
inductive Expands (tree : Tree) : String → List Entry → List Placed → Prop
  | nil {path : String} : Expands tree path [] []
  | changeSet {path : String} {set : ChangeSetText} {rest : List Entry} {sets : List Placed}
      (hrest : Expands tree path rest sets) :
      Expands tree path (⟨some set, none⟩ :: rest) (⟨path, set⟩ :: sets)
  | inclusion {path file : String} {rest inner : List Entry} {inside sets : List Placed}
      (hwritten : Written tree (beside path file) inner)
      (hinner : Expands tree (beside path file) inner inside)
      (hrest : Expands tree path rest sets) :
      Expands tree path (⟨none, some file⟩ :: rest) (inside ++ sets)

/-- These are the change sets of the changelog at a path, in place and depth first. -/
def Expansion (tree : Tree) (path : String) (sets : List Placed) : Prop :=
  ∃ entries, Written tree path entries ∧ Expands tree path entries sets

variable {tree : Tree} {root path : String} {locations : List String} {entries : List Entry}
variable {sets others : List Placed}

theorem Expands.unique (h : Expands tree path entries sets)
    (h' : Expands tree path entries others) : sets = others := by
  induction h generalizing others with
  | nil => cases h'; rfl
  | changeSet _ ih =>
      cases h' with
      | changeSet hrest => rw [ih hrest]
  | inclusion hwritten _ _ ihinner ihrest =>
      cases h' with
      | inclusion hwritten' hinner hrest =>
          cases hwritten.unique hwritten'
          rw [ihinner hinner, ihrest hrest]

theorem Expansion.unique (h : Expansion tree path sets) (h' : Expansion tree path others) :
    sets = others := by
  obtain ⟨entries, hwritten, hsets⟩ := h
  obtain ⟨entries', hwritten', hothers⟩ := h'
  cases hwritten.unique hwritten'
  exact hsets.unique hothers

/-- The change sets as they are loaded. -/
def loadedAll (tree : Tree) (sets : List Placed) : List ChangeSet :=
  sets.map fun placed => loaded tree placed.path placed.set

theorem expands_of_yields {levels : Nat} {parts : List (List ChangeSet)}
    (hload : ∀ {path sets}, load tree levels path = .ok sets →
      ∃ placed, Expansion tree path placed ∧ loadedAll tree placed = sets)
    (h : List.Forall₂ (Yields tree levels path) entries parts) :
    ∃ placed, Expands tree path entries placed ∧ loadedAll tree placed = parts.flatten := by
  induction h with
  | nil => exact ⟨[], .nil, rfl⟩
  | cons hentry _ ih =>
      obtain ⟨placed, hrest, hparts⟩ := ih
      cases hentry with
      | changeSet hexecutable =>
          exact ⟨_, .changeSet hrest, congrArg (loaded tree path _ :: ·) hparts⟩
      | inclusion hinner =>
          obtain ⟨inside, ⟨inner, hwritten, hinside⟩, rfl⟩ := hload hinner
          refine ⟨_, .inclusion hwritten hinside hrest, ?_⟩
          rw [loadedAll, List.map_append, List.flatten_cons, ← hparts]
          rfl

/-- What is loaded is the expansion of the changelog. -/
theorem expansion_of_load {levels : Nat} {result : List ChangeSet}
    (h : load tree levels path = .ok result) :
    ∃ placed, Expansion tree path placed ∧ loadedAll tree placed = result := by
  induction levels generalizing path result with
  | zero =>
      rw [load_zero] at h
      cases h
  | succ levels ih =>
      -- The level below serves every include, wherever it stands among the entries.
      obtain ⟨entries, parts, hwritten, hparts, rfl⟩ := load_succ_eq_ok_iff.mp h
      obtain ⟨placed, hplaced, hresult⟩ := expands_of_yields ih hparts
      exact ⟨placed, ⟨entries, hwritten, hplaced⟩, hresult⟩

theorem expansions_of_loads {levels : Nat} {files : List Found} {parts : List (List ChangeSet)}
    (h : List.Forall₂ (fun file part => load tree levels file.path = .ok part) files parts) :
    ∃ expansions, List.Forall₂ (fun file sets => Expansion tree file.path sets) files expansions ∧
      loadedAll tree expansions.flatten = parts.flatten := by
  induction h with
  | nil => exact ⟨[], .nil, rfl⟩
  | cons hload _ ih =>
      obtain ⟨expansions, hexpansions, hparts⟩ := ih
      obtain ⟨sets, hsets, rfl⟩ := expansion_of_load hload
      refine ⟨sets :: expansions, .cons hsets hexpansions, ?_⟩
      rw [List.flatten_cons, List.flatten_cons, ← hparts]
      exact List.map_append

theorem flatMap_loadedAll (direction : Direction) (sets : List Placed) :
    (arrange direction (loadedAll tree sets)).flatMap (·.statementsTo direction) =
      (arrange direction sets).flatMap (·.statementsTo tree direction) := by
  cases direction with
  | apply => exact List.flatMap_map ..
  | drop =>
      rw [arrange, arrange, loadedAll, ← List.map_reverse]
      exact List.flatMap_map ..

/-- What is loaded are the expansions of the located changelogs, one behind the other. -/
theorem Sound.expansions (h : Sound tree root locations) :
    ∃ files expansions, collect tree root extensions locations = .ok files ∧
      List.Forall₂ (fun file sets => Expansion tree file.path sets) files expansions ∧
      changeSets tree root locations = .ok (loadedAll tree expansions.flatten) := by
  obtain ⟨_, hsets⟩ := exists_changeSets_iff.mpr h
  obtain ⟨files, parts, hfiles, hparts, rfl⟩ := changeSets_eq_ok_iff.mp hsets
  obtain ⟨expansions, hexpansions, hloaded⟩ := expansions_of_loads hparts
  exact ⟨files, expansions, hfiles, hexpansions, hloaded ▸ hsets⟩

theorem run_of_loadedAll {direction : Direction} {rule : Rule} {past : Traffic}
    (h : changeSets tree root locations = .ok (loadedAll tree sets))
    (haccepts : rule.Accepts past
      ((arrange direction sets).flatMap (·.statementsTo tree direction))) :
    run rule.send direction .liquibase tree root locations past =
      (.ok (), past.accept ((arrange direction sets).flatMap (·.statementsTo tree direction))) := by
  rw [← flatMap_loadedAll] at haccepts ⊢
  exact run_of_changeSets_ok h haccepts

/-- Take changelogs that are well-formed and whose includes nest at most 16 deep. Each of those at
the locations has exactly one expansion. To apply them executes what the change sets of the
expansions execute, one after another; to drop them rolls the same change sets back in the opposite
order, with the statements of each in their own order. A change set without a rollback executes
nothing then. -/
theorem changelogs_expand_in_place (hsound : Sound tree root locations) :
    ∃ files expansions, collect tree root extensions locations = .ok files ∧
      List.Forall₂ (fun file sets => ∀ others, Expansion tree file.path others ↔ others = sets)
        files expansions ∧
      ∀ (rule : Rule) (past : Traffic),
        (rule.Accepts past (expansions.flatten.flatMap (·.statementsTo tree .apply)) →
          run rule.send .apply .liquibase tree root locations past =
            (.ok (), past.accept (expansions.flatten.flatMap (·.statementsTo tree .apply)))) ∧
        (rule.Accepts past (expansions.flatten.reverse.flatMap (·.statementsTo tree .drop)) →
          run rule.send .drop .liquibase tree root locations past =
            (.ok (),
              past.accept (expansions.flatten.reverse.flatMap (·.statementsTo tree .drop)))) := by
  obtain ⟨files, expansions, hfiles, hexpansions, hsets⟩ := hsound.expansions
  refine ⟨files, expansions, hfiles, hexpansions.imp fun file sets h others => ?_, fun rule past =>
    ⟨fun haccepts => run_of_loadedAll hsets haccepts,
      fun haccepts => run_of_loadedAll hsets haccepts⟩⟩
  exact ⟨fun hothers => hothers.unique h, fun heq => heq ▸ h⟩

/-! ## A changelog inside another one -/

namespace Seeded

def mainText : String :=
  "databaseChangeLog:\n- changeSet:\n    id: 1\n    sql: CREATE a; CREATE b\n" ++
  "    rollback: DROP b; DROP a\n- include:\n    file: seed.yaml\n" ++
  "- changeSet:\n    id: 3\n    sql: ANALYZE\n"

def seedText : String :=
  "databaseChangeLog:\n- changeSet:\n    id: 2\n    sql: LOCK a\n    sqlFile: seed.sql\n" ++
  "    rollback: DELETE a\n"

/-- A changelog that includes another one between two change sets of its own. -/
def files : Tree where
  entries := [(["main.yaml"], .file mainText.toUTF8), (["seed.yaml"], .file seedText.toUTF8),
    (["seed.sql"], .file "INSERT a; INSERT b".toUTF8)]

def outer : ChangeSetText where
  id := "1"
  sql := some "CREATE a; CREATE b"
  rollback := some "DROP b; DROP a"

def seed : ChangeSetText where
  id := "2"
  sql := some "LOCK a"
  sqlFile := some "seed.sql"
  rollback := some "DELETE a"

def last : ChangeSetText where
  id := "3"
  sql := some "ANALYZE"

def expanded : List Placed :=
  [⟨"main.yaml", outer⟩, ⟨"seed.yaml", seed⟩, ⟨"main.yaml", last⟩]

theorem stored :
    Stored "main.yaml" mainText [⟨some outer, none⟩, ⟨none, some "seed.yaml"⟩, ⟨some last, none⟩] ∧
      Stored "seed.yaml" seedText [⟨some seed, none⟩] ∧ PlainName "seed.sql" ∧
      beside "main.yaml" "seed.yaml" = "seed.yaml" ∧
      beside "seed.yaml" "seed.sql" = "seed.sql" := by
  decide +kernel

theorem statements : statementsOf outer.sql = ["CREATE a", "CREATE b"] ∧
    statementsOf seed.sql = ["LOCK a"] ∧
    Sql.statements "INSERT a; INSERT b" = ["INSERT a", "INSERT b"] ∧
    statementsOf last.sql = ["ANALYZE"] ∧
    [expanded].flatten.reverse.flatMap (·.statementsTo files .drop) =
      ["DELETE a", "DROP b", "DROP a"] := by
  decide +kernel

theorem written_main : Written files "main.yaml"
    [⟨some outer, none⟩, ⟨none, some "seed.yaml"⟩, ⟨some last, none⟩] :=
  stored.1.written rfl rfl

theorem written_seed : Written files "seed.yaml" [⟨some seed, none⟩] :=
  stored.2.1.written rfl rfl

theorem read_script : files.read (beside "seed.yaml" "seed.sql") = .ok "INSERT a; INSERT b" := by
  obtain ⟨-, -, hscript, -, hbeside⟩ := stored
  rw [hbeside]
  exact hscript.read_text rfl rfl

theorem forward_seed :
    forwardStatements files "seed.yaml" seed = ["LOCK a", "INSERT a", "INSERT b"] := by
  have hscript : scriptStatements files "seed.yaml" seed = Sql.statements "INSERT a; INSERT b" := by
    unfold scriptStatements seed
    dsimp only
    rw [read_script]
  rw [forwardStatements, hscript, statements.2.1, statements.2.2.1]
  rfl

theorem expansion_main : Expansion files "main.yaml" expanded := by
  have hbeside := stored.2.2.2.1
  have hinside : Expands files (beside "main.yaml" "seed.yaml") [⟨some seed, none⟩]
      [⟨"seed.yaml", seed⟩] := hbeside ▸ .changeSet .nil
  exact ⟨_, written_main,
    .changeSet (.inclusion (hbeside.symm ▸ written_seed) hinside (.changeSet .nil))⟩

theorem collect_main :
    collect files "" extensions ["main.yaml"] = .ok [⟨"main.yaml", "main.yaml"⟩] :=
  collect_of_holds rfl (List.forall_mem_singleton.mpr (stored.1.holds rfl))

theorem sound : Sound files "" ["main.yaml"] := by
  have hseed : Executable files "seed.yaml" seed :=
    ⟨fun file hfile => (by cases hfile; exact ⟨_, read_script⟩),
      forward_seed ▸ List.cons_ne_nil _ _⟩
  have houter : Executable files "main.yaml" outer :=
    executable_of_no_script rfl (statements.1 ▸ List.cons_ne_nil _ _)
  have hlast : Executable files "main.yaml" last :=
    executable_of_no_script rfl (statements.2.2.2.1 ▸ List.cons_ne_nil _ _)
  have hinner : ∃ sets, load files maxDepth (beside "main.yaml" "seed.yaml") = .ok sets :=
    ⟨_, stored.2.2.2.1 ▸
      load_succ_eq_ok_iff.mpr ⟨_, _, written_seed, .cons (.changeSet hseed) .nil, rfl⟩⟩
  obtain ⟨sets, hsets⟩ := hinner
  exact exists_changeSets_iff.mp ⟨_, changeSets_eq_ok_iff.mpr ⟨_, _, collect_main,
    .cons (load_succ_eq_ok_iff.mpr ⟨_, _, written_main, .cons (.changeSet houter)
      (.cons (.inclusion hsets) (.cons (.changeSet hlast) .nil)), rfl⟩) .nil, rfl⟩⟩

theorem seed_runs_inside_and_rolls_back_inside :
    Sound files "" ["main.yaml"] ∧
    (∀ past, run Rule.tolerant.send .apply .liquibase files "" ["main.yaml"] past =
      (.ok (), past.accept ["CREATE a", "CREATE b", "LOCK a", "INSERT a", "INSERT b", "ANALYZE"])) ∧
    ∀ past, run Rule.tolerant.send .drop .liquibase files "" ["main.yaml"] past =
      (.ok (), past.accept ["DELETE a", "DROP b", "DROP a"]) := by
  obtain ⟨files', expansions, hfiles, hexpansions, hrun⟩ := changelogs_expand_in_place sound
  cases collect_main.symm.trans hfiles
  obtain ⟨sets, rest, hsets, hrest, rfl⟩ := List.forall₂_cons_left_iff.mp hexpansions
  cases hrest
  obtain rfl := (hsets expanded).mp expansion_main
  obtain ⟨houter, -, -, hlast, hback⟩ := statements
  have hforward : [expanded].flatten.flatMap (·.statementsTo files .apply) =
      ["CREATE a", "CREATE b", "LOCK a", "INSERT a", "INSERT b", "ANALYZE"] := by
    have houter' : forwardStatements files "main.yaml" outer = _ := forward_of_no_script rfl
    have hlast' : forwardStatements files "main.yaml" last = _ := forward_of_no_script rfl
    simp only [expanded, List.flatten_cons, List.flatten_nil, List.append_nil, List.flatMap_cons,
      List.flatMap_nil, Placed.statementsTo, houter', hlast', houter, hlast, forward_seed]
    rfl
  rw [hforward, hback] at hrun
  exact ⟨sound, fun past => (hrun _ past).1 (Rule.tolerant_accepts _ _),
    fun past => (hrun _ past).2 (Rule.tolerant_accepts _ _)⟩

end Seeded

end ScopedResources.Migration.Changelog
