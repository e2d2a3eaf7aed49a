import ScopedResources.Memory.Connection
import ScopedResources.Proofs.Entries
import ScopedResources.Proofs.TableNames
import ScopedResources.Proofs.VersionedRuns

/-!
# Drops that undo an apply

Where there is nothing to undo versioned scripts with, the tables that they create are dropped. The
scripts may drop some of them on their own, or create them twice; the drop asks for tables only if
they are there, so it always succeeds, and what it leaves is what the scripts did not create. -/

namespace ScopedResources

namespace Memory.Database

/-- Sends a statement to the database. -/
def send (statement : String) : StateM Database (Except StatementError Unit) :=
  fun db => match db.execute statement with
    | .ok next => (.ok (), next)
    | .error rejection => (.error ⟨statement, rejection.message⟩, db)

/-- The database accepts statements one after another. -/
inductive Passes : Database → List String → Database → Prop
  | nil {db} : Passes db [] db
  | cons {db next after statement rest} (hfirst : db.execute statement = .ok next)
      (hrest : Passes next rest after) : Passes db (statement :: rest) after

open Migration

theorem sendAll_eq_ok_iff {steps : List Step} {db after : Database} :
    Plan.sendAll send steps db = (.ok (), after) ↔ Passes db (steps.map Step.statement) after := by
  induction steps generalizing db with
  | nil =>
      constructor
      · intro h
        cases h
        exact .nil
      · intro h
        cases h
        rfl
  | cons step rest ih =>
      unfold Plan.sendAll
      rw [Lifecycle.Action.step_bind, List.map_cons, send]
      cases hfirst : db.execute step.statement with
      | error rejection =>
          constructor
          · intro h
            cases h
          · intro h
            cases h with
            | cons hnext _ => cases hfirst.symm.trans hnext
      | ok next =>
          refine Iff.trans ih ⟨.cons hfirst, fun h => ?_⟩
          cases h with
          | cons hnext hrest =>
              cases hfirst.symm.trans hnext
              exact hrest

/-! ## Tables -/

variable {tables next : Assoc String Nat} {table : String}

/-- A statement adds a table only by creating it. -/
theorem contains_of_step {statement : Statement} (h : step tables statement = .ok next)
    (htable : Assoc.contains table next = true) :
    Assoc.contains table tables = true ∨ ∃ flag, statement = .createTable table flag := by
  cases statement with
  | createTable name flag =>
      rw [step] at h
      split at h
      next hname =>
        split at h
        · cases h
          exact .inl htable
        · cases h
      next =>
        cases h
        rcases Assoc.contains_insert.mp htable with rfl | hthere
        · exact .inr ⟨flag, rfl⟩
        · exact .inl hthere
  | dropTable name flag =>
      rw [step] at h
      split at h
      · cases h
        exact .inl (Assoc.contains_erase.mp htable).2
      · split at h
        · cases h
          exact .inl htable
        · cases h
  | insertRows name rows =>
      rw [step] at h
      split at h
      next present hpresent =>
        cases h
        rcases Assoc.contains_insert.mp htable with rfl | hthere
        · exact .inl (Option.isSome_of_eq_some hpresent)
        · exact .inl hthere
      next => cases h
  | clearTable name =>
      rw [step] at h
      split at h
      next hname =>
        cases h
        rcases Assoc.contains_insert.mp htable with rfl | hthere
        · exact .inl hname
        · exact .inl hthere
      next => cases h

/-- Dropping a table if it is there takes it away, and changes nothing where it is not there. -/
theorem step_dropTable (name : String) :
    step tables (.dropTable name true) = .ok (Assoc.erase name tables) := by
  rw [step]
  split
  next => rfl
  next hnot =>
    rw [Assoc.erase_of_find?]
    · rfl
    · simpa [Assoc.contains] using hnot

theorem execute_eq_ok_iff {db after : Database} {statement : String} :
    db.execute statement = .ok after ↔ ∃ parsed, Statement.parse? statement = some parsed ∧
      step db.tables parsed = .ok after.tables ∧ after.executed = db.executed + 1 := by
  unfold execute
  cases Statement.parse? statement with
  | none => simp
  | some parsed =>
      obtain ⟨tables, executed⟩ := after
      cases hstep : step db.tables parsed <;> simp [Except.map, hstep, eq_comm]

/-- A table that is there after some statements was there before them or is created by one of them.
-/
theorem Passes.contains {db after : Database} {statements : List String}
    (h : Passes db statements after) (htable : Assoc.contains table after.tables = true) :
    Assoc.contains table db.tables = true ∨
      ∃ statement ∈ statements, ∃ flag,
        Statement.parse? statement = some (.createTable table flag) := by
  induction h with
  | nil => exact .inl htable
  | cons hfirst _ ih =>
      rcases ih htable with hnext | ⟨statement, hstatement, hcreates⟩
      · obtain ⟨parsed, hparsed, hstep, -⟩ := execute_eq_ok_iff.mp hfirst
        rcases contains_of_step hstep hnext with hthere | ⟨flag, rfl⟩
        · exact .inl hthere
        · exact .inr ⟨_, List.mem_cons_self .., flag, hparsed⟩
      · exact .inr ⟨statement, List.mem_cons_of_mem _ hstatement, hcreates⟩

/-- The database accepts the drop of any tables with plain names, and has none of them afterwards.
-/
theorem passes_drops {names : List String} (h : ∀ name ∈ names, Sql.IsTableName name.toList)
    (db : Database) : ∃ left, Passes db (names.map ("DROP TABLE IF EXISTS " ++ ·)) left ∧
      ∀ table, Assoc.find? table left.tables =
        if table ∈ names.map String.toLower then none else Assoc.find? table db.tables := by
  induction names generalizing db with
  | nil => exact ⟨db, .nil, fun table => by simp⟩
  | cons name rest ih =>
      rw [List.forall_mem_cons] at h
      have hparse := Sql.parse?_drop h.1
      rw [Statement.tableNamed, String.ofList_toList] at hparse
      obtain ⟨left, hrest, htables⟩ :=
        ih h.2 ⟨Assoc.erase name.toLower db.tables, db.executed + 1⟩
      refine ⟨left, .cons (execute_eq_ok_iff.mpr ⟨_, hparse, step_dropTable _, rfl⟩) hrest, ?_⟩
      intro table
      rw [htables, Assoc.find?_erase]
      simp only [List.map_cons, List.mem_cons, @eq_comm _ name.toLower]
      by_cases hlater : table ∈ rest.map String.toLower
      · simp [hlater]
      · by_cases hname : table = name.toLower <;> simp [hlater, hname]

end Memory.Database

namespace Migration

open Files Memory

/-- A run that succeeds has sent every step, and nothing stopped its plan. -/
theorem sendAll_of_run_ok {σ : Type} {send : String → StateM σ (Except StatementError Unit)}
    {direction : Direction} {engine : Engine} {tree : Tree} {root : String}
    {locations : List String}
    {s s' : σ} (h : run send direction engine tree root locations s = (.ok (), s')) :
    (plan direction engine tree root locations).failure = none ∧
      Plan.sendAll send (plan direction engine tree root locations).steps s = (.ok (), s') := by
  rw [run_of_sendAll, Lifecycle.Action.step_bind] at h
  rcases hsend : Plan.sendAll send (plan direction engine tree root locations).steps s with
    ⟨failure | _, after⟩
  · rw [hsend] at h
    cases h
  · rw [hsend] at h
    cases hfailure : (plan direction engine tree root locations).failure with
    | none =>
        rw [Plan.verdict, hfailure] at h
        cases h
        exact ⟨rfl, rfl⟩
    | some failure =>
        rw [Plan.verdict, hfailure] at h
        cases h

theorem run_of_sendAll_ok {σ : Type} {send : String → StateM σ (Except StatementError Unit)}
    {direction : Direction} {engine : Engine} {tree : Tree} {root : String}
    {locations : List String}
    {s s' : σ} (hfailure : (plan direction engine tree root locations).failure = none)
    (hsend : Plan.sendAll send (plan direction engine tree root locations).steps s = (.ok (), s')) :
    run send direction engine tree root locations s = (.ok (), s') := by
  rw [run_of_sendAll, Lifecycle.Action.step_bind, hsend, Plan.verdict, hfailure]
  rfl

theorem readable_of_runFiles {tree : Tree} {files : List Found}
    (h : (runFiles tree files).failure = none) :
    ∀ file ∈ files, ∃ text, tree.read file.path = .ok text := by
  induction files with
  | nil => exact fun _ hmem => absurd hmem List.not_mem_nil
  | cons file rest ih =>
      change ((runFile tree file).append (runFiles tree rest)).failure = none at h
      unfold Plan.append at h
      cases hread : tree.read file.path with
      | error fault =>
          rw [runFile, textAt, hread] at h
          cases h
      | ok text =>
          rw [runFile, textAt_eq_ok.mpr hread] at h
          exact List.forall_mem_cons.mpr ⟨⟨text, hread⟩, ih h⟩

namespace VersionedCall

variable {call : VersionedCall} {tree : Tree} {root : String} {locations : List String}
variable {files : List Found} {scripts : List VersionedFile}

/-- The statements of the scripts that the call runs at some locations. -/
def Runs (call : VersionedCall) (tree : Tree) (root : String) (locations : List String)
    (statement : String) : Prop :=
  ∃ files file v text, collect tree root call.extensions locations = .ok files ∧ file ∈ files ∧
    call.Named (stem file) v ∧ tree.read file.path = .ok text ∧ statement ∈ Sql.statements text

/-- A statement of a script creates the table, named in any case of its ASCII letters. -/
def Creates (call : VersionedCall) (tree : Tree) (root : String) (locations : List String)
    (table : String) : Prop :=
  ∃ statement name, call.Runs tree root locations statement ∧ Sql.CreatesTable statement name ∧
    Statement.tableNamed name = table

/-- What the call applies has no scripts that undo it, and its scripts name the tables that they
create plainly. -/
structure DerivesDrop (call : VersionedCall) (tree : Tree) (root : String)
    (locations : List String) : Prop where
  applies : call.direction = .apply
  undone : call.engine = .flyway → ∀ files,
    collect tree root Flyway.extensions locations = .ok files →
    ∀ file ∈ files, ∀ v, ¬ VersionedCall.flywayDrop.Named (stem file) v
  named : ∀ statement, call.Runs tree root locations statement → Sql.NamesPlainly statement

theorem mem_statements (hfiles : collect tree root call.extensions locations = .ok files)
    (hordered : call.naming.ordered files = .ok scripts) {statement : String} :
    statement ∈ (scripts.map (·.file)).flatMap (statementsAt tree) ↔
      call.Runs tree root locations statement := by
  rw [List.flatMap_map, List.mem_flatMap]
  constructor
  · rintro ⟨script, hscript, hstatement⟩
    obtain ⟨hfile, hversion⟩ := (Naming.mem_ordered hordered).mp hscript
    unfold statementsAt at hstatement
    split at hstatement
    next text htext =>
      exact ⟨files, script.file, script.version, text, hfiles, hfile,
        version?_eq_some_iff.mp hversion, htext, hstatement⟩
    next => cases hstatement
  · rintro ⟨others, file, v, text, hothers, hfile, hnamed, htext, hstatement⟩
    cases hfiles.symm.trans hothers
    refine ⟨⟨v, file⟩, (Naming.mem_ordered hordered).mpr
      ⟨hfile, version?_eq_some_iff.mpr hnamed⟩, ?_⟩
    rwa [statementsAt, htext]

theorem arrange_of_apply (h : call.direction = .apply) : call.arrange scripts = scripts := by
  unfold arrange
  rw [h]

/-- A plan to apply that nothing stops runs the ordered scripts. -/
theorem plan_apply (happlies : call.direction = .apply)
    (h : (plan call.direction call.engine tree root locations).failure = none) :
    ∃ files scripts, collect tree root call.extensions locations = .ok files ∧
      call.naming.ordered files = .ok scripts ∧
      plan call.direction call.engine tree root locations =
        runFiles tree (scripts.map (·.file)) := by
  cases hfiles : collect tree root call.extensions locations with
  | error failure =>
      rw [plan_eq, hfiles] at h
      cases h
  | ok files =>
      rw [call.plan_of_ordered hfiles] at h
      cases hordered : call.naming.ordered files with
      | error failure =>
          rw [hordered] at h
          cases h
      | ok scripts =>
          refine ⟨files, scripts, rfl, hordered, ?_⟩
          rw [call.plan_of_ordered hfiles, hordered]
          refine (if_neg fun hdrop => ?_).trans ?_
          · rw [happlies] at hdrop
            cases hdrop.1
          · rw [arrange_of_apply happlies]

/-- Without scripts that undo, the tables are dropped that the scripts to apply create. -/
theorem plan_drop (happlies : call.direction = .apply)
    (hundone : call.engine = .flyway → ∀ files,
      collect tree root Flyway.extensions locations = .ok files →
      ∀ file ∈ files, ∀ v, ¬ VersionedCall.flywayDrop.Named (stem file) v)
    (hfiles : collect tree root call.extensions locations = .ok files) :
    plan .drop call.engine tree root locations = dropCreated tree call.naming locations files := by
  cases call with
  | flywayDrop => cases happlies
  | cognitorApply =>
      change Cognitor.drop tree root locations = _
      rw [Cognitor.drop, show collect tree root Cognitor.extensions locations = _ from hfiles]
      rfl
  | flywayApply =>
      have hnone : Naming.undone.versioned files = [] := by
        refine List.eq_nil_iff_forall_not_mem.mpr fun script hscript => ?_
        obtain ⟨hfile, hversion⟩ := Naming.mem_versioned.mp hscript
        exact hundone rfl files hfiles _ hfile _ (markedVersion?_eq_some_iff.mp hversion)
      have hordered : Naming.undone.ordered files = .ok [] := by
        rcases Naming.undone.ordered_cases files with ⟨hclash, -⟩ | ⟨-, scripts, hscripts, -, hperm⟩
        · exact absurd (hnone ▸ List.Pairwise.nil) hclash
        · rw [hnone, List.perm_nil] at hperm
          rw [hscripts, hperm]
      change plan VersionedCall.flywayDrop.direction VersionedCall.flywayDrop.engine tree
        root locations = _
      rw [VersionedCall.flywayDrop.plan_of_ordered hfiles,
        show VersionedCall.flywayDrop.naming.ordered files = _ from hordered]
      rfl

theorem dropCreated_of_readable {naming : Naming} (hordered : naming.ordered files = .ok scripts)
    (hreadable : ∀ file ∈ scripts.map (·.file), ∃ text, tree.read file.path = .ok text) :
    dropCreated tree naming locations files = .ofStatements (",".intercalate locations)
      (dropStatements
        (Sql.createdTables ((scripts.map (·.file)).flatMap (statementsAt tree)))) := by
  have hread : (scripts.mapM fun script => (textAt tree script.file.path).map Sql.statements) =
      .ok ((scripts.map (·.file)).map (statementsAt tree)) := by
    clear hordered
    induction scripts with
    | nil => rfl
    | cons script rest ih =>
        rw [List.map_cons, List.forall_mem_cons] at hreadable
        obtain ⟨⟨text, htext⟩, hrest⟩ := hreadable
        rw [List.mapM_cons, ih hrest, textAt_eq_ok.mpr htext]
        simp only [List.map_cons, statementsAt, htext]
        rfl
  rw [dropCreated, hordered]
  change Plan.ofExcept (List.mapM _ scripts >>= _) = _
  rw [hread, List.flatMap_def]
  rfl

section Created

variable {statements : List String} {table : String}
variable (hruns : ∀ {statement}, statement ∈ statements ↔ call.Runs tree root locations statement)
variable (hnamed : ∀ statement, call.Runs tree root locations statement →
  Sql.NamesPlainly statement)

include hruns hnamed

theorem mem_createdTables : table ∈ Sql.createdTables statements ↔
    ∃ statement name, call.Runs tree root locations statement ∧ Sql.CreatesTable statement name ∧
      table = String.ofList name := by
  rw [Sql.createdTables, List.mem_eraseDups, List.mem_filterMap]
  constructor
  · rintro ⟨statement, hstatement, htable⟩
    have hrun := hruns.mp hstatement
    obtain ⟨name, hname, rfl⟩ := Sql.creates_of_createdTable? (hnamed statement hrun) htable
    exact ⟨statement, name, hrun, hname, rfl⟩
  · rintro ⟨statement, name, hrun, hname, rfl⟩
    exact ⟨statement, hruns.mpr hrun, Sql.createdTable?_of_creates hname⟩

/-- The tables that are dropped, as the database names them. -/
theorem mem_lowered_createdTables :
    table ∈ (Sql.createdTables statements).reverse.map String.toLower ↔
      call.Creates tree root locations table := by
  rw [List.map_reverse, List.mem_reverse, List.mem_map]
  constructor
  · rintro ⟨_, hname, rfl⟩
    obtain ⟨statement, name, hrun, hcreates, rfl⟩ := (mem_createdTables hruns hnamed).mp hname
    exact ⟨statement, name, hrun, hcreates, rfl⟩
  · rintro ⟨statement, name, hrun, hcreates, rfl⟩
    exact ⟨_, (mem_createdTables hruns hnamed).mpr ⟨statement, name, hrun, hcreates, rfl⟩, rfl⟩

theorem isTableName_of_createdTables (htable : table ∈ Sql.createdTables statements) :
    Sql.IsTableName table.toList := by
  obtain ⟨_, name, _, ⟨_, _, _, _, hname, _⟩, rfl⟩ := (mem_createdTables hruns hnamed).mp htable
  rwa [String.toList_ofList]

/-- On a database that was empty, every table is one that the statements created. -/
theorem creates_of_contains {before after : Database}
    (hpasses : Database.Passes before statements after)
    (hempty : before.tables = []) (htable : Assoc.contains table after.tables = true) :
    call.Creates tree root locations table := by
  rcases hpasses.contains htable with hbefore | ⟨statement, hstatement, flag, hparse⟩
  · rw [hempty] at hbefore
    cases hbefore
  · have hrun := hruns.mp hstatement
    obtain ⟨name, hname, rfl⟩ := Sql.creates_of_parse? (hnamed statement hrun) hparse
    exact ⟨statement, name, hrun, hname, rfl⟩

end Created

/-- Let scripts without others that undo them be applied to a database, and let them name the tables
that they create plainly. If the database accepts them all, whatever else they contain, then it
accepts the drop, which takes away the tables that the scripts create and leaves the others as they
are. A database that began without tables ends without tables. -/
theorem derived_drop_undoes_apply (h : call.DerivesDrop tree root locations)
    {before after : Database}
    (happly : run Database.send .apply call.engine tree root locations before = (.ok (), after)) :
    ∃ left, run Database.send .drop call.engine tree root locations after = (.ok (), left) ∧
      (∀ table, call.Creates tree root locations table → Assoc.find? table left.tables = none) ∧
      (∀ table, ¬ call.Creates tree root locations table →
        Assoc.find? table left.tables = Assoc.find? table after.tables) ∧
      (before.tables = [] → left.tables = []) := by
  obtain ⟨happlies, hundone, hnamed⟩ := h
  rw [← happlies] at happly
  obtain ⟨hfailure, hsent⟩ := sendAll_of_run_ok happly
  obtain ⟨files, scripts, hfiles, hordered, hplan⟩ := plan_apply happlies hfailure
  rw [hplan] at hfailure hsent
  have hreadable := readable_of_runFiles hfailure
  have hpasses := Database.sendAll_eq_ok_iff.mp hsent
  rw [(runFiles_of_readable hreadable).2] at hpasses
  have hdropped := (plan_drop happlies hundone hfiles).trans
    (dropCreated_of_readable hordered hreadable)
  have hruns := @mem_statements call tree root locations files scripts hfiles hordered
  generalize (scripts.map (·.file)).flatMap (statementsAt tree) = statements at *
  obtain ⟨left, hleft, hfind⟩ :=
    Database.passes_drops (fun table htable => isTableName_of_createdTables hruns hnamed
      (List.mem_reverse.mp htable)) after
  have hlowered : ∀ table, _ ↔ call.Creates tree root locations table := fun _ =>
    mem_lowered_createdTables hruns hnamed
  have hgone :
      ∀ table, call.Creates tree root locations table → Assoc.find? table left.tables = none :=
    fun table hcreates => by rw [hfind, if_pos ((hlowered table).mpr hcreates)]
  have hkept : ∀ table, ¬ call.Creates tree root locations table →
      Assoc.find? table left.tables = Assoc.find? table after.tables :=
    fun table hnot => by rw [hfind, if_neg (mt (hlowered table).mp hnot)]
  refine ⟨left, run_of_sendAll_ok ?_ ?_, hgone, hkept,
    fun hempty => Assoc.eq_nil_of_find? fun table => ?_⟩
  · rw [hdropped]
    rfl
  · rw [hdropped]
    refine Database.sendAll_eq_ok_iff.mpr ?_
    rwa [Plan.ofStatements, List.map_map, Function.comp_def, List.map_id']
  · by_cases hcreates : call.Creates tree root locations table
    · exact hgone table hcreates
    · rw [hkept table hcreates]
      by_contra hthere
      exact hcreates (creates_of_contains hruns hnamed hpasses hempty
        (Option.isSome_iff_ne_none.mpr hthere))

/-! ## A script that drops a table itself -/

def ownDropText : String :=
  "CREATE TABLE IF NOT EXISTS Users(id INT); CREATE TABLE log.events(id INT); DROP TABLE users"

def ownDrop : Tree where
  entries := [(["V1__users.sql"], .file ownDropText.toUTF8)]

theorem statements_ownDrop : Sql.statements ownDropText =
    ["CREATE TABLE IF NOT EXISTS Users(id INT)", "CREATE TABLE log.events(id INT)",
      "DROP TABLE users"] := by
  decide +kernel

theorem holds_ownDrop : ownDrop.Holds Flyway.extensions "V1__users.sql" :=
  ⟨by decide +kernel, ⟨_, rfl⟩, by decide +kernel⟩

theorem read_ownDrop : ownDrop.read "V1__users.sql" = .ok ownDropText :=
  holds_ownDrop.1.read rfl rfl (by decide +kernel)

theorem collect_ownDrop : collect ownDrop "" Flyway.extensions ["V1__users.sql"] =
    .ok [⟨"V1__users.sql", "V1__users.sql"⟩] :=
  collect_of_holds rfl fun _ hname => List.mem_singleton.mp hname ▸ holds_ownDrop

theorem mem_of_runs {statement : String}
    (h : VersionedCall.flywayApply.Runs ownDrop "" ["V1__users.sql"] statement) :
    statement = "CREATE TABLE IF NOT EXISTS Users(id INT)" ∨
      statement = "CREATE TABLE log.events(id INT)" ∨ statement = "DROP TABLE users" := by
  obtain ⟨files, file, v, text, hfiles, hfile, -, htext, hstatement⟩ := h
  cases collect_ownDrop.symm.trans hfiles
  obtain rfl := List.mem_singleton.mp hfile
  cases read_ownDrop.symm.trans htext
  rw [statements_ownDrop] at hstatement
  simpa using hstatement

theorem derivesDrop_ownDrop :
    VersionedCall.flywayApply.DerivesDrop ownDrop "" ["V1__users.sql"] where
  applies := rfl
  undone _ files hfiles file hfile v := by
    cases collect_ownDrop.symm.trans hfiles
    obtain rfl := List.mem_singleton.mp hfile
    intro hnamed
    have hversion : Naming.undone.version? (stem ⟨"V1__users.sql", "V1__users.sql"⟩) = some v :=
      markedVersion?_eq_some_iff.mpr hnamed
    cases hversion
  named := by
    intro statement hruns
    rcases mem_of_runs hruns with rfl | rfl | rfl
    · exact fun _ _ => ⟨"Users".toList, _, "(id INT)".toList, rfl, rfl,
        by decide, rfl⟩
    · exact fun _ _ => ⟨"log.events".toList, _, "(id INT)".toList, rfl, rfl,
        by decide, rfl⟩
    · intro s hs
      cases hs

theorem parse?_ownDrop :
    Statement.parse? "CREATE TABLE IF NOT EXISTS Users(id INT)" = some (.createTable "users" true) ∧
      Statement.parse? "CREATE TABLE log.events(id INT)" = some (.createTable "log.events" false) ∧
      Statement.parse? "DROP TABLE users" = some (.dropTable "users" false) := by
  decide +kernel

theorem run_ownDrop : run Database.send .apply .flyway ownDrop "" ["V1__users.sql"]
    ⟨[("kept", 3)], 0⟩ = (.ok (), ⟨[("kept", 3), ("log.events", 0)], 3⟩) := by
  have hordered : VersionedCall.flywayApply.naming.ordered [⟨"V1__users.sql", "V1__users.sql"⟩] =
      .ok [⟨[1], "V1__users.sql", "V1__users.sql"⟩] :=
    Naming.ordered_singleton rfl
  have hplan : plan .apply .flyway ownDrop "" ["V1__users.sql"] =
      runFiles ownDrop [⟨"V1__users.sql", "V1__users.sql"⟩] := by
    refine (VersionedCall.flywayApply.plan_of_ordered collect_ownDrop).trans ?_
    rw [hordered]
    rfl
  have hreadable : ∀ file ∈ [(⟨"V1__users.sql", "V1__users.sql"⟩ : Found)],
      ∃ text, ownDrop.read file.path = .ok text :=
    fun _ hfile => List.mem_singleton.mp hfile ▸ ⟨_, read_ownDrop⟩
  obtain ⟨hfailure, hsteps⟩ := runFiles_of_readable hreadable
  refine run_of_sendAll_ok (hplan ▸ hfailure) (Database.sendAll_eq_ok_iff.mpr ?_)
  rw [hplan, hsteps, List.flatMap_singleton, statementsAt, read_ownDrop]
  dsimp only
  rw [statements_ownDrop]
  obtain ⟨husers, hevents, hdrop⟩ := parse?_ownDrop
  have hfirst : (⟨[("kept", 3)], 0⟩ : Database).execute _ = .ok ⟨[("kept", 3), ("users", 0)], 1⟩ :=
    Database.execute_eq_ok_iff.mpr ⟨_, husers, rfl, rfl⟩
  have hsecond : (⟨[("kept", 3), ("users", 0)], 1⟩ : Database).execute _ =
      .ok ⟨[("kept", 3), ("users", 0), ("log.events", 0)], 2⟩ :=
    Database.execute_eq_ok_iff.mpr ⟨_, hevents, rfl, rfl⟩
  exact .cons hfirst (.cons hsecond
    (.cons (Database.execute_eq_ok_iff.mpr ⟨_, hdrop, rfl, rfl⟩) .nil))

/-- The drop takes away the table that the script leaves, and not the one that was there before. -/
theorem drop_keeps_what_was_there :
    VersionedCall.flywayApply.DerivesDrop ownDrop "" ["V1__users.sql"] ∧
    run Database.send .apply .flyway ownDrop "" ["V1__users.sql"] ⟨[("kept", 3)], 0⟩ =
      (.ok (), ⟨[("kept", 3), ("log.events", 0)], 3⟩) ∧
    ∃ left, run Database.send .drop .flyway ownDrop "" ["V1__users.sql"]
      ⟨[("kept", 3), ("log.events", 0)], 3⟩ = (.ok (), left) ∧
      Assoc.find? "log.events" left.tables = none ∧ Assoc.find? "kept" left.tables = some 3 := by
  obtain ⟨left, hrun, hgone, hkept, -⟩ := derived_drop_undoes_apply derivesDrop_ownDrop run_ownDrop
  refine ⟨derivesDrop_ownDrop, run_ownDrop, left, hrun, hgone _ ?_, (hkept _ ?_).trans rfl⟩
  · refine ⟨"CREATE TABLE log.events(id INT)", "log.events".toList, ?_, ?_, by decide +kernel⟩
    · exact ⟨_, _, [1], _, collect_ownDrop, List.mem_singleton_self _,
        markedVersion?_eq_some_iff.mp rfl, read_ownDrop, by rw [statements_ownDrop]; simp⟩
    · exact ⟨_, "(id INT)".toList, rfl, rfl, by decide, rfl⟩
  · rintro ⟨statement, name, hstatement, hcreates, hname⟩
    have hnone : ∀ statement ∈ ["CREATE TABLE IF NOT EXISTS Users(id INT)",
        "CREATE TABLE log.events(id INT)", "DROP TABLE users"],
        (Sql.createdTable? statement).map String.toLower ≠ some "kept" := by decide +kernel
    refine hnone statement ?_ ?_
    · simpa using mem_of_runs hstatement
    · rw [Sql.createdTable?_of_creates hcreates, ← hname]
      rfl

end VersionedCall

end Migration

end ScopedResources
