import ScopedResources.Proofs.Collecting
import ScopedResources.Proofs.FilesBeside
import ScopedResources.Proofs.PlainFiles
import ScopedResources.Proofs.PlanRuns

/-!
# Loading changelogs

Includes lead from the changelogs at the locations to others, along chains. All changelogs can be
loaded exactly where every one that a chain leads to is well-formed and no chain has more than 16
includes. A cycle gives chains of any length, as a changelog that is reached again has the same
changelogs beside it as before. Nothing is sent before all is loaded, so one fault anywhere keeps
every statement back. -/

namespace ScopedResources.Migration

namespace Changelog

open Files

deriving instance DecidableEq for ChangeSetText, Entry

section Written

variable (tree : Tree)

/-- The path of a file that is named in the changelog at a path. -/
def beside (path file : String) : String :=
  Path.join (Path.parent path) file

/-- The changelog at a path can be read and has these entries. -/
def Written (path : String) (entries : List Entry) : Prop :=
  ∃ text, tree.read path = .ok text ∧ read? text = some entries

/-- The changelog at one path has an entry that includes the changelog at the other. -/
def Includes (path inner : String) : Prop :=
  ∃ entries file, Written tree path entries ∧ ⟨none, some file⟩ ∈ entries ∧ inner = beside path file

/-- The statements of the file of a change set, where there is one. -/
def scriptStatements (path : String) (set : ChangeSetText) : List String :=
  match set.sqlFile with
  | none => []
  | some file =>
    match tree.read (beside path file) with
    | .ok text => Sql.statements text
    | .error _ => []

/-- What a change set executes: its own statements first, and then those of its file. -/
def forwardStatements (path : String) (set : ChangeSetText) : List String :=
  statementsOf set.sql ++ scriptStatements tree path set

/-- A change set of the changelog at a path has something to execute that can be read. -/
structure Executable (path : String) (set : ChangeSetText) : Prop where
  script : ∀ file, set.sqlFile = some file → ∃ text, tree.read (beside path file) = .ok text
  statements : forwardStatements tree path set ≠ []

/-- An entry of the changelog at a path is a change set or includes another changelog, and not both.
-/
inductive InOrder (path : String) : Entry → Prop
  | changeSet {set : ChangeSetText} (h : Executable tree path set) : InOrder path ⟨some set, none⟩
  | inclusion (file : String) : InOrder path ⟨none, some file⟩

/-- The changelog at a path is well-formed; those that it includes are another matter. -/
def WellFormed (path : String) : Prop :=
  ∃ entries, Written tree path entries ∧ ∀ entry ∈ entries, InOrder tree path entry

/-- A chain of so many includes leads from one changelog to another. -/
inductive Chain : String → Nat → String → Prop
  | here (path : String) : Chain path 0 path
  | through {path inner last : String} {n : Nat} (hinclude : Includes tree path inner)
      (hrest : Chain inner n last) : Chain path (n + 1) last

end Written

variable {tree : Tree} {path : String} {entries : List Entry} {set : ChangeSetText}

theorem Written.unique {others : List Entry} (h : Written tree path entries)
    (h' : Written tree path others) : entries = others := by
  obtain ⟨text, hread, hentries⟩ := h
  obtain ⟨text', hread', hothers⟩ := h'
  cases hread.symm.trans hread'
  exact Option.some.inj (hentries.symm.trans hothers)

/-! ## Change sets -/

/-- A change set as it is loaded. -/
def loaded (tree : Tree) (path : String) (set : ChangeSetText) : ChangeSet where
  origin := path ++ "#" ++ set.id ++ ":" ++ set.author.getD "unknown"
  statements := forwardStatements tree path set
  rollback := statementsOf set.rollback

theorem forward_of_no_script (h : set.sqlFile = none) :
    forwardStatements tree path set = statementsOf set.sql := by
  rw [forwardStatements, scriptStatements, h, List.append_nil]

theorem executable_of_no_script (h : set.sqlFile = none) (hsql : statementsOf set.sql ≠ []) :
    Executable tree path set :=
  ⟨fun file hfile => (by cases h.symm.trans hfile), by rwa [forward_of_no_script h]⟩

/-- The file of a change set is read where there is one. -/
theorem readScript_eq_ok_iff {script : Option String} :
    (set.sqlFile.mapM fun file => textAt tree (beside path file)) = .ok script ↔
      match set.sqlFile with
      | none => script = none
      | some file => ∃ text, tree.read (beside path file) = .ok text ∧ script = some text := by
  cases set.sqlFile with
  | none => simp [pure, Except.pure, eq_comm]
  | some file =>
      cases hread : tree.read (beside path file) with
      | error fault => simp [textAt, hread, Except.mapError, Functor.map, Except.map]
      | ok text => simp [textAt, hread, Except.mapError, Functor.map, Except.map, eq_comm]

theorem exists_readScript_iff :
    (∃ script, (set.sqlFile.mapM fun file => textAt tree (beside path file)) = .ok script) ↔
      ∀ file, set.sqlFile = some file → ∃ text, tree.read (beside path file) = .ok text := by
  simp only [readScript_eq_ok_iff]
  cases set.sqlFile <;> simp

theorem statementsOf_of_readScript {script : Option String}
    (h : (set.sqlFile.mapM fun file => textAt tree (beside path file)) = .ok script) :
    statementsOf script = scriptStatements tree path set := by
  rw [readScript_eq_ok_iff] at h
  unfold scriptStatements
  cases hfile : set.sqlFile with
  | none =>
      rw [hfile] at h
      subst h
      rfl
  | some file =>
      rw [hfile] at h
      obtain ⟨text, hread, rfl⟩ := h
      dsimp only
      rw [hread]
      rfl

/-- A change set can be loaded exactly where it has something to execute. -/
theorem loadChangeSet_eq_ok_iff {result : ChangeSet} : loadChangeSet tree path set = .ok result ↔
    Executable tree path set ∧ loaded tree path set = result := by
  have hexecutable : Executable tree path set ↔
      (∃ script, (set.sqlFile.mapM fun file => textAt tree (beside path file)) = .ok script) ∧
        forwardStatements tree path set ≠ [] := by
    rw [exists_readScript_iff]
    exact ⟨fun h => ⟨h.script, h.statements⟩, fun h => ⟨h.1, h.2⟩⟩
  rw [hexecutable, and_assoc, ← exists_and_right]
  change (set.sqlFile.mapM (fun file => textAt tree (beside path file)) >>= _) = _ ↔ _
  rw [bind_eq_ok]
  refine exists_congr fun script => and_congr_right fun hscript => ?_
  dsimp only
  rw [statementsOf_of_readScript hscript]
  change (if (forwardStatements tree path set).isEmpty then throw _ else _) = _ ↔ _
  by_cases hempty : forwardStatements tree path set = []
  · rw [if_pos (List.isEmpty_iff.mpr hempty)]
    exact ⟨fun h => (by cases h), fun h => absurd hempty h.1⟩
  · rw [if_neg (mt List.isEmpty_iff.mp hempty)]
    exact ⟨fun h => ⟨hempty, Except.ok.inj h⟩, fun h => congrArg Except.ok h.2⟩

/-! ## Changelogs -/

/-- What an entry of the changelog at a path is loaded as, with so many levels of changelogs left.
-/
inductive Yields (tree : Tree) (levels : Nat) (path : String) : Entry → List ChangeSet → Prop
  | changeSet {set : ChangeSetText} (h : Executable tree path set) :
      Yields tree levels path ⟨some set, none⟩ [loaded tree path set]
  | inclusion {file : String} {sets : List ChangeSet}
      (h : load tree levels (beside path file) = .ok sets) :
      Yields tree levels path ⟨none, some file⟩ sets

theorem load_zero (tree : Tree) (path : String) :
    load tree 0 path = .error ⟨path, .includesTooDeep⟩ :=
  rfl

theorem load_succ_eq_ok_iff {levels : Nat} {sets : List ChangeSet} :
    load tree (levels + 1) path = .ok sets ↔ ∃ entries parts, Written tree path entries ∧
      List.Forall₂ (Yields tree levels path) entries parts ∧ parts.flatten = sets := by
  rw [load, bind_eq_ok]
  constructor
  · rintro ⟨text, htext, h⟩
    rw [textAt_eq_ok] at htext
    cases hentries : read? text with
    | none =>
        rw [hentries] at h
        cases h
    | some entries =>
        rw [hentries] at h
        obtain ⟨parts, hparts, hsets⟩ := bind_eq_ok.mp h
        cases hsets
        refine ⟨entries, parts, ⟨text, htext, hentries⟩,
          (mapM_eq_ok_iff.mp hparts).imp fun entry part hentry => ?_, rfl⟩
        obtain ⟨_ | set, _ | file⟩ := entry
        · cases hentry
        · exact .inclusion hentry
        · obtain ⟨result, hresult, rfl⟩ := map_eq_ok_iff.mp hentry
          obtain ⟨hexecutable, rfl⟩ := loadChangeSet_eq_ok_iff.mp hresult
          exact .changeSet hexecutable
        · cases hentry
  · rintro ⟨entries, parts, ⟨text, htext, hentries⟩, hparts, rfl⟩
    refine ⟨text, textAt_eq_ok.mpr htext, ?_⟩
    rw [hentries]
    refine bind_eq_ok.mpr ⟨parts, mapM_eq_ok_iff.mpr (hparts.imp fun entry part hentry => ?_), rfl⟩
    cases hentry with
    | changeSet hexecutable =>
        exact map_eq_ok_iff.mpr ⟨_, loadChangeSet_eq_ok_iff.mpr ⟨hexecutable, rfl⟩, rfl⟩
    | inclusion hload => exact hload

/-- A changelog can be loaded exactly where all changelogs to which includes lead are well-formed,
and none of them is behind too many includes. -/
theorem exists_load_iff {levels : Nat} : (∃ sets, load tree levels path = .ok sets) ↔
    ∀ n last, Chain tree path n last → n < levels ∧ WellFormed tree last := by
  -- Without a level left not even the chain without an include is short enough.
  induction levels generalizing path with
  | zero =>
      refine ⟨fun ⟨sets, h⟩ => ?_, fun h => absurd (h 0 path (.here path)).1 (Nat.lt_irrefl 0)⟩
      rw [load_zero] at h
      cases h
  | succ levels ih =>
      simp only [load_succ_eq_ok_iff]
      constructor
      · rintro ⟨_, entries, parts, hwritten, hparts, -⟩ n last hchain
        have hentries := exists_forall₂_iff.mp ⟨parts, hparts⟩
        cases hchain with
        | here =>
            refine ⟨Nat.succ_pos levels, entries, hwritten, fun entry hentry => ?_⟩
            obtain ⟨part, hpart⟩ := hentries entry hentry
            cases hpart with
            | changeSet hexecutable => exact .changeSet hexecutable
            | inclusion _ => exact .inclusion _
        | through hinclude hrest =>
            obtain ⟨others, file, hothers, hmem, rfl⟩ := hinclude
            cases hwritten.unique hothers
            obtain ⟨part, hpart⟩ := hentries _ hmem
            cases hpart with
            | inclusion hload =>
                obtain ⟨hn, hlast⟩ := ih.mp ⟨part, hload⟩ _ last hrest
                exact ⟨Nat.succ_lt_succ hn, hlast⟩
      · intro h
        obtain ⟨-, entries, hwritten, hentries⟩ := h 0 path (.here path)
        have hparts : ∀ entry ∈ entries, ∃ part, Yields tree levels path entry part := by
          intro entry hentry
          cases hentries entry hentry with
          | changeSet hexecutable => exact ⟨_, .changeSet hexecutable⟩
          | inclusion file =>
              obtain ⟨sets, hload⟩ := ih.mpr fun n last hchain => by
                obtain ⟨hn, hlast⟩ :=
                  h (n + 1) last (.through ⟨entries, file, hwritten, hentry, rfl⟩ hchain)
                exact ⟨Nat.lt_of_succ_lt_succ hn, hlast⟩
              exact ⟨sets, .inclusion hload⟩
        obtain ⟨parts, hforall⟩ := exists_forall₂_iff.mpr hparts
        exact ⟨_, entries, parts, hwritten, hforall, rfl⟩

/-! ## Locations -/

section Locations

variable (tree : Tree) (root : String) (locations : List String)

/-- A changelog is found at one of the locations. -/
def Located (path : String) : Prop :=
  ∃ location ∈ locations, ∃ file ∈ select extensions (tree.filesAt (Path.join root location)),
    path = file.path

/-- A chain of so many includes leads to a changelog from one at the locations. -/
def Reached (n : Nat) (path : String) : Prop :=
  ∃ first, Located tree root locations first ∧ Chain tree first n path

/-- Every location exists, all changelogs that are reached are well-formed, and their includes nest
at most 16 deep. -/
structure Sound : Prop where
  exist : ∀ location ∈ locations, tree.exists? (Path.join root location) = true
  wellFormed : ∀ n path, Reached tree root locations n path → n ≤ maxDepth ∧ WellFormed tree path

end Locations

variable {root : String} {locations : List String}

theorem changeSets_eq_ok_iff {sets : List ChangeSet} : changeSets tree root locations = .ok sets ↔
    ∃ files parts, collect tree root extensions locations = .ok files ∧
      List.Forall₂ (fun file part => load tree (maxDepth + 1) file.path = .ok part) files parts ∧
      parts.flatten = sets := by
  rw [changeSets, bind_eq_ok]
  constructor
  · rintro ⟨files, hfiles, h⟩
    obtain ⟨parts, hparts, hsets⟩ := bind_eq_ok.mp h
    exact ⟨files, parts, hfiles, mapM_eq_ok_iff.mp hparts, Except.ok.inj hsets⟩
  · rintro ⟨files, parts, hfiles, hparts, rfl⟩
    exact ⟨files, hfiles, bind_eq_ok.mpr ⟨parts, mapM_eq_ok_iff.mpr hparts, rfl⟩⟩

theorem located_iff {files : List Found}
    (hfiles : collect tree root extensions locations = .ok files) :
    Located tree root locations path ↔ ∃ file ∈ files, path = file.path := by
  obtain ⟨-, rfl⟩ := collect_eq_ok_iff.mp hfiles
  simp only [Located, List.mem_flatMap]
  constructor
  · rintro ⟨location, hlocation, file, hfile, hpath⟩
    exact ⟨file, ⟨location, hlocation, hfile⟩, hpath⟩
  · rintro ⟨file, ⟨location, hlocation, hfile⟩, hpath⟩
    exact ⟨location, hlocation, file, hfile, hpath⟩

/-- The change sets can be loaded exactly where nothing is wrong with any changelog that is reached.
-/
theorem exists_changeSets_iff :
    (∃ sets, changeSets tree root locations = .ok sets) ↔ Sound tree root locations := by
  constructor
  · rintro ⟨_, h⟩
    obtain ⟨files, parts, hfiles, hparts, -⟩ := changeSets_eq_ok_iff.mp h
    refine ⟨(collect_eq_ok_iff.mp hfiles).1, fun n path => ?_⟩
    rintro ⟨_, hlocated, hchain⟩
    obtain ⟨file, hfile, rfl⟩ := (located_iff hfiles).mp hlocated
    obtain ⟨hn, hpath⟩ :=
      exists_load_iff.mp (exists_forall₂_iff.mp ⟨parts, hparts⟩ file hfile) n path hchain
    exact ⟨Nat.le_of_lt_succ hn, hpath⟩
  · rintro ⟨hexist, hsound⟩
    obtain ⟨files, hfiles⟩ : ∃ files, collect tree root extensions locations = .ok files :=
      ⟨_, collect_eq_ok_iff.mpr ⟨hexist, rfl⟩⟩
    obtain ⟨parts, hparts⟩ := exists_forall₂_iff.mpr fun file hfile => exists_load_iff.mpr
      fun n path hchain => by
        obtain ⟨hn, hpath⟩ := hsound n path ⟨_, (located_iff hfiles).mpr ⟨file, hfile, rfl⟩, hchain⟩
        exact ⟨Nat.lt_succ_of_le hn, hpath⟩
    exact ⟨_, changeSets_eq_ok_iff.mpr ⟨_, parts, hfiles, hparts, rfl⟩⟩

/-! ## Include cycles -/

theorem WellFormed.read (h : WellFormed tree path) : ∃ text, tree.read path = .ok text := by
  obtain ⟨_, ⟨text, hread, -⟩, -⟩ := h
  exact ⟨text, hread⟩

theorem Written.sameFile {path' : String} (h : Written tree path entries)
    (hsame : tree.SameFile path path') : Written tree path' entries := by
  obtain ⟨text, hread, hentries⟩ := h
  exact ⟨text, hsame.read.trans hread, hentries⟩

theorem Chain.trans {n m : Nat} {first middle last : String} (h : Chain tree first n middle)
    (h' : Chain tree middle m last) : Chain tree first (n + m) last := by
  induction h with
  | here path => rwa [Nat.zero_add]
  | through hinclude _ ih =>
      rw [Nat.add_right_comm]
      exact .through hinclude (ih h')

theorem Reached.extend {n m : Nat} {last : String} (h : Reached tree root locations n path)
    (hchain : Chain tree path m last) : Reached tree root locations (n + m) last := by
  obtain ⟨first, hlocated, hfirst⟩ := h
  exact ⟨first, hlocated, hfirst.trans hchain⟩

/-- The includes of a changelog can be followed from any other path of it. -/
theorem Chain.again {n : Nat} {last path' : String} (h : Chain tree path n last)
    (hsame : tree.SameFile path path')
    (hpath : ∀ m inner, Chain tree path m inner → WellFormed tree inner)
    (hpath' : ∀ m inner, Chain tree path' m inner → WellFormed tree inner) :
    ∃ last', Chain tree path' n last' ∧ tree.SameFile last last' := by
  induction h generalizing path' with
  | here path => exact ⟨path', .here path', hsame⟩
  | through hinclude _ ih =>
      obtain ⟨entries, file, hwritten, hmem, rfl⟩ := hinclude
      have hinclude : Includes tree _ _ := ⟨entries, file, hwritten, hmem, rfl⟩
      have hinclude' : Includes tree path' _ := ⟨entries, file, hwritten.sameFile hsame, hmem, rfl⟩
      obtain ⟨text, hread⟩ := (hpath _ _ (.through hinclude (.here _))).read
      obtain ⟨text', hread'⟩ := (hpath' _ _ (.through hinclude' (.here _))).read
      obtain ⟨last', hchain, hlast⟩ := ih (hsame.beside hread hread')
        (fun m inner hinner => hpath _ _ (.through hinclude hinner))
        (fun m inner hinner => hpath' _ _ (.through hinclude' hinner))
      exact ⟨last', .through hinclude' hchain, hlast⟩

/-- A cycle of includes can be gone around again and again, until the includes nest too deep. -/
theorem Sound.not_cycle {n k : Nat} {again : String} (h : Sound tree root locations)
    (hreached : Reached tree root locations n path) (hchain : Chain tree path (k + 1) again) :
    ¬ tree.SameFile path again := by
  intro hsame
  have hbelow : ∀ {m inner}, Reached tree root locations m inner →
      ∀ m inner', Chain tree inner m inner' → WellFormed tree inner' :=
    fun hinner m inner' hchain => (h.wellFormed _ _ (hinner.extend hchain)).2
  -- Each round ends at the same file, from which the next round can begin.
  have haround : ∀ times, ∃ there,
      Reached tree root locations (n + times * (k + 1)) there ∧ tree.SameFile path there := by
    intro times
    induction times with
    | zero =>
        obtain ⟨text, hread⟩ := (h.wellFormed _ _ hreached).2.read
        exact ⟨path, by rwa [Nat.zero_mul], Tree.sameFile_self hread⟩
    | succ times ih =>
        obtain ⟨there, hthere, hpath⟩ := ih
        obtain ⟨next, hnext, hagain⟩ := hchain.again hpath (hbelow hreached) (hbelow hthere)
        refine ⟨next, ?_, hsame.trans hagain⟩
        rw [Nat.succ_mul, ← Nat.add_assoc]
        exact hthere.extend hnext
  obtain ⟨there, hthere, -⟩ := haround (maxDepth + 1)
  have hdeep := (h.wellFormed _ _ hthere).1
  rw [Nat.mul_succ] at hdeep
  omega

/-! ## All or nothing -/

/-- Something is wrong with a changelog that is reached from the locations. -/
inductive Flawed (tree : Tree) (root : String) (locations : List String) : Prop
  | cycle {n k : Nat} {path again : String} (hreached : Reached tree root locations n path)
      (hchain : Chain tree path (k + 1) again) (hsame : tree.SameFile path again)
  | tooDeep {n : Nat} {path : String} (hreached : Reached tree root locations n path)
      (hdeep : maxDepth < n)
  | unreadable {n : Nat} {path : String} {fault : Fault}
      (hreached : Reached tree root locations n path) (hread : tree.read path = .error fault)
  | malformed {n : Nat} {path text : String} (hreached : Reached tree root locations n path)
      (hread : tree.read path = .ok text) (hentries : read? text = none)
  | unclear {n : Nat} {path : String} {entries : List Entry} {entry : Entry}
      (hreached : Reached tree root locations n path) (hwritten : Written tree path entries)
      (hmem : entry ∈ entries) (heither : entry.changeSet.isSome = entry.includedFile.isSome)
  | scriptUnreadable {n : Nat} {path file : String} {entries : List Entry} {set : ChangeSetText}
      {fault : Fault} (hreached : Reached tree root locations n path)
      (hwritten : Written tree path entries) (hmem : ⟨some set, none⟩ ∈ entries)
      (hfile : set.sqlFile = some file) (hread : tree.read (beside path file) = .error fault)
  | noStatements {n : Nat} {path : String} {entries : List Entry} {set : ChangeSetText}
      (hreached : Reached tree root locations n path) (hwritten : Written tree path entries)
      (hmem : ⟨some set, none⟩ ∈ entries) (hnone : forwardStatements tree path set = [])

theorem Sound.not_flawed (h : Sound tree root locations) : ¬ Flawed tree root locations := by
  intro hflawed
  cases hflawed with
  | cycle hreached hchain hsame => exact h.not_cycle hreached hchain hsame
  | tooDeep hreached hdeep => exact Nat.not_le_of_lt hdeep (h.wellFormed _ _ hreached).1
  | unreadable hreached hread =>
      obtain ⟨text, htext⟩ := (h.wellFormed _ _ hreached).2.read
      cases hread.symm.trans htext
  | malformed hreached hread hentries =>
      obtain ⟨entries, ⟨text, htext, hsome⟩, -⟩ := (h.wellFormed _ _ hreached).2
      cases hread.symm.trans htext
      cases hentries.symm.trans hsome
  | unclear hreached hwritten hmem heither =>
      obtain ⟨entries, hentries, horder⟩ := (h.wellFormed _ _ hreached).2
      cases hwritten.unique hentries
      cases horder _ hmem with
      | changeSet _ => cases heither
      | inclusion _ => cases heither
  | scriptUnreadable hreached hwritten hmem hfile hread =>
      obtain ⟨entries, hentries, horder⟩ := (h.wellFormed _ _ hreached).2
      cases hwritten.unique hentries
      cases horder _ hmem with
      | changeSet hexecutable =>
          obtain ⟨text, htext⟩ := hexecutable.script _ hfile
          cases hread.symm.trans htext
  | noStatements hreached hwritten hmem hnone =>
      obtain ⟨entries, hentries, horder⟩ := (h.wellFormed _ _ hreached).2
      cases hwritten.unique hentries
      cases horder _ hmem with
      | changeSet hexecutable => exact hexecutable.statements hnone

/-- Where nothing is wrong with a changelog that is reached, it is well-formed. -/
theorem wellFormed_of_not_flawed {n : Nat} (h : ¬ Flawed tree root locations)
    (hreached : Reached tree root locations n path) : WellFormed tree path := by
  cases hread : tree.read path with
  | error fault => exact absurd (.unreadable hreached hread) h
  | ok text =>
      cases hentries : read? text with
      | none => exact absurd (.malformed hreached hread hentries) h
      | some entries =>
          have hwritten : Written tree path entries := ⟨text, hread, hentries⟩
          refine ⟨entries, hwritten, ?_⟩
          rintro ⟨_ | set, _ | file⟩ hmem
          · exact absurd (.unclear hreached hwritten hmem rfl) h
          · exact .inclusion file
          · refine .changeSet ⟨fun file hfile => ?_, fun hnone => ?_⟩
            · cases hscript : tree.read (beside path file) with
              | error fault =>
                  exact absurd (.scriptUnreadable hreached hwritten hmem hfile hscript) h
              | ok text => exact ⟨text, rfl⟩
            · exact h (.noStatements hreached hwritten hmem hnone)
          · exact absurd (.unclear hreached hwritten hmem rfl) h

theorem sound_iff : Sound tree root locations ↔
    (∀ location ∈ locations, tree.exists? (Path.join root location) = true) ∧
      ¬ Flawed tree root locations :=
  ⟨fun h => ⟨h.exist, h.not_flawed⟩, fun h => ⟨h.1, fun _ _ hreached =>
    ⟨Nat.le_of_not_lt fun hdeep => h.2 (.tooDeep hreached hdeep),
      wellFormed_of_not_flawed h.2 hreached⟩⟩⟩

/-! ## Plans -/

/-- The order in which change sets are worked off. -/
def arrange {α : Type} : Direction → List α → List α
  | .apply, sets => sets
  | .drop, sets => sets.reverse

theorem concat_ofStatements {α : Type} (origin : α → String) (statements : α → List String)
    (sets : List α) :
    (Plan.concat (sets.map fun set => .ofStatements (origin set) (statements set))).failure = none ∧
      (Plan.concat (sets.map fun set => .ofStatements (origin set) (statements set))).steps.map
        Step.statement = sets.flatMap statements := by
  induction sets with
  | nil => exact ⟨rfl, rfl⟩
  | cons set rest ih =>
      refine ⟨ih.1, ?_⟩
      rw [List.flatMap_cons, ← ih.2]
      simp [Plan.concat, Plan.append, Plan.ofStatements, Function.comp_def]

theorem plan_eq (direction : Direction) (tree : Tree) (root : String) (locations : List String) :
    plan direction .liquibase tree root locations =
      .ofExcept ((changeSets tree root locations).map fun sets =>
        .concat ((arrange direction sets).map fun set =>
          .ofStatements set.origin (set.statementsTo direction))) := by
  cases direction <;> rfl

theorem run_of_changeSets_error {direction : Direction} {failure : Failure}
    (h : changeSets tree root locations = .error failure) {m : Type → Type} [Monad m]
    [LawfulMonad m] (send : String → m (Except StatementError Unit)) :
    run send direction .liquibase tree root locations =
      pure (.error (.migration Engine.liquibase.name failure.origin failure.cause.message)) := by
  have hplan : plan direction .liquibase tree root locations = .fail failure := by
    rw [plan_eq, h]
    rfl
  rw [run_of_sendAll, hplan]
  exact pure_bind ..

theorem run_of_changeSets_ok {direction : Direction} {sets : List ChangeSet}
    (h : changeSets tree root locations = .ok sets) {rule : Rule} {past : Traffic}
    (haccepts : rule.Accepts past ((arrange direction sets).flatMap (·.statementsTo direction))) :
    run rule.send direction .liquibase tree root locations past =
      (.ok (), past.accept ((arrange direction sets).flatMap (·.statementsTo direction))) := by
  obtain ⟨hfailure, hsteps⟩ := concat_ofStatements ChangeSet.origin (·.statementsTo direction)
    (arrange direction sets)
  have hplan : plan direction .liquibase tree root locations = .concat ((arrange direction sets).map
      fun set => .ofStatements set.origin (set.statementsTo direction)) := by
    rw [plan_eq, h]
    rfl
  rw [← hplan] at hfailure hsteps
  rw [← hsteps] at haccepts ⊢
  rw [run_of_accepts haccepts, Plan.verdict, hfailure]

/-- Let changelogs be applied or dropped, with any include graph between them. Where something is
wrong with one that is reached, wherever it stands, or where a location is missing, the call gives
an error of the engine, and that is all that it does on any connection: nothing is sent. Where every
location exists and nothing is wrong, all change sets are loaded, and a connection that accepts
their statements gets all of them. -/
theorem changelogs_load_all_or_nothing (direction : Direction) (tree : Tree) (root : String)
    (locations : List String) :
    (Flawed tree root locations ∨
        (∃ location ∈ locations, tree.exists? (Path.join root location) = false) →
      ∃ origin reason, ∀ {m : Type → Type} [Monad m] [LawfulMonad m]
        (send : String → m (Except StatementError Unit)),
        run send direction .liquibase tree root locations =
          pure (.error (.migration Engine.liquibase.name origin reason))) ∧
    ((∀ location ∈ locations, tree.exists? (Path.join root location) = true) →
      ¬ Flawed tree root locations →
      ∃ sets, changeSets tree root locations = .ok sets ∧
        ∀ (rule : Rule) (past : Traffic),
          rule.Accepts past ((arrange direction sets).flatMap (·.statementsTo direction)) →
          run rule.send direction .liquibase tree root locations past =
            (.ok (),
              past.accept ((arrange direction sets).flatMap (·.statementsTo direction)))) := by
  constructor
  · intro hwrong
    cases hsets : changeSets tree root locations with
    | error failure => exact ⟨_, _, fun send => run_of_changeSets_error hsets send⟩
    | ok sets =>
        have hsound := exists_changeSets_iff.mp ⟨sets, hsets⟩
        rcases hwrong with hflawed | ⟨location, hlocation, hmissing⟩
        · exact absurd hflawed hsound.not_flawed
        · cases hmissing.symm.trans (hsound.exist location hlocation)
  · intro hexist hflawed
    obtain ⟨sets, hsets⟩ := exists_changeSets_iff.mpr (sound_iff.mpr ⟨hexist, hflawed⟩)
    exact ⟨sets, hsets, fun rule past haccepts => run_of_changeSets_ok hsets haccepts⟩

/-! ## Changelogs beside the start -/

/-- A text is a changelog with these entries, and may stand under a plain name. -/
def Stored (name text : String) (entries : List Entry) : Prop :=
  PlainName name ∧ hasExtension extensions ⟨name, name⟩ = true ∧ read? text = some entries

instance (name text : String) (entries : List Entry) : Decidable (Stored name text entries) :=
  inferInstanceAs (Decidable (_ ∧ _))

theorem Stored.written {name text : String} (h : Stored name text entries)
    (hstart : tree.start = [])
    (hfile : tree.find? [name] = some (.file text.toUTF8)) : Written tree name entries :=
  ⟨text, h.1.read_text hstart hfile, h.2.2⟩

theorem Stored.holds {name text : String} (h : Stored name text entries)
    (hfile : tree.find? [name] = some (.file text.toUTF8)) : tree.Holds extensions name :=
  ⟨h.1, ⟨_, hfile⟩, h.2.1⟩

/-! ## A changelog that includes itself -/

namespace Looped

def usersText : String :=
  "databaseChangeLog:\n- changeSet:\n    id: 1\n    sql: CREATE TABLE users(id INT)\n"

def users : ChangeSetText where
  id := "1"
  sql := some "CREATE TABLE users(id INT)"

def loopText : String :=
  "databaseChangeLog:\n- include:\n    file: loop.yaml\n"

/-- A fine changelog, and one that includes itself. -/
def files : Tree where
  entries := [(["users.yaml"], .file usersText.toUTF8), (["loop.yaml"], .file loopText.toUTF8)]

theorem stored : Stored "users.yaml" usersText [⟨some users, none⟩] ∧
    Stored "loop.yaml" loopText [⟨none, some "loop.yaml"⟩] ∧
    beside "loop.yaml" "loop.yaml" = "loop.yaml" ∧
    statementsOf users.sql = ["CREATE TABLE users(id INT)"] := by
  decide +kernel

theorem users_executable (tree : Tree) (path : String) : Executable tree path users :=
  executable_of_no_script rfl (stored.2.2.2 ▸ List.cons_ne_nil _ _)

theorem loop_is_flawed : Flawed files "" ["users.yaml", "loop.yaml"] := by
  obtain ⟨husers, hloop, hbeside, -⟩ := stored
  have hlocated : Located files "" ["users.yaml", "loop.yaml"] "loop.yaml" :=
    (located_iff (collect_of_holds rfl (List.forall_mem_cons.mpr
      ⟨husers.holds rfl, List.forall_mem_singleton.mpr (hloop.holds rfl)⟩))).mpr
        ⟨⟨"loop.yaml", "loop.yaml"⟩, List.mem_of_getElem? (i := 1) rfl, rfl⟩
  have hwritten : Written files "loop.yaml" _ := hloop.written rfl rfl
  have hinclude : Includes files "loop.yaml" "loop.yaml" :=
    ⟨_, _, hwritten, List.mem_singleton_self _, hbeside.symm⟩
  obtain ⟨text, hread, -⟩ := hwritten
  exact .cycle ⟨_, hlocated, .here _⟩ (.through hinclude (.here _)) (Tree.sameFile_self hread)

theorem users_load :
    changeSets files "" ["users.yaml"] = .ok [loaded files "users.yaml" users] := by
  have husers := stored.1
  exact changeSets_eq_ok_iff.mpr
    ⟨_, _, collect_of_holds rfl (List.forall_mem_singleton.mpr (husers.holds rfl)),
      .cons (load_succ_eq_ok_iff.mpr ⟨_, _, husers.written rfl rfl,
        .cons (.changeSet (users_executable ..)) .nil, rfl⟩) .nil, rfl⟩

theorem loop_holds_users_back :
    (∃ origin reason, ∀ (rule : Rule) (past : Traffic),
      run rule.send .apply .liquibase files "" ["users.yaml", "loop.yaml"] past =
        (.error (.migration "LIQUIBASE" origin reason), past)) ∧
    ∀ past, run Rule.tolerant.send .apply .liquibase files "" ["users.yaml"] past =
      (.ok (), past.accept ["CREATE TABLE users(id INT)"]) := by
  constructor
  · obtain ⟨origin, reason, hrun⟩ :=
      (changelogs_load_all_or_nothing .apply files "" ["users.yaml", "loop.yaml"]).1
        (.inl loop_is_flawed)
    exact ⟨origin, reason, fun rule past => congrFun (hrun rule.send) past⟩
  · obtain ⟨hexist, hflawed⟩ := sound_iff.mp (exists_changeSets_iff.mp ⟨_, users_load⟩)
    obtain ⟨sets, hsets, hrun⟩ :=
      (changelogs_load_all_or_nothing .apply files "" ["users.yaml"]).2 hexist hflawed
    cases users_load.symm.trans hsets
    have hstatements : [loaded files "users.yaml" users].flatMap (·.statementsTo .apply) =
        ["CREATE TABLE users(id INT)"] := by
      rw [List.flatMap_singleton, ← stored.2.2.2]
      exact forward_of_no_script rfl
    intro past
    rw [← hstatements]
    exact hrun _ past (Rule.tolerant_accepts _ _)

end Looped

end Changelog
end ScopedResources.Migration
