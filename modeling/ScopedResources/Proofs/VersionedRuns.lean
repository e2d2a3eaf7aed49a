import ScopedResources.Proofs.PlainFiles
import ScopedResources.Proofs.PlanRuns
import ScopedResources.Proofs.VersionNames
import Mathlib.Data.List.Chain

/-!
# Runs of versioned scripts

Versioned scripts are sorted and then compared neighbour by neighbour. As the order is total up to
likeness, like versions end up side by side, wherever their files stand in the list; so a run either
finds two of them and sends nothing, or sends every script once, in the strict order of the
versions. -/

namespace ScopedResources.Migration

open Files Version

namespace Naming

/-- The files that have a version, with it. -/
def versioned (naming : Naming) (files : List Found) : List VersionedFile :=
  files.filterMap fun file => (naming.version? (stem file)).map fun version => ⟨version, file⟩

/-- The scripts have unlike versions. -/
def Distinct (first second : VersionedFile) : Prop :=
  ¬ Alike first.version second.version

variable {naming : Naming} {files : List Found} {scripts : List VersionedFile}

theorem mem_versioned {script : VersionedFile} : script ∈ naming.versioned files ↔
    script.file ∈ files ∧ naming.version? (stem script.file) = some script.version := by
  rw [versioned, List.mem_filterMap]
  constructor
  · rintro ⟨file, hfile, hversion⟩
    obtain ⟨version, hread, rfl⟩ := Option.map_eq_some_iff.mp hversion
    exact ⟨hfile, hread⟩
  · rintro ⟨hfile, hversion⟩
    exact ⟨script.file, hfile, by rw [hversion, Option.map_some]⟩

theorem versioned_pairwise : (naming.versioned files).Pairwise Distinct ↔
    ∀ first second v w, [first, second].Sublist files → naming.version? (stem first) = some v →
      naming.version? (stem second) = some w → ¬ Alike v w := by
  rw [versioned, List.pairwise_filterMap, List.pairwise_iff_forall_sublist]
  constructor
  · intro h first second v w hsub hv hw
    exact h hsub ⟨v, first⟩ (by rw [hv, Option.map_some]) ⟨w, second⟩ (by rw [hw, Option.map_some])
  · intro h first second hsub a ha b hb
    obtain ⟨v, hv, rfl⟩ := Option.map_eq_some_iff.mp ha
    obtain ⟨w, hw, rfl⟩ := Option.map_eq_some_iff.mp hb
    exact h first second v w hsub hv hw

theorem clash?_eq_none_iff : naming.clash? scripts = none ↔ scripts.IsChain Distinct := by
  induction scripts with
  | nil => simp [clash?]
  | cons first rest ih =>
      cases rest with
      | nil => simp [clash?]
      | cons second rest =>
          rw [clash?, List.isChain_cons_cons, ← ih, Distinct, ← same_iff]
          cases first.version.same second.version <;> simp

/-- Sorted scripts with unlike neighbours are strictly ordered. -/
theorem pairwise_below (hsorted : scripts.Pairwise fun a b => a.version.le b.version = true)
    (hchain : scripts.IsChain Distinct) :
    scripts.Pairwise fun a b => Below a.version b.version := by
  have : IsTrans VersionedFile fun a b => Below a.version b.version := ⟨fun _ _ _ => Below.trans⟩
  replace hsorted := hsorted.isChain
  rw [List.isChain_iff_getElem] at hsorted hchain
  rw [← List.isChain_iff_pairwise, List.isChain_iff_getElem]
  exact fun i hi => below_of_le (hsorted i hi) (hchain i hi)

/-- The files that have a version, the lowest version first. -/
def sorted (naming : Naming) (files : List Found) : List VersionedFile :=
  (naming.versioned files).mergeSort fun a b => a.version.le b.version

theorem sorted_perm : (naming.sorted files).Perm (naming.versioned files) :=
  sortedBy_perm VersionedFile.version _

theorem sorted_pairwise :
    (naming.sorted files).Pairwise fun a b => a.version.le b.version = true :=
  sortedBy_pairwise VersionedFile.version _

theorem ordered_of_clash {failure : Failure}
    (h : naming.clash? (naming.sorted files) = some failure) :
    naming.ordered files = .error failure := by
  unfold sorted versioned at h
  unfold ordered
  dsimp only
  rw [h]

theorem ordered_of_distinct (h : naming.clash? (naming.sorted files) = none) :
    naming.ordered files = .ok (naming.sorted files) := by
  unfold sorted versioned at h
  unfold ordered
  dsimp only
  rw [h]
  rfl

/-- Either two files have like versions, or all files with a version come in strict order. -/
theorem ordered_cases (naming : Naming) (files : List Found) :
    (¬ (naming.versioned files).Pairwise Distinct ∧
        ∃ failure, naming.ordered files = .error failure) ∨
      ((naming.versioned files).Pairwise Distinct ∧ ∃ scripts, naming.ordered files = .ok scripts ∧
        (scripts.Pairwise fun a b => Below a.version b.version) ∧
        scripts.Perm (naming.versioned files)) := by
  have hdistinct : (naming.sorted files).Pairwise Distinct ↔
      (naming.versioned files).Pairwise Distinct :=
    sorted_perm.pairwise_iff fun h h' => h h'.symm
  cases hclash : naming.clash? (naming.sorted files) with
  | some failure =>
      refine .inl ⟨fun hversioned => ?_, failure, ordered_of_clash hclash⟩
      rw [clash?_eq_none_iff.mpr (hdistinct.mpr hversioned).isChain] at hclash
      cases hclash
  | none =>
      have hbelow := pairwise_below sorted_pairwise (clash?_eq_none_iff.mp hclash)
      refine .inr ⟨hdistinct.mp (hbelow.imp fun h => h.not_alike), _, ordered_of_distinct hclash,
        hbelow, sorted_perm⟩

theorem mem_ordered (h : naming.ordered files = .ok scripts) {script : VersionedFile} :
    script ∈ scripts ↔
      script.file ∈ files ∧ naming.version? (stem script.file) = some script.version := by
  rcases naming.ordered_cases files with ⟨-, failure, herror⟩ | ⟨-, sorted, hsorted, -, hperm⟩
  · cases h.symm.trans herror
  · cases h.symm.trans hsorted
    rw [hperm.mem_iff, mem_versioned]

theorem ordered_singleton {file : Found} {version : Version}
    (h : naming.version? (stem file) = some version) :
    naming.ordered [file] = .ok [⟨version, file⟩] := by
  have hversioned : naming.versioned [file] = [⟨version, file⟩] := by simp [versioned, h]
  rcases naming.ordered_cases [file] with ⟨hclash, -⟩ | ⟨-, scripts, hscripts, -, hperm⟩
  · rw [hversioned] at hclash
    exact absurd (List.pairwise_singleton ..) hclash
  · rw [hversioned, List.perm_singleton] at hperm
    rw [hscripts, hperm]

end Naming

/-! ## Readable files -/

/-- The statements of a readable file. -/
def statementsAt (tree : Tree) (file : Found) : List String :=
  match tree.read file.path with
  | .ok text => Sql.statements text
  | .error _ => []

variable {tree : Tree} {root : String} {locations : List String} {files : List Found}

theorem runFiles_of_readable (h : ∀ file ∈ files, ∃ text, tree.read file.path = .ok text) :
    (runFiles tree files).failure = none ∧
      (runFiles tree files).steps.map Step.statement = files.flatMap (statementsAt tree) := by
  induction files with
  | nil => exact ⟨rfl, rfl⟩
  | cons file rest ih =>
      rw [List.forall_mem_cons] at h
      obtain ⟨⟨text, htext⟩, hrest⟩ := h
      obtain ⟨hfailure, hsteps⟩ := ih hrest
      have hfile : runFile tree file = .ofStatements file.path (Sql.statements text) := by
        rw [runFile, textAt_eq_ok.mpr htext]
        rfl
      have hcons : runFiles tree (file :: rest) =
          (Plan.ofStatements file.path (Sql.statements text)).append (runFiles tree rest) := by
        rw [← hfile]
        rfl
      rw [hcons]
      refine ⟨hfailure, ?_⟩
      rw [List.flatMap_cons, ← hsteps, statementsAt, htext]
      simp [Plan.append, Plan.ofStatements, Function.comp_def]

/-! ## Calls -/

/-- A call that runs versioned scripts. -/
inductive VersionedCall where
  | flywayApply
  | flywayDrop
  | cognitorApply

namespace VersionedCall

def direction : VersionedCall → Direction
  | .flywayApply | .cognitorApply => .apply
  | .flywayDrop => .drop

def engine : VersionedCall → Engine
  | .flywayApply | .flywayDrop => .flyway
  | .cognitorApply => .cognitor

def extensions : VersionedCall → List String
  | .flywayApply | .flywayDrop => Flyway.extensions
  | .cognitorApply => Cognitor.extensions

def naming : VersionedCall → Naming
  | .flywayApply => .applied
  | .flywayDrop => .undone
  | .cognitorApply => .numbered

/-- The stems of the files that the call runs. -/
def Named : VersionedCall → String → Version → Prop
  | .flywayApply => MarkedStem ['V', 'v']
  | .flywayDrop => MarkedStem ['U', 'u']
  | .cognitorApply => NumberedStem

/-- Which of two versions the call runs before the other. -/
def Before : VersionedCall → Version → Version → Prop
  | .flywayApply, v, w | .cognitorApply, v, w => Below v w
  | .flywayDrop, v, w => Below w v

/-- Two files of the call have like versions, wherever they stand in the list. -/
def Clashes (call : VersionedCall) (files : List Found) : Prop :=
  ∃ first second v w, [first, second].Sublist files ∧ call.Named (stem first) v ∧
    call.Named (stem second) w ∧ Alike v w

/-- The call has scripts to run. To apply it needs none; to drop without any is another matter. -/
def HasScripts (call : VersionedCall) (files : List Found) : Prop :=
  call.direction = .drop → ∃ file ∈ files, ∃ v, call.Named (stem file) v

variable {call : VersionedCall}

theorem version?_eq_some_iff {stem : String} {v : Version} :
    call.naming.version? stem = some v ↔ call.Named stem v := by
  cases call with
  | flywayApply => exact markedVersion?_eq_some_iff
  | flywayDrop => exact markedVersion?_eq_some_iff
  | cognitorApply => exact numbered_eq_some_iff

theorem not_clashes_iff :
    ¬ call.Clashes files ↔ (call.naming.versioned files).Pairwise Naming.Distinct := by
  simp only [Naming.versioned_pairwise, version?_eq_some_iff, Clashes, not_exists, not_and]

/-- The scripts in the order in which the call runs them. -/
def arrange (call : VersionedCall) (scripts : List VersionedFile) : List VersionedFile :=
  match call.direction with
  | .apply => scripts
  | .drop => scripts.reverse

theorem arrange_perm (scripts : List VersionedFile) : (call.arrange scripts).Perm scripts := by
  unfold arrange
  cases call.direction with
  | apply => exact List.Perm.refl _
  | drop => exact List.reverse_perm _

theorem pairwise_before {scripts : List VersionedFile}
    (h : scripts.Pairwise fun a b => Below a.version b.version) :
    (call.arrange scripts).Pairwise fun a b => call.Before a.version b.version := by
  cases call with
  | flywayApply | cognitorApply => exact h
  | flywayDrop => exact List.pairwise_reverse.mpr h

theorem Before.not_alike {v w : Version} (h : call.Before v w) : ¬ Alike v w := by
  cases call with
  | flywayApply | cognitorApply => exact Below.not_alike h
  | flywayDrop => exact fun halike => Below.not_alike h halike.symm

theorem ofExcept_bind {α : Type} (known : Except Failure α) (next : α → Except Failure Plan) :
    Plan.ofExcept (known.map fun a => .ofExcept (next a)) = .ofExcept (known >>= next) := by
  cases known <;> rfl

/-- The call sorts its scripts and runs them. With nothing to undo, the tables are dropped instead.
-/
theorem plan_eq (call : VersionedCall) (tree : Tree) (root : String) (locations : List String) :
    plan call.direction call.engine tree root locations =
      .ofExcept (collect tree root call.extensions locations >>= fun files =>
        (call.naming.ordered files).map fun scripts =>
          if call.direction = .drop ∧ scripts.isEmpty then dropCreated tree .applied locations files
          else runFiles tree ((call.arrange scripts).map (·.file))) := by
  cases call with
  | flywayApply | cognitorApply =>
      rw [← ofExcept_bind]
      rfl
  | flywayDrop =>
      change Flyway.drop tree root locations = .ofExcept
        (collect tree root Flyway.extensions locations >>= fun files =>
           (Naming.undone.ordered files).map _)
      unfold Flyway.drop
      congr 2
      funext files
      cases Naming.undone.ordered files with
      | error failure => rfl
      | ok scripts => cases scripts <;> rfl

/-- The plan of a call from the files that it finds. -/
theorem plan_of_ordered (call : VersionedCall)
    (hfiles : collect tree root call.extensions locations = .ok files) :
    plan call.direction call.engine tree root locations =
      .ofExcept ((call.naming.ordered files).map fun scripts =>
        if call.direction = .drop ∧ scripts.isEmpty then dropCreated tree .applied locations files
        else runFiles tree ((call.arrange scripts).map (·.file))) := by
  rw [plan_eq, hfiles]
  rfl

end VersionedCall

/-- Take the files at the locations of a call that runs versioned scripts. If two of its files have
like versions, the call gives an error and sends nothing, whatever the connection. Otherwise, where
its files are readable, it runs each of them once and no other file, in the strict order of their
versions: the lowest first to apply, the highest first to drop. -/
theorem versioned_scripts_run_in_order (call : VersionedCall)
    (hfiles : collect tree root call.extensions locations = .ok files) :
    (call.Clashes files → ∀ (rule : Rule) (past : Traffic), ∃ origin reason,
      run rule.send call.direction call.engine tree root locations past =
        (.error (.migration call.engine.name origin reason), past)) ∧
    (¬ call.Clashes files → call.HasScripts files →
      (∀ file ∈ files, ∀ v, call.Named (stem file) v → ∃ text, tree.read file.path = .ok text) →
      ∃ scripts : List VersionedFile,
        (scripts.Pairwise fun a b => call.Before a.version b.version) ∧
        (scripts.map (·.file)).Nodup ∧
        (∀ script, script ∈ scripts ↔
          script.file ∈ files ∧ call.Named (stem script.file) script.version) ∧
        ∀ past, run Rule.tolerant.send call.direction call.engine tree root locations past =
          (.ok (), past.accept (scripts.flatMap fun script => statementsAt tree script.file))) := by
  rcases call.naming.ordered_cases files with ⟨hclash, failure, hordered⟩ |
    ⟨hdistinct, scripts, hordered, hbelow, -⟩
  · rw [← VersionedCall.not_clashes_iff, not_not] at hclash
    refine ⟨fun _ rule past => ⟨failure.origin, failure.cause.message, ?_⟩, (absurd hclash ·)⟩
    have hplan : plan call.direction call.engine tree root locations = .fail failure := by
      rw [call.plan_of_ordered hfiles, hordered]
      rfl
    rw [run_of_accepts (by rw [hplan]; exact rule.accepts_nil past), hplan]
    exact Prod.ext rfl past.accept_nil
  · rw [← VersionedCall.not_clashes_iff] at hdistinct
    have hmem : ∀ script, script ∈ call.arrange scripts ↔
        script.file ∈ files ∧ call.Named (stem script.file) script.version := fun script => by
      rw [(call.arrange_perm scripts).mem_iff, Naming.mem_ordered hordered,
        VersionedCall.version?_eq_some_iff]
    have hbefore := call.pairwise_before hbelow
    refine ⟨(absurd · hdistinct), fun _ hscripts hreadable =>
      ⟨call.arrange scripts, hbefore, ?_, hmem, fun past => ?_⟩⟩
    · rw [List.Nodup, List.pairwise_map]
      refine hbefore.imp_of_mem fun {a b} ha hb h heq => ?_
      -- One file has one version, and a version is like itself.
      have hv := VersionedCall.version?_eq_some_iff.mpr ((hmem a).mp ha).2
      rw [heq, VersionedCall.version?_eq_some_iff.mpr ((hmem b).mp hb).2] at hv
      exact h.not_alike (Option.some.inj hv ▸ fun _ => rfl)
    · have hplan : plan call.direction call.engine tree root locations =
          runFiles tree ((call.arrange scripts).map (·.file)) := by
        rw [call.plan_of_ordered hfiles, hordered]
        refine if_neg ?_
        rintro ⟨hdrop, hempty⟩
        obtain ⟨file, hfile, v, hv⟩ := hscripts hdrop
        have hscript := (hmem ⟨v, file⟩).mpr ⟨hfile, hv⟩
        rw [(call.arrange_perm scripts).mem_iff, List.isEmpty_iff.mp hempty] at hscript
        exact List.not_mem_nil hscript
      have hread : ∀ file ∈ (call.arrange scripts).map (·.file),
          ∃ text, tree.read file.path = .ok text := fun file hfile => by
        obtain ⟨script, hscript, rfl⟩ := List.mem_map.mp hfile
        exact hreadable _ ((hmem script).mp hscript).1 _ ((hmem script).mp hscript).2
      obtain ⟨hfailure, hsteps⟩ := runFiles_of_readable hread
      rw [run_of_accepts (Rule.tolerant_accepts _ _), hplan, hsteps, Plan.verdict, hfailure,
        List.flatMap_map]

namespace VersionedCall

/-- Three scripts, two of them with like versions. -/
def scriptFiles : Tree where
  entries := [(["V10__views.sql"], .file "CREATE VIEW v".toUTF8),
    (["V2_1__users.sql"], .file "CREATE TABLE users(id INT)".toUTF8),
    (["V2.01.0__again.sql"], .file "CREATE TABLE again(id INT)".toUTF8)]

theorem holds_scripts : ∀ name ∈ ["V10__views.sql", "V2_1__users.sql", "V2.01.0__again.sql"],
    scriptFiles.Holds Flyway.extensions name := by
  have hplain : ∀ name ∈ ["V10__views.sql", "V2_1__users.sql", "V2.01.0__again.sql"],
      PlainName name ∧ hasExtension Flyway.extensions ⟨name, name⟩ = true := by decide +kernel
  intro name hname
  refine ⟨(hplain name hname).1, ?_, (hplain name hname).2⟩
  simp only [List.mem_cons, List.not_mem_nil, or_false] at hname
  rcases hname with rfl | rfl | rfl <;> exact ⟨_, rfl⟩

theorem collect_two :
    collect scriptFiles "" Flyway.extensions ["V10__views.sql", "V2_1__users.sql"] =
    .ok [⟨"V10__views.sql", "V10__views.sql"⟩, ⟨"V2_1__users.sql", "V2_1__users.sql"⟩] :=
  collect_of_holds rfl fun name hname => holds_scripts name (List.mem_append_left [_] hname)

theorem collect_three : collect scriptFiles "" Flyway.extensions
    ["V10__views.sql", "V2_1__users.sql", "V2.01.0__again.sql"] =
      .ok [⟨"V10__views.sql", "V10__views.sql"⟩, ⟨"V2_1__users.sql", "V2_1__users.sql"⟩,
        ⟨"V2.01.0__again.sql", "V2.01.0__again.sql"⟩] :=
  collect_of_holds rfl holds_scripts

/-- Two of the three scripts have like versions, and nothing is sent. Without the last one the
others are run, each once and the one with the lower version first. -/
theorem like_versions_stop_the_run :
    (∀ (rule : Rule) (past : Traffic), ∃ origin reason,
      run rule.send .apply .flyway scriptFiles ""
        ["V10__views.sql", "V2_1__users.sql", "V2.01.0__again.sql"] past =
          (.error (.migration Engine.flyway.name origin reason), past)) ∧
    ∃ scripts : List VersionedFile,
      (scripts.Pairwise fun a b => Below a.version b.version) ∧ (scripts.map (·.file)).Nodup ∧
      ⟨[2, 1], "V2_1__users.sql", "V2_1__users.sql"⟩ ∈ scripts ∧
      ⟨[10], "V10__views.sql", "V10__views.sql"⟩ ∈ scripts ∧
      ∀ past, run Rule.tolerant.send .apply .flyway scriptFiles ""
          ["V10__views.sql", "V2_1__users.sql"] past =
        (.ok (), past.accept
          (scripts.flatMap fun script => statementsAt scriptFiles script.file)) := by
  have hnamed : ∀ {stem v}, Naming.applied.version? stem = some v →
      VersionedCall.flywayApply.Named stem v := fun h => markedVersion?_eq_some_iff.mp h
  constructor
  · refine (versioned_scripts_run_in_order .flywayApply collect_three).1 ⟨_, _, [2, 1], [2, 1, 0],
      List.sublist_cons_self _ _, hnamed rfl, hnamed rfl, ?_⟩
    exact order_eq_eq_iff.mp (by simp [order])
  · have hversioned : Naming.applied.versioned
        [⟨"V10__views.sql", "V10__views.sql"⟩, ⟨"V2_1__users.sql", "V2_1__users.sql"⟩] =
          [⟨[10], "V10__views.sql", "V10__views.sql"⟩,
            ⟨[2, 1], "V2_1__users.sql", "V2_1__users.sql"⟩] := rfl
    have hdistinct : ¬ VersionedCall.flywayApply.Clashes
        [⟨"V10__views.sql", "V10__views.sql"⟩, ⟨"V2_1__users.sql", "V2_1__users.sql"⟩] := by
      rw [VersionedCall.not_clashes_iff]
      change (Naming.applied.versioned _).Pairwise Naming.Distinct
      rw [hversioned, List.pairwise_pair, Naming.Distinct, ← order_eq_eq_iff]
      simp [order]
    obtain ⟨scripts, hbefore, honce, hmem, hrun⟩ :=
      (versioned_scripts_run_in_order .flywayApply collect_two).2 hdistinct (fun h => (by cases h))
        fun file hfile _ _ => by
          rcases List.mem_pair.mp hfile with rfl | rfl
          · exact ⟨"CREATE VIEW v", (holds_scripts _ (by simp)).1.read rfl rfl (by decide)⟩
          · exact ⟨"CREATE TABLE users(id INT)",
              (holds_scripts _ (by simp)).1.read rfl rfl (by decide)⟩
    exact ⟨scripts, hbefore, honce, (hmem _).mpr ⟨by simp, hnamed rfl⟩,
      (hmem _).mpr ⟨by simp, hnamed rfl⟩, hrun⟩

end VersionedCall

end ScopedResources.Migration
