import ScopedResources.Proofs.DerivedDrops
import ScopedResources.Proofs.StatementPieces
import Mathlib.Algebra.Group.Nat.Even

/-!
# Dotted and quoted names in derived drops

A table may be named by parts with dots between them, where a part between double quotes may hold
any text. Cutting a script keeps such a name whole. The reader of created tables takes what it knows
of the name, word characters, dots and double quotes, and stops at the first other character. A drop
is sent for what was read; it is the drop of the table only where the whole name was read, and
leaves a quote open otherwise. -/

namespace ScopedResources

namespace Sql

open Text

/-- A part of the name of a table: a word, or any text between double quotes. -/
inductive NamePart where
  | word (text : List Char) (nonempty : text ≠ []) (isWord : ∀ c ∈ text, isWord c = true)
  | quoted (body : List Char)

namespace NamePart

/-- A part as it is written. A double quote between the quotes is written twice. -/
def text : NamePart → List Char
  | word text _ _ => text
  | quoted body => '"' :: (doubled '"' body ++ ['"'])

/-- Between quotes stand only characters that the reader of created tables knows. -/
def Plain : NamePart → Prop
  | word _ _ _ => True
  | quoted body => ∀ c ∈ body, isTableNameChar c = true

end NamePart

/-- The name of a table: some parts with dots between them. -/
structure DottedName where
  parts : List NamePart
  nonempty : parts ≠ []

namespace DottedName

def text (name : DottedName) : List Char :=
  ['.'].intercalate (name.parts.map NamePart.text)

/-- What the reader of created tables takes of the name. -/
def seen (name : DottedName) : List Char :=
  name.text.takeWhile isTableNameChar

def Plain (name : DottedName) : Prop :=
  ∀ part ∈ name.parts, part.Plain

end DottedName

/-- The statement creates a table of this name, which ends where nothing more can belong to it. -/
def CreatesNamed (statement : String) (name : DottedName) : Prop :=
  ∃ s rest, afterKeywords? ["create", "table"] (statement.toList.dropWhile isBlank) = some s ∧
    namePlace s = name.text ++ rest ∧ rest.head?.any isTableNameChar = false

/-- The names of the tables that statements create, one for each statement that creates a table. -/
inductive CreatesInOrder : List String → List DottedName → Prop
  | nil : CreatesInOrder [] []
  | create {statement : String} {name : DottedName} {statements : List String}
      {names : List DottedName}
      (named : CreatesNamed statement name) (behind : CreatesInOrder statements names) :
      CreatesInOrder (statement :: statements) (name :: names)
  | other {statement : String} {statements : List String} {names : List DottedName}
      (creates : afterKeywords? ["create", "table"] (statement.toList.dropWhile isBlank) = none)
      (behind : CreatesInOrder statements names) : CreatesInOrder (statement :: statements) names

/-- Double quotes open and close in turn, so one is left open where their number is odd. -/
def QuotesClosed (text : List Char) : Prop :=
  Even (text.count '"')

variable {c : Char} {s rest tail body : List Char} {part : NamePart} {parts : List NamePart}
variable {name : DottedName} {names : List DottedName} {statement : String}
variable {statements : List String}

/-! ## Parts -/

theorem isTableNameChar_of_isWord (h : isWord c = true) : isTableNameChar c = true := by
  simp [isTableNameChar, h]

theorem ne_quote_of_isWord (h : isWord c = true) : c ≠ '"' := by
  rintro rfl
  cases h

theorem mem_doubled {quote : Char} : c ∈ doubled quote body ↔ c ∈ body := by
  unfold doubled
  rw [List.mem_flatMap]
  constructor
  · rintro ⟨d, hd, hc⟩
    split at hc <;> simp_all
  · intro hc
    exact ⟨c, hc, by split <;> simp⟩

/-- However much is read of a doubled body, its quotes come in pairs. -/
theorem quotesClosed_takeWhile_doubled (p : Char → Bool) (body : List Char) :
    QuotesClosed ((doubled '"' body).takeWhile p) := by
  induction body with
  | nil => exact ⟨0, rfl⟩
  | cons c body ih =>
      have hdoubled : doubled '"' (c :: body) =
          (if c = '"' then [c, c] else [c]) ++ doubled '"' body := rfl
      rw [hdoubled]
      unfold QuotesClosed at ih ⊢
      by_cases hp : p c = true
      · by_cases hc : c = '"'
        · subst hc
          simpa [hp, Nat.even_add_one] using ih
        · simpa [hp, hc] using ih
      · split <;> simp [hp]

theorem quotesClosed_doubled (body : List Char) : QuotesClosed (doubled '"' body) := by
  have hall := quotesClosed_takeWhile_doubled (fun _ => true) body
  rwa [List.takeWhile_eq_self_iff.mpr fun _ _ => rfl] at hall

namespace NamePart

theorem plain_iff : part.Plain ↔ ∀ c ∈ part.text, isTableNameChar c = true := by
  cases part with
  | word text nonempty isWord =>
      exact ⟨fun _ c hc => isTableNameChar_of_isWord (isWord c hc), fun _ => trivial⟩
  | quoted body =>
      have hquote : isTableNameChar '"' = true := rfl
      simp only [Plain, NamePart.text, List.mem_cons, List.mem_append, List.not_mem_nil, or_false,
        mem_doubled]
      constructor
      · rintro h c (rfl | hc | rfl)
        · exact hquote
        · exact h c hc
        · exact hquote
      · exact fun h c hc => h c (.inr (.inl hc))

theorem quotesClosed_text (part : NamePart) : QuotesClosed part.text := by
  cases part with
  | word text nonempty isWord =>
      have hnone : text.count '"' = 0 :=
        List.count_eq_zero.mpr fun hquote => ne_quote_of_isWord (isWord _ hquote) rfl
      simp [QuotesClosed, NamePart.text, hnone]
  | quoted body =>
      have hbody := quotesClosed_doubled body
      unfold QuotesClosed at hbody ⊢
      simpa [NamePart.text, Nat.even_add_one] using hbody

theorem exists_text (part : NamePart) :
    ∃ c more, part.text = c :: more ∧ isTableNameChar c = true := by
  cases part with
  | word text nonempty isWord =>
      obtain ⟨c, more, rfl⟩ := List.exists_cons_of_ne_nil nonempty
      exact ⟨c, more, rfl, isTableNameChar_of_isWord (isWord c List.mem_cons_self)⟩
  | quoted body => exact ⟨'"', _, rfl, rfl⟩

/-- A part that is not read to its end is left behind the quote that opens it. -/
theorem not_quotesClosed_takeWhile (h : ¬ part.Plain) (tail : List Char) :
    ¬ QuotesClosed ((part.text ++ tail).takeWhile isTableNameChar) := by
  cases part with
  | word => exact absurd trivial h
  | quoted body =>
      have hstops : ¬ ∀ c ∈ doubled '"' body, isTableNameChar c = true := fun hall =>
        h fun c hc => hall c (mem_doubled.mpr hc)
      have hread : ((quoted body).text ++ tail).takeWhile isTableNameChar =
          '"' :: (doubled '"' body).takeWhile isTableNameChar := by
        have hquote : isTableNameChar '"' = true := rfl
        rw [NamePart.text, List.cons_append, List.takeWhile_cons_of_pos hquote, List.append_assoc,
          List.takeWhile_append, if_neg]
        intro hlength
        apply hstops
        rw [← List.takeWhile_eq_self_iff]
        exact (List.takeWhile_prefix _).eq_of_length hlength
      have hbody := quotesClosed_takeWhile_doubled isTableNameChar body
      rw [hread]
      unfold QuotesClosed at hbody ⊢
      simpa [Nat.even_add_one] using hbody

end NamePart

/-! ## Names -/

namespace DottedName

/-- What is read of a name leaves no quote open exactly where all of it is read. -/
theorem quotesClosed_takeWhile_iff (parts : List NamePart) :
    QuotesClosed ((['.'].intercalate (parts.map NamePart.text)).takeWhile isTableNameChar) ↔
      ∀ part ∈ parts, part.Plain := by
  induction parts with
  | nil => simp [QuotesClosed]
  | cons part parts ih =>
      -- behind the first part stands nothing, or a dot and the other parts
      obtain ⟨tail, htail, hclosed⟩ : ∃ tail,
          ['.'].intercalate ((part :: parts).map NamePart.text) = part.text ++ tail ∧
          (QuotesClosed (tail.takeWhile isTableNameChar) ↔ ∀ part ∈ parts, part.Plain) := by
        cases parts with
        | nil => exact ⟨[], by simp, by simp [QuotesClosed]⟩
        | cons next parts =>
            refine ⟨'.' :: ['.'].intercalate ((next :: parts).map NamePart.text), ?_, ?_⟩
            · simp
            · have hdot : isTableNameChar '.' = true := rfl
              rw [List.takeWhile_cons_of_pos hdot, ← ih]
              simp [QuotesClosed]
      rw [htail, List.forall_mem_cons]
      by_cases hplain : part.Plain
      · have hpart := part.quotesClosed_text
        rw [List.takeWhile_append_of_pos (NamePart.plain_iff.mp hplain), ← hclosed]
        unfold QuotesClosed at hpart ⊢
        simp [hplain, List.count_append, Nat.even_add, hpart]
      · exact iff_of_false (part.not_quotesClosed_takeWhile hplain tail) fun h => hplain h.1

theorem quotesClosed_seen_iff (name : DottedName) : QuotesClosed name.seen ↔ name.Plain :=
  quotesClosed_takeWhile_iff name.parts

theorem forall_mem_intercalate_iff (parts : List NamePart) :
    (∀ c ∈ ['.'].intercalate (parts.map NamePart.text), isTableNameChar c = true) ↔
      ∀ part ∈ parts, part.Plain := by
  induction parts with
  | nil => simp
  | cons part parts ih =>
      cases parts with
      | nil => simp [NamePart.plain_iff]
      | cons next parts =>
          have hdot : isTableNameChar '.' = true := rfl
          rw [List.map_cons, List.map_cons, List.intercalate_cons_cons, List.forall_mem_append,
            List.forall_mem_append, ← List.map_cons, ih, ← NamePart.plain_iff, List.forall_mem_cons]
          simp [hdot]

theorem seen_eq_text_iff (name : DottedName) : name.seen = name.text ↔ name.Plain := by
  rw [seen, List.takeWhile_eq_self_iff]
  exact forall_mem_intercalate_iff name.parts

theorem seen_ne_nil (name : DottedName) : name.seen ≠ [] := by
  obtain ⟨part, parts, hparts⟩ := List.exists_cons_of_ne_nil name.nonempty
  obtain ⟨c, more, hpart, hc⟩ := part.exists_text
  have htext : ∃ tail, name.text = c :: (more ++ tail) := by
    unfold text
    rw [hparts]
    cases parts with
    | nil => exact ⟨[], by simp [hpart]⟩
    | cons next parts =>
        exact ⟨'.' :: ['.'].intercalate ((next :: parts).map NamePart.text), by simp [hpart]⟩
  obtain ⟨tail, htext⟩ := htext
  simp [seen, htext, hc]

end DottedName

/-! ## Statements -/

theorem createdTable?_of_named (h : CreatesNamed statement name) :
    createdTable? statement = some (String.ofList name.seen) := by
  obtain ⟨s, rest, hbehind, hplace, hrest⟩ := h
  apply createdTable?_of_namePlace hbehind
  have hread : (name.text ++ rest).takeWhile isTableNameChar = name.seen :=
    takeWhile_append_of_head hrest
  simp [tableName?, hplace, hread, name.seen_ne_nil]

theorem createdTables_of_inOrder (h : CreatesInOrder statements names) :
    createdTables statements = (names.map fun name => String.ofList name.seen).eraseDups := by
  have hread : statements.filterMap createdTable? =
      names.map fun name => String.ofList name.seen := by
    induction h with
    | nil => rfl
    | create named _ ih => simp [createdTable?_of_named named, ih]
    | other creates _ ih => simpa [createdTable?, creates] using ih
  rw [createdTables, hread]

end Sql

namespace Migration

open Files Sql

theorem dropStatements_inj {tables others : List String}
    (h : dropStatements tables = dropStatements others) : tables = others := by
  have hinj : Function.Injective ("DROP TABLE IF EXISTS " ++ ·) := fun _ _ =>
    (String.append_right_inj _).mp
  exact List.reverse_injective (List.map_injective_iff.mpr hinj h)

theorem mem_dropStatements {tables : List String} {statement : String} :
    statement ∈ dropStatements tables ↔
      ∃ table ∈ tables, "DROP TABLE IF EXISTS " ++ table = statement := by
  simp [dropStatements]

theorem quotesClosed_drop_iff (table : List Char) :
    QuotesClosed ("DROP TABLE IF EXISTS " ++ String.ofList table).toList ↔ QuotesClosed table := by
  have hnone : "DROP TABLE IF EXISTS ".toList.count '"' = 0 := by decide
  rw [QuotesClosed, String.toList_append, List.count_append, hnone, String.toList_ofList,
    Nat.zero_add, QuotesClosed]

/-- What is sent drops the tables by their whole names exactly where these are read. -/
theorem dropStatements_seen_eq_iff (names : List DottedName) :
    dropStatements (names.map fun name => String.ofList name.seen).eraseDups =
        dropStatements (names.map fun name => String.ofList name.text).eraseDups ↔
      ∀ name ∈ names, name.Plain := by
  constructor
  · intro hsent name hname
    have htext : String.ofList name.text ∈
        (names.map fun name => String.ofList name.seen).eraseDups := by
      rw [dropStatements_inj hsent, List.mem_eraseDups]
      exact List.mem_map_of_mem hname
    rw [List.mem_eraseDups, List.mem_map] at htext
    obtain ⟨other, -, hother⟩ := htext
    rw [String.ofList_inj] at hother
    refine (DottedName.forall_mem_intercalate_iff name.parts).mp fun c hc => ?_
    change c ∈ name.text at hc
    rw [← hother] at hc
    exact List.mem_takeWhile_imp hc
  · intro hplain
    congr 2
    refine List.map_congr_left fun name hname => ?_
    rw [(name.seen_eq_text_iff).mpr (hplain name hname)]

theorem quotesClosed_dropStatements_iff (names : List DottedName) :
    (∀ statement ∈ dropStatements (names.map fun name => String.ofList name.seen).eraseDups,
        QuotesClosed statement.toList) ↔ ∀ name ∈ names, name.Plain := by
  constructor
  · intro hclosed name hname
    rw [← name.quotesClosed_seen_iff, ← quotesClosed_drop_iff]
    refine hclosed _ (mem_dropStatements.mpr ⟨String.ofList name.seen, ?_, rfl⟩)
    rw [List.mem_eraseDups]
    exact List.mem_map_of_mem hname
  · intro hplain statement hstatement
    obtain ⟨table, htable, rfl⟩ := mem_dropStatements.mp hstatement
    rw [List.mem_eraseDups, List.mem_map] at htable
    obtain ⟨name, hname, rfl⟩ := htable
    rw [quotesClosed_drop_iff, name.quotesClosed_seen_iff]
    exact hplain name hname

namespace VersionedCall

variable {call : VersionedCall} {tree : Tree} {root : String} {locations : List String}
variable {files : List Found} {scripts : List VersionedFile}

theorem undone_of_collected (hfiles : collect tree root call.extensions locations = .ok files)
    (hundone : call.engine = .flyway → ∀ file ∈ files, ∀ v,
      ¬ VersionedCall.flywayDrop.Named (stem file) v) :
    call.engine = .flyway → ∀ files, collect tree root Flyway.extensions locations = .ok files →
      ∀ file ∈ files, ∀ v, ¬ VersionedCall.flywayDrop.Named (stem file) v := by
  intro hflyway others hothers
  have hextensions : call.extensions = Flyway.extensions := by
    cases call with
    | flywayApply | flywayDrop => rfl
    | cognitorApply => cases hflyway
  rw [hextensions] at hfiles
  cases hfiles.symm.trans hothers
  exact hundone hflyway

/-- Without scripts that undo, a connection that accepts everything is sent the drops of the tables
that the scripts create. -/
theorem run_drop (happlies : call.direction = .apply)
    (hfiles : collect tree root call.extensions locations = .ok files)
    (hundone : call.engine = .flyway → ∀ file ∈ files, ∀ v,
      ¬ VersionedCall.flywayDrop.Named (stem file) v)
    (hordered : call.naming.ordered files = .ok scripts)
    (hreadable : ∀ file ∈ scripts.map (·.file), ∃ text, tree.read file.path = .ok text)
    (past : Traffic) :
    run Rule.tolerant.send .drop call.engine tree root locations past = (.ok (), past.accept
      (dropStatements (createdTables ((scripts.map (·.file)).flatMap (statementsAt tree))))) := by
  rw [run_of_accepts (Rule.tolerant_accepts _ _),
    plan_drop happlies (undone_of_collected hfiles hundone) hfiles,
    dropCreated_of_readable hordered hreadable]
  simp [Plan.verdict, Plan.ofStatements, Function.comp_def]

/-- Take a call that applies versioned scripts of unlike versions, all of them readable, and no
scripts that undo them. Let the statements that create tables give them dotted names. For each
distinct part of a name that is read, the drop sends one statement, the table that was created first
coming last, and nothing else. These are the drops of the tables that were created exactly where
every name holds between its quotes only word characters, dots and double quotes, and it is there
that no quote is left open. -/
theorem derived_drop_of_seen_names (happlies : call.direction = .apply)
    (hfiles : collect tree root call.extensions locations = .ok files)
    (hundone : call.engine = .flyway → ∀ file ∈ files, ∀ v,
      ¬ VersionedCall.flywayDrop.Named (stem file) v)
    (hunlike : ¬ call.Clashes files)
    (hreadable : ∀ file ∈ files, ∀ v, call.Named (stem file) v →
      ∃ text, tree.read file.path = .ok text) :
    ∃ scripts : List VersionedFile,
      (scripts.Pairwise fun a b => Version.Below a.version b.version) ∧
      (∀ script, script ∈ scripts ↔
        script.file ∈ files ∧ call.Named (stem script.file) script.version) ∧
      ∀ names, CreatesInOrder (scripts.flatMap fun script => statementsAt tree script.file) names →
        ∃ sent, (∀ past, run Rule.tolerant.send .drop call.engine tree root locations past =
            (.ok (), past.accept sent)) ∧
          sent = (names.map fun name => String.ofList name.seen).eraseDups.reverse.map
            ("DROP TABLE IF EXISTS " ++ ·) ∧
          (sent = (names.map fun name => String.ofList name.text).eraseDups.reverse.map
            ("DROP TABLE IF EXISTS " ++ ·) ↔ ∀ name ∈ names, name.Plain) ∧
          ((∀ statement ∈ sent, QuotesClosed statement.toList) ↔ ∀ name ∈ names, name.Plain) := by
  rcases call.naming.ordered_cases files with ⟨hclash, -⟩ | ⟨-, scripts, hordered, hbelow, -⟩
  · exact absurd hclash (not_not.mpr (not_clashes_iff.mp hunlike))
  · have hmem : ∀ script, script ∈ scripts ↔
        script.file ∈ files ∧ call.Named (stem script.file) script.version := fun script => by
      rw [Naming.mem_ordered hordered, version?_eq_some_iff]
    have hread : ∀ file ∈ scripts.map (·.file), ∃ text, tree.read file.path = .ok text := by
      intro file hfile
      obtain ⟨script, hscript, rfl⟩ := List.mem_map.mp hfile
      exact hreadable _ ((hmem script).mp hscript).1 _ ((hmem script).mp hscript).2
    refine ⟨scripts, hbelow, hmem, fun names hnames => ⟨_, fun past => ?_, rfl,
      dropStatements_seen_eq_iff names, quotesClosed_dropStatements_iff names⟩⟩
    rw [run_drop happlies hfiles hundone hordered hread, List.flatMap_map,
      createdTables_of_inOrder hnames]
    rfl

/-! ## One script -/

/-- One script, whatever it contains. -/
def oneScript (text : String) : Tree where
  entries := [(["V1__tables.sql"], .file text.toUTF8)]

theorem holds_oneScript (text : String) :
    (oneScript text).Holds Flyway.extensions "V1__tables.sql" :=
  ⟨by decide +kernel, ⟨_, rfl⟩, by decide +kernel⟩

theorem collect_oneScript (text : String) :
    collect (oneScript text) "" flywayApply.extensions ["V1__tables.sql"] =
      .ok [⟨"V1__tables.sql", "V1__tables.sql"⟩] :=
  collect_of_holds rfl fun _ hname => List.mem_singleton.mp hname ▸ holds_oneScript text

theorem read_oneScript (text : String) : (oneScript text).read "V1__tables.sql" = .ok text :=
  (holds_oneScript text).1.read_text rfl rfl

theorem named_oneScript {v : Version} :
    flywayApply.Named (stem ⟨"V1__tables.sql", "V1__tables.sql"⟩) v ↔
    v = [1] := by
  rw [← version?_eq_some_iff]
  have hversion : flywayApply.naming.version? (stem ⟨"V1__tables.sql", "V1__tables.sql"⟩) =
      some [1] := rfl
  rw [hversion, Option.some.injEq, eq_comm]

theorem undone_oneScript : ∀ file ∈ [(⟨"V1__tables.sql", "V1__tables.sql"⟩ : Found)], ∀ v,
    ¬ flywayDrop.Named (stem file) v := by
  intro file hfile v hnamed
  obtain rfl := List.mem_singleton.mp hfile
  cases version?_eq_some_iff.mpr hnamed

theorem unlike_oneScript : ¬ flywayApply.Clashes [⟨"V1__tables.sql", "V1__tables.sql"⟩] := by
  rintro ⟨first, second, _, _, hsub, -⟩
  simpa using hsub.length_le

theorem run_oneScript (text : String) (past : Traffic) :
    run Rule.tolerant.send .drop .flyway (oneScript text) "" ["V1__tables.sql"] past =
      (.ok (), past.accept (dropStatements (createdTables
        (statementsAt (oneScript text) ⟨"V1__tables.sql", "V1__tables.sql"⟩)))) := by
  have hordered : flywayApply.naming.ordered [⟨"V1__tables.sql", "V1__tables.sql"⟩] =
      .ok [⟨[1], "V1__tables.sql", "V1__tables.sql"⟩] := Naming.ordered_singleton rfl
  have hrun := run_drop rfl (collect_oneScript text) (fun _ => undone_oneScript) hordered
    (fun _ hfile => List.mem_singleton.mp hfile ▸ ⟨text, read_oneScript text⟩) past
  rw [List.map_singleton, List.flatMap_singleton] at hrun
  exact hrun

theorem eq_oneScript {scripts : List VersionedFile}
    (hbelow : scripts.Pairwise fun a b => Version.Below a.version b.version)
    (hmem : ∀ script, script ∈ scripts ↔ script.file ∈ [⟨"V1__tables.sql", "V1__tables.sql"⟩] ∧
      flywayApply.Named (stem script.file) script.version) :
    scripts = [⟨[1], "V1__tables.sql", "V1__tables.sql"⟩] := by
  have hnodup : scripts.Nodup := by
    refine hbelow.imp fun {a b} h heq => h.not_alike ?_
    rw [heq]
    exact fun _ => rfl
  refine List.perm_singleton.mp
    ((List.perm_ext_iff_of_nodup hnodup (List.nodup_singleton _)).mpr ?_)
  rintro ⟨version, file⟩
  rw [hmem, List.mem_singleton, List.mem_singleton]
  constructor
  · rintro ⟨hfile, hnamed⟩
    cases hfile
    cases named_oneScript.mp hnamed
    rfl
  · intro heq
    cases heq
    exact ⟨rfl, named_oneScript.mpr rfl⟩

/-- The name of a table in a schema, whose name has a quote between its quotes. -/
def daysLog : DottedName :=
  ⟨[.quoted "day\"s".toList, .word "log".toList (by simp) (List.all_eq_true.mp (by decide))],
    by simp⟩

def users : DottedName :=
  ⟨[.word "users".toList (by simp) (List.all_eq_true.mp (by decide))], by simp⟩

/-- Both names are read whole. The one that is created twice is dropped once. -/
theorem plain_names_dropped_whole : ∃ sent,
    (∀ past, run Rule.tolerant.send .drop .flyway
      (oneScript "CREATE TABLE \"day\"\"s\".log(id INT); CREATE TABLE users(id INT);
        CREATE TABLE IF NOT EXISTS users(id INT)") "" ["V1__tables.sql"] past =
        (.ok (), past.accept sent)) ∧
    sent = ["DROP TABLE IF EXISTS users", "DROP TABLE IF EXISTS \"day\"\"s\".log"] ∧
    ∀ statement ∈ sent, QuotesClosed statement.toList := by
  generalize htext : "CREATE TABLE \"day\"\"s\".log(id INT); CREATE TABLE users(id INT);
        CREATE TABLE IF NOT EXISTS users(id INT)" = text
  have hstatements : statementsAt (oneScript text) ⟨"V1__tables.sql", "V1__tables.sql"⟩ =
      ["CREATE TABLE \"day\"\"s\".log(id INT)", "CREATE TABLE users(id INT)",
        "CREATE TABLE IF NOT EXISTS users(id INT)"] := by
    rw [statementsAt, read_oneScript]
    subst htext
    decide +kernel
  have happlies : flywayApply.direction = .apply := rfl
  obtain ⟨scripts, hbelow, hmem, hsends⟩ := derived_drop_of_seen_names happlies
    (collect_oneScript text) (fun _ => undone_oneScript) unlike_oneScript
    fun _ hfile _ _ => List.mem_singleton.mp hfile ▸ ⟨text, read_oneScript text⟩
  rw [eq_oneScript hbelow hmem, List.flatMap_singleton, hstatements] at hsends
  have hnames : CreatesInOrder
      ["CREATE TABLE \"day\"\"s\".log(id INT)", "CREATE TABLE users(id INT)",
        "CREATE TABLE IF NOT EXISTS users(id INT)"] [daysLog, users, users] :=
    .create ⟨_, "(id INT)".toList, rfl, rfl, rfl⟩ (.create ⟨_, "(id INT)".toList, rfl, rfl, rfl⟩
      (.create ⟨_, "(id INT)".toList, rfl, rfl, rfl⟩ .nil))
  have hplain : ∀ name ∈ [daysLog, users, users], name.Plain := by
    simp only [← DottedName.seen_eq_text_iff]
    decide +kernel
  obtain ⟨sent, hrun, -, hwhole, hclosed⟩ := hsends _ hnames
  refine ⟨sent, hrun, (hwhole.mpr hplain).trans ?_, hclosed.mpr hplain⟩
  decide +kernel

/-- The name of a table with a space between its quotes. -/
def guestList : DottedName := ⟨[.quoted "guest list".toList], by simp⟩

/-- The script creates one table, and the drop is sent for a part of its name that leaves a quote
open. -/
theorem quoted_space_cuts_drop :
    CreatesInOrder (Sql.statements "CREATE TABLE \"guest list\"(id INT)") [guestList] ∧
      String.ofList guestList.text = "\"guest list\"" ∧
      (∀ past, run Rule.tolerant.send .drop .flyway
        (oneScript "CREATE TABLE \"guest list\"(id INT)") "" ["V1__tables.sql"] past =
          (.ok (), past.accept ["DROP TABLE IF EXISTS \"guest"])) ∧
      ¬ QuotesClosed "DROP TABLE IF EXISTS \"guest".toList := by
  have hstatements : Sql.statements "CREATE TABLE \"guest list\"(id INT)" =
      ["CREATE TABLE \"guest list\"(id INT)"] := by decide +kernel
  refine ⟨?_, rfl, fun past => ?_, ?_⟩
  · rw [hstatements]
    exact .create ⟨_, "(id INT)".toList, rfl, rfl, rfl⟩ .nil
  · have hcreated : createdTables (statementsAt (oneScript "CREATE TABLE \"guest list\"(id INT)")
        ⟨"V1__tables.sql", "V1__tables.sql"⟩) = ["\"guest"] := by
      rw [statementsAt, read_oneScript]
      decide +kernel
    rw [run_oneScript, hcreated]
    rfl
  · unfold QuotesClosed
    decide +kernel

end VersionedCall

end Migration

end ScopedResources
