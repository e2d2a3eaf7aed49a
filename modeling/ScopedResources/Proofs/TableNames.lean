import ScopedResources.Memory.Statement
import ScopedResources.Sql.CreatedTables
import ScopedResources.Proofs.LetterCodes
import Mathlib.Data.List.TakeWhile

/-!
# Names of created tables

Two readers look for the table in `CREATE TABLE`. The one that plans drops takes any run of word
characters, dots and double quotes for a name; the database wants a letter or a low line first, and
no quotes. They agree on names that both can read, and the database then understands the drop as
well. -/

namespace ScopedResources.Sql

open Text Memory

/-- A letter of ASCII or a low line, with word characters and dots behind it. -/
inductive IsTableName : List Char → Prop
  | mk {c : Char} {rest : List Char} (hfirst : c.isAlpha = true ∨ c = '_')
      (hrest : ∀ d ∈ rest, isWord d = true ∨ d = '.') : IsTableName (c :: rest)

/-- Where the name of a created table stands: behind `IF NOT EXISTS`, or at the start where nothing
behind these words can be a name. -/
def namePlace (s : List Char) : List Char :=
  match afterKeywords? ["if", "not", "exists"] s with
  | some behind => if behind.head?.any isTableNameChar then behind else s
  | none => s

/-- The statement creates a table of this name, which ends where nothing more can belong to it. -/
def CreatesTable (statement : String) (name : List Char) : Prop :=
  ∃ s rest, afterKeywords? ["create", "table"] (statement.toList.dropWhile isBlank) = some s ∧
    namePlace s = name ++ rest ∧ IsTableName name ∧ rest.head?.any isTableNameChar = false

/-- If the statement creates a table, it names it plainly. -/
def NamesPlainly (statement : String) : Prop :=
  ∀ s, afterKeywords? ["create", "table"] (statement.toList.dropWhile isBlank) = some s →
    ∃ name, CreatesTable statement name

variable {c : Char} {s name rest : List Char} {statement : String}

/-! ## Characters -/

/-- Only two characters beyond ASCII fold to a letter of ASCII, and both belong to words. -/
theorem startsName_iff : Statement.startsName c = true ↔
    (c.isAlpha = true ∨ c = '_') ∨ c.toNat = 0x17F ∨ c.toNat = 0x212A := by
  unfold Statement.startsName foldToAscii
  split
  next h => simp [h]
  next hs =>
    split
    next h => simp [h]
    next hk =>
      rw [isAlpha_toLower]
      simp [hs, hk]

theorem isWord_of_isAlpha (h : c.isAlpha = true) : isWord c = true := by
  simp [isWord, isAsciiWord, Char.isAlphanum, h]

theorem isWord_of_startsName (h : Statement.startsName c = true) : isWord c = true := by
  rcases startsName_iff.mp h with (halpha | rfl) | hs | hk
  · exact isWord_of_isAlpha halpha
  · rfl
  · have hin : inRanges 0x17F wordRanges = true := by decide +kernel
    simp [isWord, hs, hin]
  · have hin : inRanges 0x212A wordRanges = true := by decide +kernel
    simp [isWord, hk, hin]

theorem isTableNameChar_of_startsName (h : Statement.startsName c = true) :
    isTableNameChar c = true := by
  simp [isTableNameChar, isWord_of_startsName h]

theorem not_isBlank_of_first (h : c.isAlpha = true ∨ c = '_') : isBlank c = false := by
  rcases h with h | rfl
  · rw [isAlpha_iff] at h
    simp only [isBlank, Bool.or_eq_false_iff, Bool.and_eq_false_iff, decide_eq_false_iff_not,
      beq_eq_false_iff_ne]
    omega
  · rfl

/-! ## Names at the start of a text -/

theorem tableName?_eq_none (h : s.head?.any isTableNameChar = false) : tableName? s = none := by
  cases s with
  | nil => rfl
  | cons c rest =>
      have hc : isTableNameChar c = false := h
      simp [tableName?, hc]

theorem name?_eq_none (h : s.head?.any isTableNameChar = false) : Statement.name? s = none := by
  cases s with
  | nil => rfl
  | cons c rest =>
      have hc : isTableNameChar c = false := h
      have hstart : Statement.startsName c = false := by
        rw [← Bool.not_eq_true] at *
        exact mt isTableNameChar_of_startsName hc
      simp [Statement.name?, Statement.writtenName?, hstart]

/-- Where nothing more can be taken, only what stands before that counts. -/
theorem takeWhile_append_of_head {p : Char → Bool} (hrest : rest.head?.any p = false) :
    (s ++ rest).takeWhile p = s.takeWhile p := by
  have hnone : rest.takeWhile p = [] := by
    cases rest with
    | nil => rfl
    | cons d rest =>
        have hd : p d = false := hrest
        simp [hd]
  rw [List.takeWhile_append, hnone, List.append_nil]
  split
  next hlength => exact ((List.takeWhile_prefix p).eq_of_length hlength).symm
  next => rfl

theorem takeWhile_of_head {p : Char → Bool} (hall : ∀ d ∈ s, p d = true)
    (hrest : rest.head?.any p = false) : (s ++ rest).takeWhile p = s := by
  rw [takeWhile_append_of_head hrest, List.takeWhile_eq_self_iff.mpr hall]

namespace IsTableName

theorem iff_first_rest : IsTableName name ↔ name.head?.any (fun c => c.isAlpha || c = '_') = true ∧
    name.tail.all (fun d => isWord d || d = '.') = true := by
  constructor
  · rintro ⟨hfirst, hrest⟩
    exact ⟨by simpa using hfirst, by simpa using hrest⟩
  · rintro ⟨hfirst, hrest⟩
    cases name with
    | nil => cases hfirst
    | cons c rest => exact .mk (by simpa using hfirst) (by simpa using hrest)

instance (name : List Char) : Decidable (IsTableName name) :=
  decidable_of_iff _ iff_first_rest.symm

theorem isTableNameChar (h : IsTableName name) : ∀ d ∈ name, isTableNameChar d = true := by
  obtain ⟨hfirst, hrest⟩ := h
  intro d hd
  rcases List.mem_cons.mp hd with rfl | hd
  · exact isTableNameChar_of_startsName (startsName_iff.mpr (.inl hfirst))
  · rcases hrest d hd with hword | rfl
    · simp [Sql.isTableNameChar, hword]
    · rfl

theorem tableName? (h : IsTableName name) (hrest : rest.head?.any Sql.isTableNameChar = false) :
    tableName? (name ++ rest) = some (String.ofList name) := by
  unfold Sql.tableName?
  rw [takeWhile_of_head h.isTableNameChar hrest]
  cases h
  rfl

theorem name? (h : IsTableName name) (hrest : rest.head?.any Sql.isTableNameChar = false) :
    Statement.name? (name ++ rest) = some (Statement.tableNamed name) := by
  obtain ⟨hfirst, hmore⟩ := h
  rename_i c more
  have hall : ∀ d ∈ more, Statement.continuesName d = true := fun d hd => by
    rcases hmore d hd with hword | rfl
    · simp [Statement.continuesName, hword]
    · rfl
  have hend : rest.head?.any Statement.continuesName = false := by
    cases rest with
    | nil => rfl
    | cons d rest =>
        simp only [List.head?_cons, Option.any_some, Sql.isTableNameChar,
          Bool.or_eq_false_iff] at hrest
        simp [Statement.continuesName, hrest.1.1, hrest.1.2]
  have hstart : Statement.startsName c = true := startsName_iff.mpr (.inl hfirst)
  simp [Statement.name?, Statement.writtenName?, hstart, takeWhile_of_head hall hend]

theorem dropWhile_isBlank (h : IsTableName name) : name.dropWhile isBlank = name := by
  obtain ⟨hfirst, -⟩ := h
  rw [List.dropWhile_cons_of_neg]
  rw [not_isBlank_of_first hfirst]
  exact Bool.false_ne_true

end IsTableName

/-! ## Statements -/

/-- A reader of names that reads one where the name stands finds it behind the optional words as
well. -/
theorem nameBehind?_of_namePlace {α : Type} {read? : List Char → Option α} {a : α}
    (hnone : ∀ {s : List Char}, s.head?.any isTableNameChar = false → read? s = none)
    (h : read? (namePlace s) = some a) :
    ∃ flag, nameBehind? ["if", "not", "exists"] read? s = some (a, flag) := by
  unfold namePlace at h
  unfold nameBehind?
  cases hbehind : afterKeywords? ["if", "not", "exists"] s with
  | none =>
      rw [hbehind] at h
      exact ⟨false, by simp [h]⟩
  | some behind =>
      rw [hbehind] at h
      dsimp only at h
      rw [Option.bind_some]
      split at h
      next => exact ⟨true, by simp [h]⟩
      next hhead =>
        rw [hnone (Bool.eq_false_iff.mpr hhead)]
        exact ⟨false, by simp [h]⟩

theorem createdTable?_of_namePlace {table : String}
    (hbehind : afterKeywords? ["create", "table"] (statement.toList.dropWhile isBlank) = some s)
    (hname : tableName? (namePlace s) = some table) : createdTable? statement = some table := by
  obtain ⟨flag, hread⟩ := nameBehind?_of_namePlace tableName?_eq_none hname
  simp [createdTable?, hbehind, hread]

theorem createdTable?_of_creates (h : CreatesTable statement name) :
    createdTable? statement = some (String.ofList name) := by
  obtain ⟨s, rest, hbehind, hplace, hname, hrest⟩ := h
  exact createdTable?_of_namePlace hbehind (hplace ▸ hname.tableName? hrest)

theorem parse?_of_creates (h : CreatesTable statement name) :
    ∃ flag, Statement.parse? statement = some (.createTable (Statement.tableNamed name) flag) := by
  obtain ⟨s, rest, hbehind, hplace, hname, hrest⟩ := h
  obtain ⟨flag, hread⟩ := nameBehind?_of_namePlace name?_eq_none
    (s := s) (hplace ▸ hname.name? hrest)
  exact ⟨flag, by simp [Statement.parse?, hbehind, hread]⟩

/-- What is planned to be dropped is created under that name. -/
theorem creates_of_createdTable? (hplain : NamesPlainly statement) {table : String}
    (h : createdTable? statement = some table) :
    ∃ name, CreatesTable statement name ∧ table = String.ofList name := by
  unfold createdTable? at h
  obtain ⟨found, hfound, -⟩ := Option.map_eq_some_iff.mp h
  obtain ⟨s, hs, -⟩ := Option.bind_eq_some_iff.mp hfound
  obtain ⟨name, hname⟩ := hplain s hs
  refine ⟨name, hname, Option.some.inj ?_⟩
  rw [← createdTable?_of_creates hname]
  exact h.symm

theorem insertion?_ne_create {table : String} {flag : Bool} :
    Statement.insertion? s ≠ some (.createTable table flag) := by
  unfold Statement.insertion?
  intro h
  obtain ⟨written, -, h⟩ := Option.bind_eq_some_iff.mp h
  split at h
  · cases h
  · obtain ⟨last, -, h⟩ := Option.bind_eq_some_iff.mp h
    cases h

/-- What the database takes for the creation of a table is one under that name. -/
theorem creates_of_parse? (hplain : NamesPlainly statement) {table : String} {flag : Bool}
    (h : Statement.parse? statement = some (.createTable table flag)) :
    ∃ name, CreatesTable statement name ∧ table = Statement.tableNamed name := by
  cases hbehind : afterKeywords? ["create", "table"] (statement.toList.dropWhile isBlank) with
  | some s =>
      obtain ⟨name, hname⟩ := hplain s hbehind
      obtain ⟨_, hparse⟩ := parse?_of_creates hname
      cases h.symm.trans hparse
      exact ⟨name, hname, rfl⟩
  | none =>
      -- Without the words, one of the four other kinds of statement is read.
      simp [Statement.parse?, hbehind, insertion?_ne_create, Option.bind_eq_some_iff] at h

/-- The database drops what it is told to drop, by the name as it is written. -/
theorem parse?_drop (h : IsTableName name) :
    Statement.parse? ("DROP TABLE IF EXISTS " ++ String.ofList name) =
      some (.dropTable (Statement.tableNamed name) true) := by
  have hhead : ("DROP TABLE IF EXISTS " ++ String.ofList name).toList.dropWhile isBlank =
      "DROP TABLE IF EXISTS ".toList ++ name := by
    rw [String.toList_append, show (String.ofList name).toList = name from String.toList_ofList]
    rfl
  have hcreate : afterKeywords? ["create", "table"]
      ("DROP TABLE IF EXISTS ".toList ++ name) = none := rfl
  have hdrop : afterKeywords? ["drop", "table"] ("DROP TABLE IF EXISTS ".toList ++ name) =
      some ("IF EXISTS ".toList ++ name) := rfl
  have hif : afterKeywords? ["if", "exists"] ("IF EXISTS ".toList ++ name) =
      some (name.dropWhile isBlank) := rfl
  have hname := @IsTableName.name? name [] h rfl
  rw [List.append_nil] at hname
  have hbehind : nameBehind? ["if", "exists"] Statement.name? ("IF EXISTS ".toList ++ name) =
      some (Statement.tableNamed name, true) := by
    rw [nameBehind?, hif, h.dropWhile_isBlank, Option.bind_some, hname]
  simp only [Statement.parse?, hhead, hcreate, hdrop, hbehind, Option.bind_none, Option.bind_some,
    Option.map_some]
  rfl

end ScopedResources.Sql
