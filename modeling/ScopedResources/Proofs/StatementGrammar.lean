import Mathlib.Data.List.TakeWhile
import ScopedResources.Proofs.TableNames

/-!
# How statements name their table

A statement is recognised by the keywords at its start, and names one table behind them: a name of
word characters and dots that goes on as far as it can. Only the name behind `INSERT INTO` may end
earlier, where the word `VALUES` is a part of it. The grammar says which texts these are without
saying how they are read; whatever the database reads in a text, the grammar finds there too. -/

namespace ScopedResources

open Text

/-! ## Keywords -/

namespace Sql

/-- A keyword, which is given in small letters, in any case of its letters. -/
def Spells (keyword : String) (written : List Char) : Prop :=
  written.map foldToAscii = keyword.toList

def Blank (s : List Char) : Prop :=
  ∀ c ∈ s, isBlank c = true

instance (keyword : String) (written : List Char) : Decidable (Spells keyword written) :=
  inferInstanceAs (Decidable (_ = _))

instance (s : List Char) : Decidable (Blank s) :=
  decidable_of_iff (s.all isBlank = true) List.all_eq_true

/-- Keywords, each with blank characters behind it. -/
inductive Words : List String → List Char → Prop
  | nil : Words [] []
  | cons {keyword : String} {keywords : List String} {written gap words : List Char}
      (hspells : Spells keyword written) (hgap : gap ≠ []) (hblank : Blank gap)
      (hrest : Words keywords words) : Words (keyword :: keywords) (written ++ gap ++ words)

variable {keyword : String} {keywords keywords' : List String}
variable {s rest written gap words words' : List Char}

theorem Words.append (h : Words keywords words) (h' : Words keywords' words') :
    Words (keywords ++ keywords') (words ++ words') := by
  induction h with
  | nil => exact h'
  | cons hspells hgap hblank _ ih =>
      rw [List.append_assoc]
      exact .cons hspells hgap hblank ih

theorem afterKeyword?_eq_some_iff {letters : List Char} : afterKeyword? letters s = some rest ↔
    ∃ written, written.map foldToAscii = letters ∧ s = written ++ rest := by
  induction letters generalizing s with
  | nil =>
      rw [afterKeyword?, Option.some_inj]
      constructor
      · rintro rfl
        exact ⟨[], rfl, rfl⟩
      · rintro ⟨written, hspells, rfl⟩
        rw [List.map_eq_nil_iff.mp hspells, List.nil_append]
  | cons k letters ih =>
      cases s with
      | nil =>
          refine ⟨nofun, fun ⟨written, hspells, hnil⟩ => ?_⟩
          rw [(List.append_eq_nil_iff.mp hnil.symm).1] at hspells
          exact nomatch hspells
      | cons c s =>
          unfold afterKeyword?
          constructor
          · intro h
            split at h
            next hfold =>
              obtain ⟨written, hspells, rfl⟩ := ih.mp h
              exact ⟨c :: written, congrArg₂ List.cons hfold hspells, rfl⟩
            next => cases h
          · rintro ⟨written, hspells, htext⟩
            cases written with
            | nil => exact nomatch hspells
            | cons d written =>
                obtain ⟨rfl, rfl⟩ := List.cons.inj htext
                obtain ⟨hfold, hletters⟩ := List.cons.inj hspells
                rw [if_pos hfold]
                exact ih.mpr ⟨written, hletters, rfl⟩

theorem blank_takeWhile (s : List Char) : Blank (s.takeWhile isBlank) :=
  fun _ hc => List.mem_takeWhile_imp hc

theorem any_head?_dropWhile (p : Char → Bool) (s : List Char) :
    (s.dropWhile p).head?.any p = false := by
  have hhead := List.head?_dropWhile_not p s
  cases hfirst : (s.dropWhile p).head? with
  | none => rfl
  | some c =>
      rw [hfirst] at hhead
      exact hhead

theorem dropWhile_isBlank_append (hblank : Blank gap) (hrest : rest.head?.any isBlank = false) :
    (gap ++ rest).dropWhile isBlank = rest := by
  rw [List.dropWhile_append_of_pos hblank]
  cases rest with
  | nil => rfl
  | cons c rest =>
      have hc : ¬ isBlank c = true := Bool.eq_false_iff.mp hrest
      exact List.dropWhile_cons_of_neg hc

theorem afterBlanks?_eq_some_iff : afterBlanks? s = some rest ↔
    ∃ gap, gap ≠ [] ∧ Blank gap ∧ rest.head?.any isBlank = false ∧ s = gap ++ rest := by
  cases s with
  | nil =>
      refine ⟨nofun, fun ⟨gap, hgap, _, _, hnil⟩ => ?_⟩
      exact absurd (List.append_eq_nil_iff.mp hnil.symm).1 hgap
  | cons c s =>
      unfold afterBlanks?
      dsimp only
      constructor
      · intro h
        split at h
        next hc =>
          cases h
          refine ⟨c :: s.takeWhile isBlank, nofun, ?_, any_head?_dropWhile isBlank s, ?_⟩
          · exact List.forall_mem_cons.mpr ⟨hc, blank_takeWhile s⟩
          · rw [List.cons_append, List.takeWhile_append_dropWhile]
        next => cases h
      · rintro ⟨gap, hgap, hblank, hrest, htext⟩
        cases gap with
        | nil => exact absurd rfl hgap
        | cons d gap =>
            obtain ⟨rfl, rfl⟩ : c = d ∧ s = gap ++ rest := List.cons.inj htext
            obtain ⟨hc, hgap⟩ := List.forall_mem_cons.mp hblank
            rw [if_pos hc, dropWhile_isBlank_append hgap hrest]

theorem words_of_afterKeywords? (h : afterKeywords? keywords s = some rest) :
    ∃ words, Words keywords words ∧ s = words ++ rest := by
  induction keywords generalizing s with
  | nil =>
      cases h
      exact ⟨[], .nil, rfl⟩
  | cons keyword keywords ih =>
      obtain ⟨next, hnext, hlast⟩ := Option.bind_eq_some_iff.mp h
      obtain ⟨behind, hbehind, hblanks⟩ := Option.bind_eq_some_iff.mp hnext
      obtain ⟨written, hspells, rfl⟩ := afterKeyword?_eq_some_iff.mp hbehind
      obtain ⟨gap, hgap, hblank, -, rfl⟩ := afterBlanks?_eq_some_iff.mp hblanks
      obtain ⟨words, hwords, rfl⟩ := ih hlast
      exact ⟨_, .cons hspells hgap hblank hwords, by simp only [List.append_assoc]⟩

/-- One keyword is read where it stands. -/
theorem afterKeywords?_cons (hspells : Spells keyword written) (hgap : gap ≠ [])
    (hblank : Blank gap) (hrest : rest.head?.any isBlank = false) :
    afterKeywords? (keyword :: keywords) (written ++ gap ++ rest) =
      afterKeywords? keywords rest := by
  have hword : afterKeyword? keyword.toList (written ++ gap ++ rest) = some (gap ++ rest) :=
    afterKeyword?_eq_some_iff.mpr ⟨written, hspells, List.append_assoc ..⟩
  have hblanks : afterBlanks? (gap ++ rest) = some rest :=
    afterBlanks?_eq_some_iff.mpr ⟨gap, hgap, hblank, hrest, rfl⟩
  rw [afterKeywords?, hword, Option.bind_some, hblanks, Option.bind_some]

end Sql

/-! ## Names -/

namespace Memory.Statement

open Sql

/-- A name as it may be written. -/
inductive IsName : List Char → Prop
  | mk {c : Char} {rest : List Char} (hfirst : startsName c = true)
      (hrest : ∀ d ∈ rest, continuesName d = true) : IsName (c :: rest)

instance : DecidablePred IsName
  | [] => isFalse nofun
  | c :: rest =>
    decidable_of_iff (startsName c = true ∧ rest.all continuesName = true)
      ⟨fun ⟨hfirst, hrest⟩ => .mk hfirst (List.all_eq_true.mp hrest),
        fun ⟨hfirst, hrest⟩ => ⟨hfirst, List.all_eq_true.mpr hrest⟩⟩

/-- No more of a name stands at the start of the text. -/
def NameEnds (s : List Char) : Prop :=
  s.head?.any continuesName = false

variable {s rest written : List Char} {name statement : String} {before : Option Char}
variable {optional : List String} {flag : Bool} {parsed : Statement}

theorem IsName.take (h : IsName written) (n : Nat) : IsName (written.take (n + 1)) := by
  obtain ⟨hfirst, hrest⟩ := h
  exact .mk hfirst fun d hd => hrest d (List.mem_of_mem_take hd)

theorem writtenName?_eq_some_iff : writtenName? s = some written ↔
    IsName written ∧ ∃ rest, NameEnds rest ∧ s = written ++ rest := by
  cases s with
  | nil =>
      refine ⟨nofun, fun ⟨hname, rest, _, hnil⟩ => ?_⟩
      obtain ⟨rfl, -⟩ := List.append_eq_nil_iff.mp hnil.symm
      cases hname
  | cons c s =>
      unfold writtenName?
      dsimp only
      constructor
      · intro h
        split at h
        next hfirst =>
          cases h
          have hname : IsName (c :: s.takeWhile continuesName) :=
            .mk hfirst fun d hd => List.mem_takeWhile_imp hd
          refine ⟨hname, s.dropWhile continuesName, any_head?_dropWhile continuesName s, ?_⟩
          rw [List.cons_append, List.takeWhile_append_dropWhile]
        next => cases h
      · rintro ⟨@⟨d, more, hfirst, hmore⟩, rest, hend, htext⟩
        obtain ⟨rfl, rfl⟩ : c = d ∧ s = more ++ rest := List.cons.inj htext
        rw [if_pos hfirst, takeWhile_of_head hmore hend]

theorem name?_eq_some_iff : name? s = some name ↔ ∃ written rest, IsName written ∧ NameEnds rest ∧
    s = written ++ rest ∧ name = tableNamed written := by
  unfold name?
  rw [Option.map_eq_some_iff]
  constructor
  · rintro ⟨written, hwritten, rfl⟩
    obtain ⟨hname, rest, hend, rfl⟩ := writtenName?_eq_some_iff.mp hwritten
    exact ⟨written, rest, hname, hend, rfl, rfl⟩
  · rintro ⟨written, rest, hname, hend, rfl, rfl⟩
    exact ⟨written, writtenName?_eq_some_iff.mpr ⟨hname, rest, hend, rfl⟩, rfl⟩

/-- The keywords that the name of a table stands behind, other than those of an insertion. -/
def openings : List (List String) :=
  [["create", "table"], ["create", "table", "if", "not", "exists"],
    ["drop", "table"], ["drop", "table", "if", "exists"],
    ["delete", "from"], ["truncate"], ["truncate", "table"]]

/-- The text names a table, written in this way. -/
inductive Names : List Char → List Char → Prop
  | behind {lead words written rest : List Char} {keywords : List String} (hlead : Blank lead)
      (hkeywords : keywords ∈ openings) (hwords : Words keywords words) (hname : IsName written)
      (hend : NameEnds rest) : Names (lead ++ words ++ written ++ rest) written
  /-- Between the name and the word `VALUES` nothing ends the statement. -/
  | inserted {lead words written between values rest : List Char} (hlead : Blank lead)
      (hwords : Words ["insert", "into"] words) (hname : IsName written) (hbetween : ';' ∉ between)
      (hvalues : Spells "values" values) :
      Names (lead ++ words ++ written ++ between ++ values ++ rest) written

/-! ## What is read is there -/

theorem afterValues?_spells (h : afterValues? before s = some rest) :
    ∃ values, Spells "values" values ∧ s = values ++ rest := by
  obtain ⟨hafter, -⟩ := Option.filter_eq_some_iff.mp h
  exact afterKeyword?_eq_some_iff.mp hafter

theorem findValues?_spells (h : findValues? before s = some rest) :
    ∃ between values, ';' ∉ between ∧ Spells "values" values ∧ s = between ++ values ++ rest := by
  induction s generalizing before with
  | nil => cases h
  | cons c s ih =>
      unfold findValues? at h
      split at h
      next after hafter =>
        cases h
        obtain ⟨values, hvalues, htext⟩ := afterValues?_spells hafter
        exact ⟨[], values, nofun, hvalues, htext⟩
      next =>
        split at h
        next => cases h
        next hc =>
          obtain ⟨between, values, hbetween, hvalues, rfl⟩ := ih h
          refine ⟨c :: between, values, ?_, hvalues, rfl⟩
          exact List.not_mem_cons_of_ne_of_not_mem (Ne.symm hc) hbetween

theorem lastValues?_spells {count skipped : Nat}
    (h : lastValues? before count s = some (skipped, rest)) :
    skipped < count ∧ ∃ values, Spells "values" values ∧ s = s.take skipped ++ values ++ rest := by
  induction s generalizing before count skipped with
  | nil => cases count <;> cases h
  | cons c s ih =>
      cases count with
      | zero => cases h
      | succ count =>
          unfold lastValues? at h
          split at h
          next later after hlater =>
            cases h
            obtain ⟨hlt, values, hvalues, htext⟩ := ih hlater
            refine ⟨Nat.succ_lt_succ hlt, values, hvalues, ?_⟩
            rw [List.take_succ_cons, List.cons_append, List.cons_append, ← htext]
          next =>
            obtain ⟨after, hafter, heq⟩ := Option.map_eq_some_iff.mp h
            cases heq
            obtain ⟨values, hvalues, htext⟩ := afterValues?_spells hafter
            exact ⟨Nat.succ_pos _, values, hvalues, htext⟩

theorem insertion?_names (h : insertion? s = some parsed) :
    ∃ written between values rest, IsName written ∧ ';' ∉ between ∧ Spells "values" values ∧
      s = written ++ between ++ values ++ rest ∧ parsed.table = tableNamed written := by
  unfold insertion? at h
  obtain ⟨written, hwritten, h⟩ := Option.bind_eq_some_iff.mp h
  obtain ⟨hname, rest, hend, rfl⟩ := writtenName?_eq_some_iff.mp hwritten
  rw [List.drop_left] at h
  split at h
  next rows hfound =>
    cases h
    obtain ⟨between, values, hbetween, hvalues, rfl⟩ := findValues?_spells hfound
    exact ⟨written, between, values, rows, hname, hbetween, hvalues, by simp, rfl⟩
  next =>
    obtain ⟨⟨skipped, rows⟩, hlast, h⟩ := Option.bind_eq_some_iff.mp h
    cases h
    obtain ⟨hlt, values, hvalues, htext⟩ := lastValues?_spells hlast
    obtain @⟨c, more, hfirst, hrest⟩ := hname
    refine ⟨(c :: more).take (skipped + 1), [], values, rows, ?_, nofun, hvalues, ?_, rfl⟩
    · exact (IsName.mk hfirst hrest).take skipped
    · have hshort : skipped ≤ more.length := Nat.le_of_lt hlt
      rw [List.cons_append, List.drop_one, List.tail_cons, List.take_append_of_le_length hshort]
        at htext
      rw [List.take_succ_cons, List.append_nil, List.cons_append, htext, List.cons_append,
        List.cons_append]

theorem nameBehind?_names (h : nameBehind? optional name? s = some (name, flag)) :
    ∃ keywords words written rest, (keywords = [] ∨ keywords = optional) ∧ Words keywords words ∧
      IsName written ∧ NameEnds rest ∧ s = words ++ written ++ rest ∧
        name = tableNamed written := by
  unfold nameBehind? at h
  split at h
  next found hfound =>
    cases h
    obtain ⟨behind, hbehind, hname⟩ := Option.bind_eq_some_iff.mp hfound
    obtain ⟨words, hwords, rfl⟩ := words_of_afterKeywords? hbehind
    obtain ⟨written, rest, hwritten, hend, rfl, rfl⟩ := name?_eq_some_iff.mp hname
    exact ⟨optional, words, written, rest, .inr rfl, hwords, hwritten, hend, by simp, rfl⟩
  next =>
    obtain ⟨found, hname, heq⟩ := Option.map_eq_some_iff.mp h
    cases heq
    obtain ⟨written, rest, hwritten, hend, rfl, rfl⟩ := name?_eq_some_iff.mp hname
    exact ⟨[], [], written, rest, .inl rfl, .nil, hwritten, hend, rfl, rfl⟩

/-- The statement is read as one about the table that the text names. -/
def Reads (text : List Char) (parsed : Statement) : Prop :=
  ∃ written, Names text written ∧ parsed.table = tableNamed written

section Reads

variable {lead : List Char} {keywords : List String} {make : String × Bool → Statement}

theorem reads_of_nameBehind? (hlead : Blank lead) (hkeywords : keywords ∈ openings)
    (hoptional : keywords ++ optional ∈ openings) (hmake : ∀ found, (make found).table = found.1)
    (h : ((afterKeywords? keywords s).bind fun s => (nameBehind? optional name? s).map make) =
      some parsed) : Reads (lead ++ s) parsed := by
  obtain ⟨behind, hbehind, h⟩ := Option.bind_eq_some_iff.mp h
  obtain ⟨⟨name, flag⟩, hname, rfl⟩ := Option.map_eq_some_iff.mp h
  obtain ⟨words, hwords, rfl⟩ := words_of_afterKeywords? hbehind
  obtain ⟨more, words', written, rest, hmore, hwords', hwritten, hend, rfl, rfl⟩ :=
    nameBehind?_names hname
  have hopening : keywords ++ more ∈ openings := by
    rcases hmore with rfl | rfl
    · rwa [List.append_nil]
    · exact hoptional
  have hnames := Names.behind hlead hopening (hwords.append hwords') hwritten hend
  exact ⟨written, by simpa only [List.append_assoc] using hnames, hmake _⟩

theorem reads_of_name? {make : String → Statement} (hlead : Blank lead)
    (hkeywords : keywords ∈ openings) (hmake : ∀ name, (make name).table = name)
    (h : ((afterKeywords? keywords s).bind fun s => (name? s).map make) = some parsed) :
    Reads (lead ++ s) parsed := by
  obtain ⟨behind, hbehind, h⟩ := Option.bind_eq_some_iff.mp h
  obtain ⟨name, hname, rfl⟩ := Option.map_eq_some_iff.mp h
  obtain ⟨words, hwords, rfl⟩ := words_of_afterKeywords? hbehind
  obtain ⟨written, rest, hwritten, hend, rfl, rfl⟩ := name?_eq_some_iff.mp hname
  have hnames := Names.behind hlead hkeywords hwords hwritten hend
  exact ⟨written, by simpa only [List.append_assoc] using hnames, hmake _⟩

theorem reads_of_insertion? (hlead : Blank lead)
    (h : (afterKeywords? ["insert", "into"] s).bind insertion? = some parsed) :
    Reads (lead ++ s) parsed := by
  obtain ⟨behind, hbehind, hinsertion⟩ := Option.bind_eq_some_iff.mp h
  obtain ⟨words, hwords, rfl⟩ := words_of_afterKeywords? hbehind
  obtain ⟨written, between, values, rest, hname, hbetween, hvalues, rfl, htable⟩ :=
    insertion?_names hinsertion
  have hnames : Names (lead ++ words ++ written ++ between ++ values ++ rest) written :=
    .inserted hlead hwords hname hbetween hvalues
  exact ⟨written, by simpa only [List.append_assoc] using hnames, htable⟩

end Reads

/-- A statement that is understood is about a table that it names. -/
theorem parse?_reads (h : parse? statement = some parsed) : Reads statement.toList parsed := by
  have hlead := blank_takeWhile statement.toList
  rw [← List.takeWhile_append_dropWhile (p := isBlank) (l := statement.toList)]
  unfold parse? at h
  generalize statement.toList.dropWhile isBlank = s at h ⊢
  simp only [Option.orElse_eq_orElse, Option.orElse_eq_or, Option.or_eq_some_iff] at h
  rcases h with hcreate | ⟨-, hdrop | ⟨-, hinsert | ⟨-, hdelete | ⟨-, htruncate⟩⟩⟩⟩
  · exact reads_of_nameBehind? hlead (by decide) (by decide) (fun _ => rfl) hcreate
  · exact reads_of_nameBehind? hlead (by decide) (by decide) (fun _ => rfl) hdrop
  · exact reads_of_insertion? hlead hinsert
  · exact reads_of_name? hlead (by decide) (fun _ => rfl) hdelete
  · exact reads_of_nameBehind? hlead (by decide) (by decide) (fun _ => rfl) htruncate

end Memory.Statement
end ScopedResources
