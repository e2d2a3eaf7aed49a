import ScopedResources.Migration.Versioned
import ScopedResources.Proofs.VersionOrder

/-!
# Versions in names

What a name has to look like to have a version. A version is spelled by numerals with a dot or a low
line between any two. It stands behind a letter and in front of two low lines; no version has two
low lines in a row or one at its end, so it makes no difference that the first two low lines are
looked for. Where a name begins with a single number, a low line follows the number. -/

namespace ScopedResources.Migration

/-- Numerals with a dot or a low line between any two spell a version. -/
inductive Spells : List Char → Version → Prop
  | single {digits n} (hread : Numeral.read Numeral.maxWord digits = .ok n) : Spells digits [n]
  | more {digits n mark rest v} (hread : Numeral.read Numeral.maxWord digits = .ok n)
      (hmark : mark = '.' ∨ mark = '_') (hrest : Spells rest v) :
      Spells (digits ++ mark :: rest) (n :: v)

/-- A stem of one of some letters, a version, two low lines and anything. -/
def MarkedStem (letters : List Char) (stem : String) (v : Version) : Prop :=
  ∃ letter ∈ letters, ∃ text description,
    stem.toList = letter :: (text ++ '_' :: '_' :: description) ∧ Spells text v

/-- A stem of a number, a low line and anything. -/
def NumberedStem (stem : String) (v : Version) : Prop :=
  ∃ digits name n, stem.toList = digits ++ '_' :: name ∧
    Numeral.read Numeral.maxWord digits = .ok n ∧ v = [n]

variable {digits text : List Char} {v : Version} {n limit : Nat}

/-! ## Numerals -/

theorem isDigit_of_readDigits {value : Nat}
    (h : Numeral.readDigits limit value digits = .ok n) {c : Char}
    (hc : c ∈ digits) : c.isDigit = true := by
  induction digits generalizing value with
  | nil => cases hc
  | cons d rest ih =>
      rw [Numeral.readDigits] at h
      unfold Numeral.digit? at h
      by_cases hd : d.isDigit = true
      · rw [if_pos hd] at h
        dsimp only at h
        split at h
        · rcases List.mem_cons.mp hc with rfl | hc
          · exact hd
          · exact ih h hc
        · cases h
      · rw [if_neg hd] at h
        cases h

/-- A numeral is not empty, and has neither dots nor low lines. -/
theorem read_unmarked (h : Numeral.read limit digits = .ok n) :
    digits ≠ [] ∧ ∀ c ∈ digits, ¬ (c = '.' ∨ c = '_') := by
  have hdigit : ∀ c : Char, c.isDigit = true → ¬ (c = '.' ∨ c = '_') := by
    rintro c hc (rfl | rfl) <;> cases hc
  unfold Numeral.read at h
  split at h
  · cases h
  · cases h
  · refine ⟨List.cons_ne_nil _ _, fun c hc => ?_⟩
    rcases List.mem_cons.mp hc with rfl | hc
    · decide
    · exact hdigit c (isDigit_of_readDigits h hc)
  · rename_i hne _ _
    exact ⟨hne, fun c hc => hdigit c (isDigit_of_readDigits h hc)⟩

/-! ## Parts -/

section Parts

variable {isMark : Char → Bool}

theorem parts_of_unmarked (h : ∀ c ∈ text, isMark c = false) : Text.parts isMark text = [text] := by
  induction text with
  | nil => rfl
  | cons c rest ih =>
      rw [List.forall_mem_cons] at h
      rw [Text.parts, h.1, ih h.2]
      rfl

theorem parts_of_marked {before after : List Char} {mark : Char}
    (h : ∀ c ∈ before, isMark c = false) (hmark : isMark mark = true) :
    Text.parts isMark (before ++ mark :: after) = before :: Text.parts isMark after := by
  induction before with
  | nil =>
      rw [List.nil_append, Text.parts, hmark]
      rfl
  | cons c rest ih =>
      rw [List.forall_mem_cons] at h
      rw [List.cons_append, Text.parts, h.1, ih h.2]
      rfl

/-- A text without marks, or one that is cut at its first mark. -/
theorem unmarked_or_marked (isMark : Char → Bool) (text : List Char) :
    (∀ c ∈ text, isMark c = false) ∨ ∃ before mark after, text = before ++ mark :: after ∧
      (∀ c ∈ before, isMark c = false) ∧ isMark mark = true := by
  induction text with
  | nil => exact .inl (List.forall_mem_nil _)
  | cons c rest ih =>
      cases hc : isMark c with
      | true => exact .inr ⟨[], c, rest, rfl, List.forall_mem_nil _, hc⟩
      | false =>
          rcases ih with hnone | ⟨before, mark, after, rfl, hbefore, hmark⟩
          · exact .inl (List.forall_mem_cons.mpr ⟨hc, hnone⟩)
          · exact .inr ⟨c :: before, mark, after, rfl,
              List.forall_mem_cons.mpr ⟨hc, hbefore⟩, hmark⟩

end Parts

/-- Whether a character stands between the numerals of a version. -/
def isVersionMark (c : Char) : Bool :=
  c = '.' || c = '_'

theorem isVersionMark_iff {c : Char} : isVersionMark c = true ↔ c = '.' ∨ c = '_' := by
  simp [isVersionMark]

theorem read_not_mark (h : Numeral.read limit digits = .ok n) :
    ∀ c ∈ digits, isVersionMark c = false := fun c hc =>
  Bool.eq_false_iff.mpr fun hmark => (read_unmarked h).2 c hc (isVersionMark_iff.mp hmark)

theorem toOption_eq_some {ε α : Type} {x : Except ε α} {a : α} :
    x.toOption = some a ↔ x = .ok a := by
  cases x <;> simp [Except.toOption]

theorem read?_of_unmarked (h : ∀ c ∈ text, isVersionMark c = false) :
    Version.read? text = some v ↔ ∃ n, Numeral.read Numeral.maxWord text = .ok n ∧ [n] = v := by
  change (Text.parts isVersionMark text).mapM _ = _ ↔ _
  rw [parts_of_unmarked h]
  simp [List.mapM_cons, toOption_eq_some, Option.bind_eq_some_iff]

theorem read?_of_marked {before after : List Char} {mark : Char}
    (h : ∀ c ∈ before, isVersionMark c = false) (hmark : isVersionMark mark = true) :
    Version.read? (before ++ mark :: after) = some v ↔
      ∃ n w, Numeral.read Numeral.maxWord before = .ok n ∧ Version.read? after = some w ∧
        n :: w = v := by
  change (Text.parts isVersionMark _).mapM _ = _ ↔
    ∃ n w, _ ∧ (Text.parts isVersionMark after).mapM _ = some w ∧ _
  rw [parts_of_marked h hmark]
  simp [List.mapM_cons, toOption_eq_some, Option.bind_eq_some_iff]

/-- A version is read exactly where it is spelled. -/
theorem read?_eq_some_iff : Version.read? text = some v ↔ Spells text v := by
  constructor
  · intro h
    induction hlength : text.length using Nat.strong_induction_on generalizing text v with
    | _ length ih =>
      rcases unmarked_or_marked isVersionMark text
        with hnone | ⟨before, mark, after, rfl, hbefore, hmark⟩
      · obtain ⟨n, hread, rfl⟩ := (read?_of_unmarked hnone).mp h
        exact .single hread
      · obtain ⟨n, w, hread, hafter, rfl⟩ := (read?_of_marked hbefore hmark).mp h
        refine .more hread (isVersionMark_iff.mp hmark) (ih after.length ?_ hafter rfl)
        rw [← hlength, List.length_append, List.length_cons]
        omega
  · intro h
    induction h with
    | single hread => exact (read?_of_unmarked (read_not_mark hread)).mpr ⟨_, hread, rfl⟩
    | more hread hmark _ ih =>
        exact (read?_of_marked (read_not_mark hread) (isVersionMark_iff.mpr hmark)).mpr
          ⟨_, _, hread, ih, rfl⟩

/-! ## Stems -/

section DoubleLine

open Naming.markedVersion? (beforeDoubleLine?)

theorem eq_of_beforeDoubleLine? {rest : List Char} (h : beforeDoubleLine? rest = some text) :
    ∃ description, rest = text ++ '_' :: '_' :: description := by
  induction rest generalizing text with
  | nil => cases h
  | cons c rest ih =>
      unfold beforeDoubleLine? at h
      split at h
      next description heq =>
        cases h
        exact ⟨description, heq⟩
      next heq =>
        cases heq
        obtain ⟨before, hbefore, rfl⟩ := Option.map_eq_some_iff.mp h
        obtain ⟨description, rfl⟩ := ih hbefore
        exact ⟨description, rfl⟩
      next heq => cases heq

/-- No two low lines begin at a character that is none, or that has none behind it. -/
theorem beforeDoubleLine?_cons {c : Char} {rest : List Char} (h : c = '_' → rest.head? ≠ some '_') :
    beforeDoubleLine? (c :: rest) = (beforeDoubleLine? rest).map (c :: ·) := by
  rw [beforeDoubleLine?]
  rintro after rfl rfl
  exact h rfl rfl

theorem beforeDoubleLine?_append {before rest : List Char} (h : '_' ∉ before) :
    beforeDoubleLine? (before ++ rest) = (beforeDoubleLine? rest).map (before ++ ·) := by
  induction before with
  | nil => simp
  | cons c before ih =>
      rw [List.mem_cons, not_or] at h
      rw [List.cons_append, beforeDoubleLine?_cons fun hc => absurd hc.symm h.1, ih h.2,
        Option.map_map]
      rfl

theorem Spells.head?_ne (h : Spells text v) (rest : List Char) :
    (text ++ rest).head? ≠ some '_' := by
  have hdigits : ∀ {digits n} (more : List Char), Numeral.read Numeral.maxWord digits = .ok n →
      (digits ++ more).head? ≠ some '_' := by
    intro digits n more hread hhead
    obtain ⟨hne, hunmarked⟩ := read_unmarked hread
    cases digits with
    | nil => exact hne rfl
    | cons c digits => exact hunmarked c (List.mem_cons_self ..) (.inr (Option.some.inj hhead))
  cases h with
  | single hread => exact hdigits rest hread
  | more hread _ _ =>
      rw [List.append_assoc]
      exact hdigits _ hread

/-- What spells a version ends where the first two low lines are. -/
theorem Spells.beforeDoubleLine? (h : Spells text v) (description : List Char) :
    beforeDoubleLine? (text ++ '_' :: '_' :: description) = some text := by
  have hline : ∀ {digits n}, Numeral.read Numeral.maxWord digits = .ok n → '_' ∉ digits :=
    fun hread hmem => (read_unmarked hread).2 '_' hmem (.inr rfl)
  induction h with
  | single hread =>
      rw [beforeDoubleLine?_append (hline hread)]
      simp [Naming.markedVersion?.beforeDoubleLine?]
  | more hread hmark hrest ih =>
      rw [List.append_assoc, beforeDoubleLine?_append (hline hread), List.cons_append,
        beforeDoubleLine?_cons fun _ => hrest.head?_ne _, ih]
      rfl

end DoubleLine

theorem markedVersion?_eq_some_iff {letters : List Char} {stem : String} :
    Naming.markedVersion? letters stem = some v ↔ MarkedStem letters stem v := by
  unfold Naming.markedVersion? MarkedStem
  constructor
  · intro h
    split at h
    next => cases h
    next letter rest hstem =>
      split at h
      next hletter =>
        obtain ⟨text, htext, hread⟩ := Option.bind_eq_some_iff.mp h
        obtain ⟨description, rfl⟩ := eq_of_beforeDoubleLine? htext
        exact ⟨letter, List.contains_iff_mem.mp hletter, text, description, hstem,
          read?_eq_some_iff.mp hread⟩
      next => cases h
  · rintro ⟨letter, hletter, text, description, hstem, hspells⟩
    rw [hstem]
    dsimp only
    rw [if_pos (List.contains_iff_mem.mpr hletter), hspells.beforeDoubleLine?]
    exact read?_eq_some_iff.mpr hspells

theorem splitAtFirst?_append {mark : Char} {before : List Char} (h : mark ∉ before)
    (after : List Char) :
    Text.splitAtFirst? mark (before ++ mark :: after) = some (before, after) := by
  have hall : ∀ c ∈ before, decide (c ≠ mark) = true := fun c hc =>
    decide_eq_true fun heq => h (heq ▸ hc)
  unfold Text.splitAtFirst?
  rw [List.dropWhile_append_of_pos hall, List.takeWhile_append_of_pos hall]
  simp

theorem eq_of_splitAtFirst? {mark : Char} {s before after : List Char}
    (h : Text.splitAtFirst? mark s = some (before, after)) : s = before ++ mark :: after := by
  unfold Text.splitAtFirst? at h
  split at h
  · cases h
  next c rest hrest =>
    cases h
    have hmark : decide (c ≠ mark) = false := by
      have hhead := List.head?_dropWhile_not (fun c => decide (c ≠ mark)) s
      rw [hrest] at hhead
      simpa using hhead
    obtain rfl : c = mark := by simpa using hmark
    rw [← hrest, List.takeWhile_append_dropWhile]

theorem numbered_eq_some_iff {stem : String} :
    Naming.numbered.version? stem = some v ↔ NumberedStem stem v := by
  change ((Text.splitAtFirst? '_' stem.toList).bind fun split =>
    (Numeral.read Numeral.maxWord split.1).toOption.bind fun n => some [n]) = some v ↔ _
  constructor
  · intro h
    obtain ⟨⟨digits, name⟩, hsplit, hread⟩ := Option.bind_eq_some_iff.mp h
    obtain ⟨n, hn, hv⟩ := Option.bind_eq_some_iff.mp hread
    exact ⟨digits, name, n, eq_of_splitAtFirst? hsplit, toOption_eq_some.mp hn,
      (Option.some.inj hv).symm⟩
  · rintro ⟨digits, name, n, hstem, hread, rfl⟩
    have hline : '_' ∉ digits := fun hmem => (read_unmarked hread).2 '_' hmem (.inr rfl)
    rw [hstem, splitAtFirst?_append hline]
    simp [hread, Except.toOption]

end ScopedResources.Migration
