import ScopedResources.Memory.Database
import ScopedResources.Proofs.StatementGrammar
import ScopedResources.Proofs.StatementPieces

/-!
# Rows of an insertion

The rows of an insertion are not read but counted, by the commas that stand directly behind a
closing parenthesis. That misses a row wherever a blank comes before the comma that separates two of
them, and adds one wherever such a comma stands inside of a row: in a literal, or behind a call.
Between these the count is exact. -/

namespace ScopedResources.Memory

open Text Sql

/-! ## Commas behind closing parentheses -/

/-- How many commas stand directly behind a closing parenthesis. -/
def closedCommas : List Char → Nat
  | ')' :: ',' :: rest => closedCommas rest + 1
  | _ :: rest => closedCommas rest
  | [] => 0

/-- One if the first text ends with a closing parenthesis and the second begins with a comma. -/
def meeting (s t : List Char) : Nat :=
  if s.getLast? = some ')' ∧ t.head? = some ',' then 1 else 0

variable {s t u : List Char} {c : Char}

theorem countRows_eq (s : List Char) : Statement.countRows s = closedCommas s + 1 := by
  fun_induction closedCommas s with
  | case1 rest ih => rw [Statement.countRows, ih]
  | case2 c rest hnot ih =>
      rw [Statement.countRows, ih]
      exact hnot
  | case3 => rfl

theorem closedCommas_cons (c : Char) (s : List Char) :
    closedCommas (c :: s) = closedCommas s + meeting [c] s := by
  unfold meeting
  by_cases hmeet : [c].getLast? = some ')' ∧ s.head? = some ','
  · obtain ⟨hlast, hhead⟩ := hmeet
    rw [if_pos ⟨hlast, hhead⟩]
    obtain ⟨rest, rfl⟩ := List.head?_eq_some_iff.mp hhead
    obtain rfl : c = ')' := Option.some.inj hlast
    rw [closedCommas, closedCommas]
    rintro rest' ⟨⟩
  · rw [if_neg hmeet, closedCommas]
    · rfl
    · rintro rest rfl rfl
      exact hmeet ⟨rfl, rfl⟩

theorem closedCommas_append (s t : List Char) :
    closedCommas (s ++ t) = closedCommas s + closedCommas t + meeting s t := by
  induction s with
  | nil => simp [closedCommas, meeting]
  | cons c s ih =>
      rw [List.cons_append, closedCommas_cons, closedCommas_cons, ih]
      cases s with
      | nil => simp [closedCommas, meeting]
      | cons d s =>
          have hhead : meeting [c] (d :: s ++ t) = meeting [c] (d :: s) := rfl
          have hlast : meeting (c :: d :: s) t = meeting (d :: s) t := by
            unfold meeting
            rw [List.getLast?_cons_cons]
          rw [hhead, hlast]
          omega

theorem closedCommas_of_not_mem (h : ')' ∉ s) : closedCommas s = 0 := by
  induction s with
  | nil => rfl
  | cons c s ih =>
      obtain ⟨hc, hs⟩ := not_or.mp (mt List.mem_cons.mpr h)
      rw [closedCommas_cons, ih hs, Nat.zero_add]
      refine if_neg ?_
      rintro ⟨hlast, -⟩
      exact hc (Option.some.inj hlast).symm

theorem closedCommas_append_left (h : ')' ∉ s) : closedCommas (s ++ t) = closedCommas t := by
  have hnot : meeting s t = 0 := if_neg fun hmeet => h (List.mem_of_getLast? hmeet.1)
  rw [closedCommas_append, closedCommas_of_not_mem h, hnot]
  omega

theorem closedCommas_append_right (h : ∀ c ∈ t, c ≠ ')' ∧ c ≠ ',') :
    closedCommas (s ++ t) = closedCommas s := by
  have hnot : meeting s t = 0 := if_neg fun hmeet => (h _ (List.mem_of_head? hmeet.2)).2 rfl
  rw [closedCommas_append, closedCommas_of_not_mem fun hmem => (h _ hmem).1 rfl, hnot]
  rfl

theorem closedCommas_of_suffix (h : s <:+ t) : closedCommas s ≤ closedCommas t := by
  obtain ⟨front, rfl⟩ := h
  rw [closedCommas_append]
  omega

theorem not_mem_of_blank (h : Blank s) (hc : isBlank c = false) : c ∉ s := by
  intro hmem
  rw [h c hmem] at hc
  exact nomatch hc

theorem closedCommas_append_blank (h : Blank t) : closedCommas (s ++ t) = closedCommas s := by
  refine closedCommas_append_right fun c hc => ?_
  constructor <;> rintro rfl
  · exact not_mem_of_blank h rfl hc
  · exact not_mem_of_blank h rfl hc

theorem head?_doubled (quote : Char) (s : List Char) : (doubled quote s).head? = s.head? := by
  cases s with
  | nil => rfl
  | cons c s =>
      change ((if c = quote then [c, c] else [c]) ++ doubled quote s).head? = some c
      split <;> rfl

/-- To write quotes twice makes no difference to commas. -/
theorem closedCommas_doubled {quote : Char} (hquote : quote ≠ ')') (s : List Char) :
    closedCommas (doubled quote s) = closedCommas s := by
  induction s with
  | nil => rfl
  | cons c s ih =>
      have hdoubled : doubled quote (c :: s) =
          (if c = quote then [c, c] else [c]) ++ doubled quote s := rfl
      have hmeet : meeting [c] (doubled quote s) = meeting [c] s := by
        unfold meeting
        rw [head?_doubled]
      rw [hdoubled, closedCommas_cons, ← ih, ← hmeet]
      by_cases hc : c = quote
      · rw [if_pos hc]
        have hfirst : meeting [c] (c :: doubled quote s) = 0 := by
          refine if_neg fun hboth => hquote ?_
          exact hc.symm.trans (Option.some.inj hboth.1)
        have htwice : [c, c] ++ doubled quote s = c :: c :: doubled quote s := rfl
        rw [htwice, closedCommas_cons, hfirst, closedCommas_cons]
        rfl
      · rw [if_neg hc]
        exact closedCommas_cons ..

/-! ## Tuples -/

/-- Blank characters, or none. -/
abbrev Blanks := {s : List Char // Blank s}

/-- Whether a character may stand in a number: a digit, a sign, a point, or the letter before an
exponent. -/
def isNumberChar (c : Char) : Bool :=
  c.isDigit || c ∈ ['+', '-', '.', 'e', 'E']

abbrev Number := {s : List Char // s.all isNumberChar = true}

theorem not_mem_number (number : Number) : ')' ∉ number.1 := by
  intro hmem
  exact nomatch List.all_eq_true.mp number.2 _ hmem

abbrev Name := {s : List Char // Statement.IsName s}

def Blanks.none : Blanks :=
  ⟨[], nofun⟩

def Blanks.one : Blanks :=
  ⟨[' '], by decide⟩

mutual
/-- A value of a tuple. -/
inductive Value where
  | number (written : Number)
  /-- A text between single quotes; those that it holds are written twice. -/
  | literal (body : List Char)
  /-- A call without arguments. -/
  | nullary (name : Name) (gap : Blanks) (inside : Blanks)
  | call (name : Name) (gap : Blanks) (args : Values)
/-- Values with commas between them, each with blanks around it. -/
inductive Values where
  | last (before : Blanks) (value : Value) (after : Blanks)
  | more (before : Blanks) (value : Value) (after : Blanks) (rest : Values)
end

mutual
def Value.text : Value → List Char
  | .number written => written.1
  | .literal body => '\'' :: (doubled '\'' body ++ ['\''])
  | .nullary name gap inside => name.1 ++ gap.1 ++ '(' :: (inside.1 ++ [')'])
  | .call name gap args => name.1 ++ gap.1 ++ '(' :: (args.text ++ [')'])
def Values.text : Values → List Char
  | .last before value after => before.1 ++ (value.text ++ after.1)
  | .more before value after rest => before.1 ++ (value.text ++ (after.1 ++ ',' :: rest.text))
end

/-- The value ends with a closing parenthesis. -/
def Value.IsCall : Value → Prop
  | .number _ | .literal _ => False
  | .nullary .. | .call .. => True

instance : DecidablePred Value.IsCall
  | .number _ | .literal _ => isFalse id
  | .nullary .. | .call .. => isTrue trivial

mutual
/-- How many commas stand behind a closing parenthesis inside of a value: those of its literals, and
those that follow upon a call. -/
def Value.excess : Value → Nat
  | .number _ => 0
  | .literal body => closedCommas body
  | .nullary .. => 0
  | .call _ _ args => args.excess
def Values.excess : Values → Nat
  | .last _ value _ => value.excess
  | .more _ value after rest =>
    value.excess + (if value.IsCall ∧ after.1 = [] then 1 else 0) + rest.excess
end

/-- Tuples with commas between them, with blanks before and after each comma. -/
inductive Tuples where
  | last (row : Values)
  | more (row : Values) (before after : Blanks) (rest : Tuples)

namespace Tuples

def text : Tuples → List Char
  | last row => '(' :: (row.text ++ [')'])
  | more row before after rest =>
    '(' :: (row.text ++ ')' :: (before.1 ++ ',' :: (after.1 ++ rest.text)))

def count : Tuples → Nat
  | last _ => 1
  | more _ _ _ rest => rest.count + 1

/-- How many of the tuples are parted from the comma behind them. -/
def parted : Tuples → Nat
  | last _ => 0
  | more _ before _ rest => (if before.1 = [] then 0 else 1) + rest.parted

def excess : Tuples → Nat
  | last row => row.excess
  | more row _ _ rest => row.excess + rest.excess

end Tuples

theorem Value.getLast?_text (value : Value) : value.text.getLast? = some ')' ↔ value.IsCall := by
  cases value with
  | number written =>
      exact ⟨fun hlast => not_mem_number written (List.mem_of_getLast? hlast), False.elim⟩
  | literal body =>
      rw [Value.text, ← List.cons_append, List.getLast?_concat]
      exact ⟨nofun, False.elim⟩
  | nullary name gap inside =>
      rw [Value.text, ← List.cons_append, ← List.append_assoc, List.getLast?_concat]
      exact ⟨fun _ => trivial, fun _ => rfl⟩
  | call name gap args =>
      rw [Value.text, ← List.cons_append, ← List.append_assoc, List.getLast?_concat]
      exact ⟨fun _ => trivial, fun _ => rfl⟩

theorem not_mem_name (name : Name) : ')' ∉ name.1 := by
  obtain ⟨_, @⟨c, rest, hfirst, hrest⟩⟩ := name
  intro hmem
  rcases List.mem_cons.mp hmem with rfl | hmem
  · exact absurd hfirst (by decide)
  · exact absurd (hrest _ hmem) (by decide)

theorem not_mem_blanks (blanks : Blanks) : ')' ∉ blanks.1 :=
  not_mem_of_blank blanks.2 rfl

theorem not_mem_opening (name : Name) (gap : Blanks) : ')' ∉ name.1 ++ gap.1 ++ ['('] := by
  simp [not_mem_name name, not_mem_blanks gap]

theorem closedCommas_closed (s : List Char) : closedCommas (s ++ [')']) = closedCommas s := by
  have hnot : meeting s [')'] = 0 := if_neg fun hmeet => nomatch hmeet.2
  rw [closedCommas_append, hnot]
  rfl

/-- What follows a closing parenthesis is a comma only if no blank comes first. -/
theorem head?_comma (blanks : Blanks) (s : List Char) :
    (blanks.1 ++ ',' :: s).head? = some ',' ↔ blanks.1 = [] := by
  obtain ⟨gap, hblank⟩ := blanks
  cases gap with
  | nil => exact ⟨fun _ => rfl, fun _ => rfl⟩
  | cons c gap =>
      refine ⟨fun hhead => ?_, nofun⟩
      have hc : isBlank c = true := hblank c List.mem_cons_self
      rw [Option.some.inj hhead] at hc
      exact nomatch hc

theorem closedCommas_comma (blanks : Blanks) (s : List Char) :
    closedCommas (blanks.1 ++ ',' :: s) = closedCommas s := by
  rw [closedCommas_append_left (not_mem_blanks blanks)]
  change closedCommas ([','] ++ s) = _
  rw [closedCommas_append_left (by decide)]

mutual
theorem Value.closedCommas_text (value : Value) : closedCommas value.text = value.excess := by
  match value with
  | .number written => exact closedCommas_of_not_mem (not_mem_number written)
  | .literal body =>
      change closedCommas (['\''] ++ (doubled '\'' body ++ ['\''])) = _
      rw [closedCommas_append_left (by decide), closedCommas_append_right (by simp),
        closedCommas_doubled (by decide), Value.excess]
  | .nullary name gap inside =>
      have htext : (Value.nullary name gap inside).text =
          (name.1 ++ gap.1 ++ ['(']) ++ (inside.1 ++ [')']) := by
        simp [Value.text]
      rw [htext, closedCommas_append_left (not_mem_opening name gap), closedCommas_closed,
        closedCommas_of_not_mem (not_mem_blanks inside), Value.excess]
  | .call name gap args =>
      have hargs := args.closedCommas_text
      have htext : (Value.call name gap args).text =
          (name.1 ++ gap.1 ++ ['(']) ++ (args.text ++ [')']) := by
        simp [Value.text]
      rw [htext, closedCommas_append_left (not_mem_opening name gap), closedCommas_closed, hargs,
        Value.excess]
theorem Values.closedCommas_text (values : Values) : closedCommas values.text = values.excess := by
  match values with
  | .last before value after =>
      have hvalue := value.closedCommas_text
      rw [Values.text, closedCommas_append_left (not_mem_blanks before),
        closedCommas_append_blank after.2, hvalue, Values.excess]
  | .more before value after rest =>
      have hvalue := value.closedCommas_text
      have hrest := rest.closedCommas_text
      have hmeet : meeting value.text (after.1 ++ ',' :: rest.text) =
          if value.IsCall ∧ after.1 = [] then 1 else 0 := by
        unfold meeting
        simp only [value.getLast?_text, head?_comma]
      rw [Values.text, closedCommas_append_left (not_mem_blanks before), closedCommas_append,
        closedCommas_comma, hvalue, hrest, hmeet, Values.excess]
      omega
end

/-- Commas behind closing parentheses are one fewer than the rows, but for those that are parted and
those inside of rows. -/
theorem Tuples.closedCommas_text (tuples : Tuples) :
    closedCommas tuples.text + 1 + tuples.parted = tuples.count + tuples.excess := by
  induction tuples with
  | last row =>
      change closedCommas (['('] ++ (row.text ++ [')'])) + 1 + 0 = 1 + row.excess
      rw [closedCommas_append_left (by decide), closedCommas_closed, row.closedCommas_text]
      omega
  | more row before after rest ih =>
      have htext : (more row before after rest).text =
          ['('] ++ ((row.text ++ [')']) ++ (before.1 ++ ',' :: (after.1 ++ rest.text))) := by
        simp [text]
      have hmeet : meeting (row.text ++ [')']) (before.1 ++ ',' :: (after.1 ++ rest.text)) =
          if before.1 = [] then 1 else 0 := by
        unfold meeting
        simp only [List.getLast?_concat, head?_comma, true_and]
      rw [htext, closedCommas_append_left (by decide), closedCommas_append, closedCommas_closed,
        closedCommas_comma, closedCommas_append_left (not_mem_blanks after), row.closedCommas_text,
        hmeet, parted, count, excess]
      split <;> omega

/-! ## Words -/

/-- The blank characters beyond ASCII. -/
def wideBlanks : List Nat :=
  [0x85, 0xA0, 0x1680, 0x2028, 0x2029, 0x202F, 0x205F, 0x3000] ++ List.range' 0x2000 11

theorem wideBlanks_not_word : ∀ n ∈ wideBlanks, inRanges n wordRanges = false := by
  decide +kernel

theorem isAsciiWord_iff : isAsciiWord c = true ↔ (48 ≤ c.toNat ∧ c.toNat ≤ 57) ∨
    (65 ≤ c.toNat ∧ c.toNat ≤ 90) ∨ c.toNat = 95 ∨ (97 ≤ c.toNat ∧ c.toNat ≤ 122) := by
  have hline : c = '_' ↔ c.toNat = 95 := by
    rw [← Char.toNat_inj]
    rfl
  simp only [isAsciiWord, Bool.or_eq_true, isAlphanum_iff, beq_iff_eq, hline]
  omega

theorem not_isWord_of_isBlank (h : isBlank c = true) : isWord c = false := by
  have hblank : c.toNat ≤ 32 ∨ c.toNat ∈ wideBlanks := by
    simp only [isBlank, Bool.or_eq_true, Bool.and_eq_true, decide_eq_true_eq, beq_iff_eq] at h
    simp only [wideBlanks, List.mem_append, List.mem_cons, List.not_mem_nil, or_false,
      List.mem_range'_1]
    omega
  have hascii : isAsciiWord c = false := by
    rw [← Bool.not_eq_true, isAsciiWord_iff]
    rcases hblank with hsmall | hwide
    · omega
    · have hlarge : ∀ n ∈ wideBlanks, 128 ≤ n := by decide
      have hc := hlarge _ hwide
      omega
  unfold isWord
  rcases hblank with hsmall | hwide
  · have hnarrow : ¬ 0x80 ≤ c.toNat := by omega
    simp [hascii, hnarrow]
  · simp [hascii, wideBlanks_not_word _ hwide]

theorem isWord_of_spells {keyword : String} (hletters : ∀ k ∈ keyword.toList, k.isAlpha = true)
    (h : Spells keyword s) (hc : c ∈ s) : isWord c = true := by
  have hfold : foldToAscii c ∈ keyword.toList := h ▸ List.mem_map_of_mem hc
  exact isWord_of_startsName (by simp [Statement.startsName, hletters _ hfold])

theorem not_isBlank_of_isWord (h : isWord c = true) : isBlank c = false := by
  rw [← Bool.not_eq_true]
  intro hblank
  rw [not_isWord_of_isBlank hblank] at h
  exact nomatch h

/-! ## Where the word VALUES is found -/

namespace Statement

variable {middle values tail : List Char} {before : Option Char}

theorem length_values (h : Spells "values" values) : values.length = 6 := by
  have hlength := congrArg List.length h
  rwa [List.length_map] at hlength

theorem isWord_values (h : Spells "values" values) (hc : c ∈ values) : isWord c = true :=
  isWord_of_spells (List.all_eq_true.mp rfl) h hc

theorem afterValues?_of_word (h : Spells "values" values) (hbefore : before.any isWord = false)
    (htail : tail.head?.any isWord = false) : afterValues? before (values ++ tail) = some tail := by
  have hlength := length_values h
  have hfirst : (values ++ tail).head?.any isWord = true := by
    rw [List.head?_append_of_ne_nil _ (List.ne_nil_of_length_pos (by omega)),
      List.head?_eq_getElem?, List.getElem?_eq_getElem (by omega)]
    exact isWord_values h (List.getElem_mem _)
  have hlast : (values ++ tail)[5]?.any isWord = true := by
    rw [List.getElem?_append_left (by omega), List.getElem?_eq_getElem (by omega)]
    exact isWord_values h (List.getElem_mem _)
  refine Option.filter_eq_some_iff.mpr ⟨afterKeyword?_eq_some_iff.mpr ⟨values, h, rfl⟩, ?_⟩
  unfold isBoundary
  rw [hbefore, hfirst, hlast, htail]
  rfl

/-- Behind some text that no semicolon ends, the word is found, there or earlier. -/
theorem findValues?_of_word (hmiddle : ';' ∉ middle) (h : Spells "values" values)
    (hbefore : (middle.getLast?.or before).any isWord = false)
    (htail : tail.head?.any isWord = false) :
    ∃ front, front <:+ middle ++ values ∧
      findValues? before (middle ++ (values ++ tail)) = some (front ++ tail) := by
  induction middle generalizing before with
  | nil =>
      refine ⟨[], List.nil_suffix, ?_⟩
      have hafter : afterValues? before (values ++ tail) = some tail :=
        afterValues?_of_word h hbefore htail
      obtain ⟨c, word, rfl⟩ :=
        List.exists_cons_of_ne_nil (List.ne_nil_of_length_pos (by rw [length_values h]; omega))
      rw [List.nil_append, List.cons_append, findValues?]
      rw [List.cons_append] at hafter
      rw [hafter]
      rfl
  | cons c middle ih =>
      change ∃ front, _ ∧ findValues? before (c :: (middle ++ (values ++ tail))) = _
      rw [findValues?]
      cases hafter : afterValues? before (c :: (middle ++ (values ++ tail))) with
      | some rest =>
          -- an earlier word, of which no part belongs to what is behind the later one
          obtain ⟨word, hword, htext⟩ := afterValues?_spells hafter
          have hsplit : (c :: middle ++ values) ++ tail = word ++ rest := by
            rw [← htext]
            simp
          rcases List.append_eq_append_iff.mp hsplit with ⟨more, hmore, -⟩ | ⟨front, hfront, hrest⟩
          · have hlong := congrArg List.length hmore
            simp only [List.length_append, List.length_cons, length_values h, length_values hword]
              at hlong
            omega
          · exact ⟨front, ⟨word, hfront.symm⟩, congrArg some hrest⟩
      | none =>
          have hlater : (middle.getLast?.or (some c)).any isWord = false := by
            rw [List.getLast?_cons] at hbefore
            cases hlast : middle.getLast? <;> rw [hlast] at hbefore <;> exact hbefore
          obtain ⟨hc, hmiddle⟩ := not_or.mp (mt List.mem_cons.mpr hmiddle)
          obtain ⟨front, hfront, hfound⟩ := ih hmiddle hlater
          refine ⟨front, hfront.trans (List.suffix_cons ..), ?_⟩
          dsimp only
          rw [if_neg (Ne.symm hc), hfound]

end Statement

/-! ## Insertions -/

/-- At least one blank character. -/
abbrev Gap := {s : List Char // s ≠ [] ∧ Blank s}

/-- A keyword, which is given in small letters, in any case of its letters. -/
abbrev Spelling (keyword : String) := {s : List Char // Spells keyword s}

/-- What stands between the name of a table and the word `VALUES`. -/
inductive Columns where
  | unlisted (gap : Gap)
  /-- The columns, in whatever way they are written. -/
  | listed (before : Blanks) (names : {s : List Char // ∀ c ∈ s, c ∉ [';', '(', ')']})
      (after : Blanks)

def Columns.text : Columns → List Char
  | unlisted gap => gap.1
  | listed before names after => (before.1 ++ '(' :: names.1) ++ ')' :: after.1

/-- The parts of an insertion of tuples. -/
structure Insertion where
  lead : Blanks
  insert : Spelling "insert"
  gap : Gap
  into : Spelling "into"
  gap' : Gap
  name : Name
  columns : Columns
  values : Spelling "values"
  behind : Blanks
  tuples : Tuples
  trail : Blanks

namespace Insertion

def table (ins : Insertion) : String :=
  String.ofList ins.name.1

/-- What stands behind the word `VALUES`. -/
def rows (ins : Insertion) : List Char :=
  ins.behind.1 ++ (ins.tuples.text ++ ins.trail.1)

/-- What stands behind the name of the table. -/
def rest (ins : Insertion) : List Char :=
  ins.columns.text ++ (ins.values.1 ++ ins.rows)

def statement (ins : Insertion) : String :=
  String.ofList (ins.lead.1 ++ (ins.insert.1 ++ ins.gap.1 ++
    (ins.into.1 ++ ins.gap'.1 ++ (ins.name.1 ++ ins.rest))))

end Insertion

theorem blank_or_of_head? {s t : List Char} {c : Char} (hblank : Blank s)
    (h : (s ++ t).head? = some c) : isBlank c = true ∨ t.head? = some c := by
  cases s with
  | nil => exact .inr h
  | cons d s =>
      cases h
      exact .inl (hblank c List.mem_cons_self)

/-- A blank or a parenthesis neither belongs to a word nor goes on with a name. -/
theorem not_word_of_blank_or (h : isBlank c = true ∨ c = '(' ∨ c = ')') :
    isWord c = false ∧ Statement.continuesName c = false := by
  rcases h with hblank | rfl | rfl
  · have hword := not_isWord_of_isBlank hblank
    refine ⟨hword, ?_⟩
    have hdot : c ≠ '.' := by
      rintro rfl
      exact nomatch hblank
    simp [Statement.continuesName, hword, hdot]
  · exact ⟨rfl, rfl⟩
  · exact ⟨rfl, rfl⟩

namespace Columns

variable (columns : Columns)

theorem head?_text {c : Char} (h : (columns.text ++ s).head? = some c) :
    isBlank c = true ∨ c = '(' ∨ c = ')' := by
  cases columns with
  | unlisted gap =>
      obtain ⟨gap, hne, hblank⟩ := gap
      obtain ⟨d, gap, rfl⟩ := List.exists_cons_of_ne_nil hne
      cases h
      exact .inl (hblank c List.mem_cons_self)
  | listed before names after =>
      rw [text, List.append_assoc, List.append_assoc] at h
      refine (blank_or_of_head? before.2 h).imp id fun hparen => .inl ?_
      exact (Option.some.inj hparen).symm

theorem getLast?_text : ∃ c, columns.text.getLast? = some c ∧
    (isBlank c = true ∨ c = '(' ∨ c = ')') := by
  cases columns with
  | unlisted gap =>
      obtain ⟨gap, hne, hblank⟩ := gap
      exact ⟨_, List.getLast?_eq_some_getLast hne, .inl (hblank _ (List.getLast_mem hne))⟩
  | listed before names after =>
      have hne : ')' :: after.1 ≠ [] := List.cons_ne_nil _ _
      refine ⟨_,
        (List.getLast?_append_of_ne_nil _ hne).trans (List.getLast?_eq_some_getLast hne), ?_⟩
      rcases List.mem_cons.mp (List.getLast_mem hne) with hparen | hblank
      · exact .inr (.inr hparen)
      · exact .inl (after.2 _ hblank)

theorem not_mem_text : ';' ∉ columns.text := by
  cases columns with
  | unlisted gap => exact not_mem_of_blank gap.2.2 rfl
  | listed before names after =>
      have hnames : ';' ∉ names.1 := fun hmem => names.2 _ hmem (by decide)
      simp [text, hnames, not_mem_of_blank before.2 (c := ';') rfl,
        not_mem_of_blank after.2 (c := ';') rfl]

/-- Up to the word `VALUES` no comma stands behind a closing parenthesis. -/
theorem closedCommas_text {values : List Char} (h : Spells "values" values) :
    closedCommas (columns.text ++ values) = 0 := by
  have hword : ∀ {c : Char}, isWord c = false → c ∉ values := by
    intro c hc hmem
    rw [Statement.isWord_values h hmem] at hc
    exact nomatch hc
  have hclosing : ')' ∉ values := hword rfl
  have hcomma : ',' ∉ values := hword rfl
  cases columns with
  | unlisted gap =>
      rw [text, closedCommas_append_left (not_mem_of_blank gap.2.2 rfl)]
      exact closedCommas_of_not_mem hclosing
  | listed before names after =>
      have hnames : ')' ∉ names.1 := fun hmem => names.2 _ hmem (by decide)
      have hopen : ')' ∉ before.1 ++ '(' :: names.1 := by
        simp [hnames, not_mem_blanks before]
      have hafter : ')' ∉ after.1 ++ values := by
        simp [hclosing, not_mem_blanks after]
      have hmeet : meeting [')'] (after.1 ++ values) = 0 := by
        refine if_neg ?_
        rintro ⟨-, hhead⟩
        rcases List.mem_append.mp (List.mem_of_head? hhead) with hblank | hvalue
        · exact not_mem_of_blank after.2 rfl hblank
        · exact hcomma hvalue
      rw [text, List.append_assoc, closedCommas_append_left hopen, List.cons_append,
        closedCommas_cons, closedCommas_of_not_mem hafter, hmeet]

end Columns

/-- A keyword that is spelled out starts with its first letter. -/
theorem starts_of_spells {keyword : String} {k : Char} {letters : List Char} (h : Spells keyword s)
    (hkeyword : keyword.toList = k :: letters) (hk : k.isAlpha = true) :
    ∃ c rest, s = c :: rest ∧ foldToAscii c = k ∧ isWord c = true := by
  unfold Spells at h
  rw [hkeyword] at h
  obtain ⟨c, rest, rfl, hfold, -⟩ := List.map_eq_cons_iff.mp h
  have hstarts : Statement.startsName c = true := by simp [Statement.startsName, hfold, hk]
  exact ⟨c, rest, rfl, hfold, isWord_of_startsName hstarts⟩

theorem starts_of_isName (h : Statement.IsName s) : ∃ c rest, s = c :: rest ∧ isWord c = true := by
  obtain @⟨c, rest, hfirst, hrest⟩ := h
  exact ⟨c, rest, rfl, isWord_of_startsName hfirst⟩

theorem afterKeywords?_eq_none {keyword : String} {keywords : List String} {k : Char}
    {letters : List Char} (hkeyword : keyword.toList = k :: letters) (hc : foldToAscii c ≠ k) :
    afterKeywords? (keyword :: keywords) (c :: s) = none := by
  rw [afterKeywords?, hkeyword, afterKeyword?, if_neg hc]
  rfl

theorem head?_any_of {p : Char → Bool} (h : ∀ c, s.head? = some c → p c = false) :
    s.head?.any p = false := by
  cases hhead : s.head? with
  | none => rfl
  | some c => exact h c hhead

namespace Insertion

variable (ins : Insertion)

theorem head?_rows (h : ins.rows.head? = some c) : isBlank c = true ∨ c = '(' ∨ c = ')' := by
  refine (blank_or_of_head? ins.behind.2 h).imp id fun hparen => .inl ?_
  cases htuples : ins.tuples with
  | last row =>
      rw [htuples] at hparen
      exact (Option.some.inj hparen).symm
  | more row before after rest =>
      rw [htuples] at hparen
      exact (Option.some.inj hparen).symm

theorem closedCommas_rows : closedCommas ins.rows = closedCommas ins.tuples.text := by
  rw [rows, closedCommas_append_left (not_mem_blanks _), closedCommas_append_blank ins.trail.2]

theorem nameEnds_rest : Statement.NameEnds ins.rest :=
  head?_any_of fun _ hhead => (not_word_of_blank_or (ins.columns.head?_text hhead)).2

/-- Wherever the word `VALUES` is found, the commas behind it are those of the tuples. -/
theorem findValues?_rest (before : Option Char) :
    ∃ rows, Statement.findValues? before ins.rest = some rows ∧
      Statement.countRows rows = closedCommas ins.tuples.text + 1 := by
  have hbefore : (ins.columns.text.getLast?.or before).any isWord = false := by
    obtain ⟨c, hlast, hc⟩ := ins.columns.getLast?_text
    rw [hlast]
    exact (not_word_of_blank_or hc).1
  have hrows : ins.rows.head?.any isWord = false :=
    head?_any_of fun _ hhead => (not_word_of_blank_or (ins.head?_rows hhead)).1
  obtain ⟨front, hfront, hfound⟩ :=
    Statement.findValues?_of_word ins.columns.not_mem_text ins.values.2 hbefore hrows
  have hnone : closedCommas front = 0 := by
    have hle := closedCommas_of_suffix hfront
    rw [ins.columns.closedCommas_text ins.values.2] at hle
    exact Nat.le_zero.mp hle
  have hmeet : meeting front ins.rows = 0 := by
    refine if_neg ?_
    rintro ⟨-, hhead⟩
    exact absurd (ins.head?_rows hhead) (by decide)
  refine ⟨front ++ ins.rows, hfound, ?_⟩
  rw [countRows_eq, closedCommas_append, hnone, hmeet, ins.closedCommas_rows, Nat.zero_add,
    Nat.add_zero]

theorem insertion?_rest : Statement.insertion? (ins.name.1 ++ ins.rest) =
    some (.insertRows (Statement.tableNamed ins.name.1) (closedCommas ins.tuples.text + 1)) := by
  have hwritten : Statement.writtenName? (ins.name.1 ++ ins.rest) = some ins.name.1 :=
    Statement.writtenName?_eq_some_iff.mpr ⟨ins.name.2, ins.rest, ins.nameEnds_rest, rfl⟩
  obtain ⟨rows, hfound, hrows⟩ := ins.findValues?_rest ins.name.1.getLast?
  unfold Statement.insertion?
  rw [hwritten, Option.bind_eq_bind, Option.bind_some, List.drop_left, hfound, ← hrows]
  rfl

/-- The words of an insertion are read up to the name of the table. -/
theorem afterKeywords?_statement : ∃ s, ins.statement.toList.dropWhile isBlank = s ∧
    afterKeywords? ["create", "table"] s = none ∧ afterKeywords? ["drop", "table"] s = none ∧
    afterKeywords? ["insert", "into"] s = some (ins.name.1 ++ ins.rest) := by
  obtain ⟨i, letters, hinsert, hfold, hi⟩ := starts_of_spells ins.insert.2 rfl rfl
  obtain ⟨i', letters', hinto, -, hi'⟩ := starts_of_spells ins.into.2 rfl rfl
  obtain ⟨c, more, hname, hc⟩ := starts_of_isName ins.name.2
  refine ⟨ins.insert.1 ++ ins.gap.1 ++ (ins.into.1 ++ ins.gap'.1 ++ (ins.name.1 ++ ins.rest)),
    ?start, ?create, ?drop, ?insert⟩
  case start =>
    rw [statement, String.toList_ofList]
    refine dropWhile_isBlank_append ins.lead.2 ?_
    rw [hinsert]
    exact not_isBlank_of_isWord hi
  case create =>
    rw [hinsert]
    exact afterKeywords?_eq_none rfl (by rw [hfold]; decide)
  case drop =>
    rw [hinsert]
    exact afterKeywords?_eq_none rfl (by rw [hfold]; decide)
  case insert =>
    rw [afterKeywords?_cons ins.insert.2 ins.gap.2.1 ins.gap.2.2,
      afterKeywords?_cons ins.into.2 ins.gap'.2.1 ins.gap'.2.2, afterKeywords?]
    · rw [hname]
      exact not_isBlank_of_isWord hc
    · rw [hinto]
      exact not_isBlank_of_isWord hi'

theorem parse?_statement : Statement.parse? ins.statement =
    some (.insertRows (Statement.tableNamed ins.name.1) (closedCommas ins.tuples.text + 1)) := by
  obtain ⟨s, hs, hcreate, hdrop, hinsert⟩ := ins.afterKeywords?_statement
  simp only [Statement.parse?, hs, hcreate, hdrop, hinsert, Option.bind_none, Option.bind_some,
    ins.insertion?_rest]
  rfl

end Insertion

/-- An insertion into a table that is there raises its count by the number of its tuples, but for
one less for each comma that a blank parts from the tuple before it, and one more for each comma
behind a closing parenthesis inside of a tuple. -/
theorem insertion_raises_count (ins : Insertion) {db : Database} {present : Nat}
    (h : db.count? ins.table = some present) :
    ∃ after rows, db.execute ins.statement = .ok after ∧
      after.count? ins.table = some (present + rows) ∧
      rows + ins.tuples.parted = ins.tuples.count + ins.tuples.excess ∧
      (rows = ins.tuples.count ↔ ins.tuples.excess = ins.tuples.parted) := by
  have hcommas := ins.tuples.closedCommas_text
  have hiff : closedCommas ins.tuples.text + 1 = ins.tuples.count ↔
      ins.tuples.excess = ins.tuples.parted := by omega
  obtain ⟨tables, hstep, hfound⟩ : ∃ tables,
      Database.step db.tables (.insertRows (Statement.tableNamed ins.name.1)
        (closedCommas ins.tuples.text + 1)) = .ok tables ∧
      Assoc.find? (Statement.tableNamed ins.name.1) tables =
        some (present + (closedCommas ins.tuples.text + 1)) := by
    have hfind : Assoc.find? (Statement.tableNamed ins.name.1) db.tables = some present := h
    rw [Database.step, hfind]
    exact ⟨_, rfl, (Assoc.find?_insert ..).trans (if_pos rfl)⟩
  refine ⟨⟨tables, db.executed + 1⟩, closedCommas ins.tuples.text + 1, ?_, hfound, hcommas, hiff⟩
  rw [Database.execute, ins.parse?_statement]
  dsimp only
  rw [hstep]
  rfl

namespace Insertion

/-- Two rows, with a blank on either side of the comma between them. -/
def spaced : Insertion where
  lead := Blanks.none
  insert := ⟨"INSERT".toList, by decide⟩
  gap := ⟨[' '], by decide⟩
  into := ⟨"INTO".toList, by decide⟩
  gap' := ⟨[' '], by decide⟩
  name := ⟨['t'], by decide⟩
  columns := .unlisted ⟨[' '], by decide⟩
  values := ⟨"VALUES".toList, by decide⟩
  behind := Blanks.one
  tuples :=
    .more (.last Blanks.none (.number ⟨['1'], by decide⟩) Blanks.none) Blanks.one Blanks.one
      (.last (.last Blanks.none (.number ⟨['2'], by decide⟩) Blanks.none))
  trail := Blanks.none

example : spaced.statement = "INSERT INTO t VALUES (1) , (2)" := by decide +kernel

/-- Of two rows only one is counted. -/
theorem parted_row_not_counted :
    Database.count? { tables := [("t", 0)] } spaced.table = some 0 ∧
      ∃ after, Database.execute { tables := [("t", 0)] } spaced.statement = .ok after ∧
        after.count? spaced.table = some 1 := by
  have hpresent : Database.count? { tables := [("t", 0)] } spaced.table = some 0 := by
    decide +kernel
  obtain ⟨after, rows, hexecutes, hcounts, hrows, -⟩ := insertion_raises_count spaced hpresent
  have hparted : spaced.tuples.parted = 1 := rfl
  have hcount : spaced.tuples.count = 2 := rfl
  have hexcess : spaced.tuples.excess = 0 := by decide +kernel
  obtain rfl : rows = 1 := by omega
  exact ⟨hpresent, after, hexecutes, hcounts⟩

/-- Not every insertion raises the count of its table by the number of its tuples. -/
theorem count_not_raised_by_tuples : ¬ ∀ (ins : Insertion) (db : Database) (present : Nat),
    db.count? ins.table = some present → ∃ after, db.execute ins.statement = .ok after ∧
      after.count? ins.table = some (present + ins.tuples.count) := by
  have hpresent : Database.count? { tables := [("t", 0)] } spaced.table = some 0 := by
    decide +kernel
  have hone : Database.count? { tables := [("t", 1)], executed := 1 } spaced.table =
      some 1 := by decide +kernel
  have hparse : Statement.parse? spaced.statement = some (.insertRows "t" 1) := by decide +kernel
  have honce : Database.execute { tables := [("t", 0)] } spaced.statement =
      .ok { tables := [("t", 1)], executed := 1 } := by
    unfold Database.execute
    rw [hparse]
    rfl
  have htwo : spaced.tuples.count = 2 := rfl
  intro hall
  obtain ⟨after, hexecutes, hcounts⟩ := hall spaced { tables := [("t", 0)] } 0 hpresent
  cases honce.symm.trans hexecutes
  rw [hone, htwo] at hcounts
  exact absurd (Option.some.inj hcounts) (by decide)

end Insertion

end ScopedResources.Memory
