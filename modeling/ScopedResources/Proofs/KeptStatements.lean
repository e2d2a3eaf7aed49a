import ScopedResources.Proofs.StatementPieces
import Mathlib.Data.List.DropRight
import Mathlib.Data.List.TakeWhile

/-!
# Cutting statements again

What is left of a script holds no comment: where one was taken out, a blank or the end of a line
stands in its place, so two characters meet only where they stood side by side before. A statement
therefore reads the second time as it read the first, also the last one, which may end inside a
literal or a body. Cutting statements again, each alone or all joined by semicolons, gives the same
statements. -/

namespace ScopedResources.Sql

open Text

/-- Read from one mode, a text is kept as it stands and leaves the reader in another mode. -/
inductive Keeps : Mode → List Char → Mode → Prop
  | nil {m : Mode} : Keeps m [] m
  | plain {c : Char} {p : List Char} {m : Mode} (undelimited : c ∉ delimiters)
      (unopened : ∀ o ∈ openers, c = o.1 → p.head? ≠ some o.2) (behind : Keeps .text p m) :
      Keeps .text (c :: p) m
  | openLiteral {quote : Char} {p : List Char} {m : Mode} (isQuote : quote = '\'' ∨ quote = '"')
      (behind : Keeps (.literal quote) p m) : Keeps .text (quote :: p) m
  | literal {quote c : Char} {p : List Char} {m : Mode} (unclosed : c ≠ quote)
      (behind : Keeps (.literal quote) p m) : Keeps (.literal quote) (c :: p) m
  | closeLiteral {quote : Char} {p : List Char} {m : Mode} (isQuote : quote = '\'' ∨ quote = '"')
      (behind : Keeps .text p m) : Keeps (.literal quote) (quote :: p) m
  | openBody {p : List Char} {m : Mode} (behind : Keeps .dollarBody p m) :
      Keeps .text ('$' :: '$' :: p) m
  | body {c : Char} {p : List Char} {m : Mode} (unclosed : c = '$' → p.head? ≠ some '$')
      (behind : Keeps .dollarBody p m) : Keeps .dollarBody (c :: p) m
  | closeBody {p : List Char} {m : Mode} (behind : Keeps .text p m) :
      Keeps .dollarBody ('$' :: '$' :: p) m

/-- The segments of a script that is read from some mode. All but the last end outside of literals
and bodies. -/
inductive Segmented : Mode → List (List Char) → Prop
  | last {m m' : Mode} {p : List Char} (kept : Keeps m p m') : Segmented m [p]
  | cons {m : Mode} {p : List Char} {rest : List (List Char)} (kept : Keeps m p .text)
      (behind : Segmented .text rest) : Segmented m (p :: rest)

/-- The mode in which what is left is read. -/
def Mode.left : Mode → Mode
  | lineComment | blockComment => text
  | m => m

/-- Literals stand between quotes of one of the two kinds. -/
def Mode.Quoted : Mode → Prop
  | literal quote => quote = '\'' ∨ quote = '"'
  | _ => True

variable {m m' : Mode} {c : Char} {p rest s t : List Char} {ps : List (List Char)}
variable {syms : List Symbol}

/-! ## Reading what is kept -/

theorem head?_append_ne (hp : p.head? ≠ some c) (hrest : rest.head? ≠ some c) :
    (p ++ rest).head? ≠ some c := by
  cases p with
  | nil => exact hrest
  | cons d p => exact hp

/-- Whatever follows, as long as it completes no opener, what is kept comes out as it stands. -/
theorem Keeps.scan_append (h : Keeps m p m') (hrest : ∀ o ∈ openers, rest.head? ≠ some o.2) :
    scan m (p ++ rest) = p.map .char ++ scan m' rest := by
  induction h with
  | nil => rfl
  | plain undelimited unopened _ ih =>
      rw [List.cons_append, scan_text_cons undelimited fun o ho hc =>
        head?_append_ne (unopened o ho hc) (hrest o ho), ih]
      rfl
  | openLiteral isQuote _ ih =>
      rw [List.cons_append, scan_quote isQuote, ih]
      rfl
  | @literal quote c p m unclosed _ ih =>
      rw [List.map_cons, List.cons_append, List.cons_append, ← ih]
      cases p ++ rest with
      | nil => simp
      | cons d after => simp [scan.eq_9, unclosed]
  | closeLiteral isQuote _ ih =>
      rw [List.cons_append, scan_closing_quote isQuote, ih]
      rfl
  | openBody _ ih =>
      simp [ih]
  | @body c p m unclosed _ ih =>
      have hnext : c = '$' → (p ++ rest).head? ≠ some '$' := fun hc =>
        head?_append_ne (unclosed hc) (hrest ('$', '$') (by simp [openers]))
      rw [List.cons_append, scan.eq_12, ih]
      · rfl
      · intro after hc hafter
        exact hnext hc (by rw [hafter]; rfl)
  | closeBody _ ih =>
      simp [ih]

theorem Keeps.scan (h : Keeps m p m') : scan m p = p.map .char := by
  have hscan := @Keeps.scan_append _ _ _ [] h (by simp)
  simpa using hscan

/-- A character that has no part in an opener or a delimiter may stand anywhere in plain text. -/
theorem Keeps.ordinary (h : Keeps .text p m) (undelimited : c ∉ delimiters)
    (unopened : ∀ o ∈ openers, c ≠ o.1) : Keeps .text (c :: p) m :=
  .plain undelimited (fun o ho hc => absurd hc (unopened o ho)) h

/-! ## What a script leaves -/

theorem segments_map_char_append (h : segments syms = p :: ps) (s : List Char) :
    segments (s.map .char ++ syms) = (s ++ p) :: ps := by
  induction s with
  | nil => exact h
  | cons c s ih => simp [segments, ih]

theorem segments_map_char (s : List Char) : segments (s.map .char) = [s] := by
  simpa using segments_map_char_append (show segments [] = [[]] from rfl) s

theorem exists_segments (syms : List Symbol) : ∃ p ps, segments syms = p :: ps := by
  induction syms with
  | nil => exact ⟨[], [], rfl⟩
  | cons symbol syms ih =>
      obtain ⟨p, ps, h⟩ := ih
      cases symbol with
      | char c => exact ⟨c :: p, ps, by simp [segments, h]⟩
      | separator => exact ⟨[], segments syms, rfl⟩

/-- Symbols in front of the others go to the first segment. -/
theorem Segmented.append {m₀ : Mode} (h : Segmented m (segments syms)) (s : List Char)
    (hkept : ∀ p ps m', segments syms = p :: ps → Keeps m p m' → Keeps m₀ (s ++ p) m') :
    Segmented m₀ (segments (s.map .char ++ syms)) := by
  obtain ⟨p, ps, hsegments⟩ := exists_segments syms
  rw [segments_map_char_append hsegments]
  rw [hsegments] at h
  cases h with
  | last kept => exact .last (hkept _ _ _ hsegments kept)
  | cons kept behind => exact .cons (hkept _ _ _ hsegments kept) behind

/-- Behind a line comment comes the end of its line, or nothing. -/
theorem head?_of_lineComment (h : segments (Sql.scan .lineComment s) = p :: ps)
    (hp : p.head? = some c) : c = '\n' := by
  induction s with
  | nil =>
      cases h
      cases hp
  | cons d s ih =>
      rw [scan.eq_6] at h
      split at h
      next hd =>
        obtain ⟨q, qs, hq⟩ := exists_segments (Sql.scan .text s)
        rw [segments, hq] at h
        cases h
        exact (Option.some.inj hp).symm.trans hd
      next => exact ih h

/-- In plain text, what is left begins as it was written, or with what stands for a comment. -/
theorem head?_of_text (h : segments (Sql.scan .text s) = p :: ps) (hp : p.head? = some c)
    (hblank : c ≠ ' ') (hline : c ≠ '\n') : s.head? = some c := by
  have first {d : Char} {syms : List Symbol} (h : segments (.char d :: syms) = p :: ps) :
      d = c := by
    obtain ⟨q, qs, hq⟩ := exists_segments syms
    rw [segments, hq] at h
    cases h
    exact Option.some.inj hp
  unfold Sql.scan at h
  split at h
  all_goals try contradiction
  · cases h
    cases hp
  · exact absurd (head?_of_lineComment h hp) hline
  · exact absurd (first h).symm hblank
  · rw [← first h]
    rfl
  · split at h
    · cases h
      cases hp
    · split at h <;> rw [← first h] <;> rfl

/-- A body between dollar signs is left as it was written. -/
theorem head?_of_dollarBody (h : segments (Sql.scan .dollarBody s) = p :: ps) :
    p.head? = s.head? := by
  have first {d : Char} {syms : List Symbol} (h : segments (.char d :: syms) = p :: ps) :
      p.head? = some d := by
    obtain ⟨q, qs, hq⟩ := exists_segments syms
    rw [segments, hq] at h
    cases h
    rfl
  unfold Sql.scan at h
  split at h
  all_goals try contradiction
  · cases h
    rfl
  · exact first h
  · exact first h

/-- What is left of a script is kept when it is read again: the cases are those of the scan. -/
theorem segmented_scan (m : Mode) (s : List Char) (hm : m.Quoted) :
    Segmented m.left (segments (Sql.scan m s)) := by
  induction m, s using Sql.scan.induct with
  | case1 m =>
      cases m <;> exact .last .nil
  | case2 rest ih =>
      rw [scan.eq_2]
      exact ih trivial
  | case3 rest ih =>
      rw [scan.eq_3]
      exact (ih trivial).append [' '] fun _ _ _ _ kept =>
        kept.ordinary (by decide) (by decide)
  | case4 rest ih =>
      rw [scan.eq_4]
      exact (ih trivial).append ['$', '$'] fun _ _ _ _ kept => .openBody kept
  | case5 rest _ _ _ ih =>
      rw [scan.eq_5 _ _ ‹_› ‹_› ‹_›, if_pos rfl]
      exact .cons .nil (ih trivial)
  | case6 c rest hline hblock hdollars hsemicolon hquote ih =>
      rw [scan.eq_5 _ _ hline hblock hdollars, if_neg hsemicolon, if_pos hquote]
      have isQuote : c = '\'' ∨ c = '"' := by simpa using hquote
      exact (ih isQuote).append [c] fun _ _ _ _ kept => .openLiteral isQuote kept
  | case7 c rest hline hblock hdollars hsemicolon hquote ih =>
      rw [scan.eq_5 _ _ hline hblock hdollars, if_neg hsemicolon, if_neg hquote]
      refine (ih trivial).append [c] fun p ps _ hsegments kept => .plain ?_ ?_ kept
      · simpa [delimiters, hsemicolon] using hquote
      · -- an opener in what is left would have been one in the script
        intro o ho hc hnext
        have hsecond : ∀ o ∈ openers, o.2 ≠ ' ' ∧ o.2 ≠ '\n' := by decide
        obtain ⟨hblank, hline'⟩ := hsecond o ho
        obtain ⟨after, hafter⟩ :=
          List.head?_eq_some_iff.mp (head?_of_text hsegments hnext hblank hline')
        simp only [openers, List.mem_cons, List.not_mem_nil, or_false] at ho
        obtain rfl | rfl | rfl := ho
        · exact hline after hc hafter
        · exact hblock after hc hafter
        · exact hdollars after hc hafter
  | case8 rest ih =>
      rw [scan.eq_6, if_pos rfl]
      exact (ih trivial).append ['\n'] fun _ _ _ _ kept =>
        kept.ordinary (by decide) (by decide)
  | case9 c rest hc ih =>
      rw [scan.eq_6, if_neg hc]
      exact ih trivial
  | case10 rest ih =>
      rw [scan.eq_7]
      exact ih trivial
  | case11 c rest hclose ih =>
      rw [scan.eq_8 _ _ hclose]
      exact ih trivial
  | case12 quote c d rest hcd ih =>
      rw [scan.eq_9, if_pos hcd]
      simp only [Bool.and_eq_true, decide_eq_true_eq] at hcd
      obtain ⟨rfl, rfl⟩ := hcd
      exact (ih hm).append [d, d] fun _ _ _ _ kept => .closeLiteral hm (.openLiteral hm kept)
  | case13 quote d rest hcd ih =>
      rw [scan.eq_9, if_neg hcd, if_pos rfl]
      exact (ih trivial).append [quote] fun _ _ _ _ kept => .closeLiteral hm kept
  | case14 quote c d rest hcd hc ih =>
      rw [scan.eq_9, if_neg hcd, if_neg hc]
      exact (ih hm).append [c] fun _ _ _ _ kept => .literal hc kept
  | case15 quote c =>
      rw [scan.eq_10]
      by_cases hc : c = quote
      · subst hc
        exact .last (.closeLiteral hm .nil)
      · exact .last (.literal hc .nil)
  | case16 rest ih =>
      rw [scan.eq_11]
      exact (ih trivial).append ['$', '$'] fun _ _ _ _ kept => .closeBody kept
  | case17 c rest hclose ih =>
      rw [scan.eq_12 _ _ hclose]
      refine (ih trivial).append [c] fun p ps _ hsegments kept => .body ?_ kept
      intro hc hnext
      obtain ⟨after, hafter⟩ :=
        List.head?_eq_some_iff.mp ((head?_of_dollarBody hsegments).symm.trans hnext)
      exact hclose after hc hafter

theorem Segmented.pairwise (h : Segmented .text ps) :
    ps.Pairwise fun p _ => Keeps .text p .text := by
  induction ps with
  | nil => exact .nil
  | cons p ps ih =>
      cases h with
      | last => simp
      | cons kept behind => exact List.pairwise_cons.mpr ⟨fun _ _ => kept, ih behind⟩

theorem Segmented.keeps (h : Segmented .text ps) (hp : p ∈ ps) : ∃ m, Keeps .text p m := by
  induction ps with
  | nil => cases hp
  | cons q ps ih =>
      cases h with
      | last kept =>
          obtain rfl := List.mem_singleton.mp hp
          exact ⟨_, kept⟩
      | cons kept behind =>
          obtain rfl | hp := List.mem_cons.mp hp
          · exact ⟨_, kept⟩
          · exact ih behind hp

/-! ## Trimming -/

theorem trim_eq (s : List Char) : trim s = (s.dropWhile isBlank).rdropWhile isBlank := rfl

theorem exists_trim (s : List Char) : ∃ front back, s = front ++ (trim s ++ back) ∧
    (∀ c ∈ front, isBlank c = true) ∧ ∀ c ∈ back, isBlank c = true := by
  refine ⟨s.takeWhile isBlank, (s.dropWhile isBlank).rtakeWhile isBlank, ?_,
    fun _ => List.mem_takeWhile_imp, fun _ => List.mem_rtakeWhile_imp⟩
  rw [trim_eq, List.rdropWhile_append_rtakeWhile, List.takeWhile_append_dropWhile]

theorem not_isBlank_of_head?_trim (h : (trim s).head? = some c) : isBlank c = false := by
  obtain ⟨back, hback⟩ := List.rdropWhile_prefix isBlank (s.dropWhile isBlank)
  rw [← trim_eq] at hback
  have hhead : (s.dropWhile isBlank).head? = some c := by
    rw [← hback, List.head?_append, h]
    rfl
  have hdropped := List.head?_dropWhile_not isBlank s
  rwa [hhead] at hdropped

theorem not_isBlank_of_getLast?_trim (h : (trim s).getLast? = some c) : isBlank c = false := by
  have hne : trim s ≠ [] := fun hnil => by simp [hnil] at h
  have hlast : (trim s).getLast hne = c := by
    rwa [List.getLast?_eq_some_getLast hne, Option.some.injEq] at h
  rw [← hlast, ← Bool.not_eq_true]
  exact List.rdropWhile_last_not isBlank (s.dropWhile isBlank) hne

theorem trim_trim (s : List Char) : trim (trim s) = trim s := by
  have hfront : (trim s).dropWhile isBlank = trim s := by
    cases hs : trim s with
    | nil => rfl
    | cons c p =>
        have hhead : (trim s).head? = some c := by rw [hs]; rfl
        simp [not_isBlank_of_head?_trim hhead]
  rw [trim_eq (trim s), hfront, trim_eq, List.rdropWhile_idempotent]

theorem not_isBlank_of_quote {quote : Char} (h : quote = '\'' ∨ quote = '"') :
    isBlank quote = false := by
  rcases h with rfl | rfl <;> rfl

/-- A blank in front of a statement says nothing about how the rest is read. -/
theorem Keeps.of_blank_cons (h : Keeps .text (c :: s) m) (hc : isBlank c = true) :
    Keeps .text s m := by
  generalize hcs : c :: s = p at h
  cases h with
  | nil => cases hcs
  | plain _ _ behind =>
      cases hcs
      exact behind
  | openLiteral isQuote =>
      cases hcs
      simp [not_isBlank_of_quote isQuote] at hc
  | openBody =>
      cases hcs
      cases hc

theorem Keeps.of_blanks_append (h : Keeps .text (p ++ s) m) (hp : ∀ c ∈ p, isBlank c = true) :
    Keeps .text s m := by
  induction p with
  | nil => exact h
  | cons c p ih =>
      rw [List.forall_mem_cons] at hp
      exact ih (h.of_blank_cons hp.1) hp.2

theorem head?_ne_of_append (h : (p ++ t).head? ≠ some c) : p.head? ≠ some c := by
  cases p with
  | nil => simp
  | cons d p => exact h

/-- Blanks at the end of a text are read in the mode in which they begin. -/
theorem Keeps.of_append_blanks (h : Keeps m s m') (hs : s = p ++ t)
    (ht : ∀ c ∈ t, isBlank c = true) : Keeps m p m' := by
  induction h generalizing p t with
  | nil =>
      obtain ⟨rfl, rfl⟩ := List.append_eq_nil_iff.mp hs.symm
      exact .nil
  | plain undelimited unopened _ ih =>
      cases p with
      | nil =>
          subst hs
          exact ih rfl (List.forall_mem_cons.mp ht).2
      | cons d p =>
          cases hs
          exact .plain undelimited (fun o ho hc => head?_ne_of_append (unopened o ho hc))
            (ih rfl ht)
  | openLiteral isQuote _ ih =>
      cases p with
      | nil =>
          subst hs
          simp [not_isBlank_of_quote isQuote] at ht
      | cons d p =>
          cases hs
          exact .openLiteral isQuote (ih rfl ht)
  | literal unclosed _ ih =>
      cases p with
      | nil =>
          subst hs
          exact ih rfl (List.forall_mem_cons.mp ht).2
      | cons d p =>
          cases hs
          exact .literal unclosed (ih rfl ht)
  | closeLiteral isQuote _ ih =>
      cases p with
      | nil =>
          subst hs
          simp [not_isBlank_of_quote isQuote] at ht
      | cons d p =>
          cases hs
          exact .closeLiteral isQuote (ih rfl ht)
  | openBody _ ih =>
      match p with
      | d :: e :: p =>
          cases hs
          exact .openBody (ih rfl ht)
      | [] | [d] =>
          cases hs
          simp [isBlank] at ht
  | body unclosed _ ih =>
      cases p with
      | nil =>
          subst hs
          exact ih rfl (List.forall_mem_cons.mp ht).2
      | cons d p =>
          cases hs
          exact .body (fun hc => head?_ne_of_append (unclosed hc)) (ih rfl ht)
  | closeBody _ ih =>
      match p with
      | d :: e :: p =>
          cases hs
          exact .closeBody (ih rfl ht)
      | [] | [d] =>
          cases hs
          simp [isBlank] at ht

theorem Keeps.trim (h : Keeps .text p m) : Keeps .text (trim p) m := by
  obtain ⟨front, back, hp, hfront, hback⟩ := exists_trim p
  rw [hp] at h
  exact (h.of_blanks_append hfront).of_append_blanks rfl hback

/-! ## Cutting the statements again -/

/-- Statements as a script leaves them: trimmed, not empty, and kept when they are read again. All
but the last end outside of literals and bodies. -/
structure Settled (ps : List (List Char)) : Prop where
  closed : ps.Pairwise fun p _ => Keeps .text p .text
  kept : ∀ p ∈ ps, ∃ m, Keeps .text p m
  trimmed : ∀ p ∈ ps, Text.trim p = p
  nonempty : ∀ p ∈ ps, p ≠ []

namespace Settled

theorem of_cons (h : Settled (p :: ps)) : Settled ps where
  closed := h.closed.of_cons
  kept q hq := h.kept q (List.mem_cons_of_mem _ hq)
  trimmed q hq := h.trimmed q (List.mem_cons_of_mem _ hq)
  nonempty q hq := h.nonempty q (List.mem_cons_of_mem _ hq)

theorem singleton (h : Settled ps) (hp : p ∈ ps) : Settled [p] where
  closed := List.pairwise_singleton ..
  kept := by simpa using h.kept p hp
  trimmed := by simpa using h.trimmed p hp
  nonempty := by simpa using h.nonempty p hp

theorem of_segmented (h : Segmented .text ps) :
    Settled ((ps.map Text.trim).filter fun part => !part.isEmpty) where
  closed := by
    apply List.Pairwise.filter
    rw [List.pairwise_map]
    exact h.pairwise.imp Keeps.trim
  kept p hp := by
    obtain ⟨q, hq, rfl⟩ := List.mem_map.mp (List.mem_of_mem_filter hp)
    obtain ⟨m, hkept⟩ := h.keeps hq
    exact ⟨m, hkept.trim⟩
  trimmed p hp := by
    obtain ⟨q, -, rfl⟩ := List.mem_map.mp (List.mem_of_mem_filter hp)
    exact trim_trim q
  nonempty p hp := by
    simpa using (List.mem_filter.mp hp).2

/-- Joined by semicolons, the statements are the segments of what they make. -/
theorem segments_intercalate (h : Settled (p :: ps)) :
    segments (scan .text ([';'].intercalate (p :: ps))) = p :: ps := by
  induction ps generalizing p with
  | nil =>
      obtain ⟨m, hkept⟩ := h.kept p List.mem_cons_self
      simp [hkept.scan, segments_map_char]
  | cons q ps ih =>
      have hkept : Keeps .text p .text := List.rel_of_pairwise_cons h.closed List.mem_cons_self
      have hsemicolon : ∀ o ∈ openers, ∀ rest, (';' :: rest).head? ≠ some o.2 := by
        simp [openers]
      calc segments (scan .text ([';'].intercalate (p :: q :: ps)))
          = segments (scan .text (p ++ ';' :: [';'].intercalate (q :: ps))) := by
            rw [List.intercalate_cons_cons, List.append_assoc]
            rfl
        _ = segments (p.map .char ++ .separator :: scan .text ([';'].intercalate (q :: ps))) := by
            rw [hkept.scan_append fun o ho => hsemicolon o ho _]
            simp
        _ = p :: segments (scan .text ([';'].intercalate (q :: ps))) := segments_append_separator ..
        _ = p :: q :: ps := by rw [ih h.of_cons]

theorem statements_join (h : Settled ps) :
    statements (";".intercalate (ps.map String.ofList)) = ps.map String.ofList := by
  cases ps with
  | nil => rfl
  | cons p ps =>
      have hjoined : (";".intercalate ((p :: ps).map String.ofList)).toList =
          [';'].intercalate (p :: ps) := by
        rw [String.toList_intercalate, List.map_map]
        simp [Function.comp_def]
      have htrim : (p :: ps).map Text.trim = p :: ps :=
        (List.map_congr_left h.trimmed).trans (List.map_id' _)
      have hfilter : ((p :: ps).filter fun part => !part.isEmpty) = p :: ps :=
        List.filter_eq_self.mpr fun q hq => by simpa using h.nonempty q hq
      rw [statements, hjoined, h.segments_intercalate, trimmedSegments, htrim, hfilter]

end Settled

theorem exists_settled (script : String) :
    ∃ ps, Settled ps ∧ statements script = ps.map String.ofList :=
  ⟨_, .of_segmented (segmented_scan .text script.toList trivial), rfl⟩

/-- Cutting what a script was cut into gives the same statements, whether they are joined by
semicolons or taken one by one, and whatever the script leaves open at its end. No statement is
empty, and none begins or ends with a blank. -/
theorem statements_stay (script : String) :
    statements (";".intercalate (statements script)) = statements script ∧
      ∀ statement ∈ statements script, statements statement = [statement] ∧ statement ≠ "" ∧
        ∀ c, statement.toList.head? = some c ∨ statement.toList.getLast? = some c →
          isBlank c = false := by
  obtain ⟨ps, hsettled, hstatements⟩ := exists_settled script
  rw [hstatements]
  refine ⟨hsettled.statements_join, fun statement hstatement => ?_⟩
  obtain ⟨p, hp, rfl⟩ := List.mem_map.mp hstatement
  refine ⟨?_, ?_, ?_⟩
  · simpa using (hsettled.singleton hp).statements_join
  · simpa using hsettled.nonempty p hp
  · rw [String.toList_ofList, ← hsettled.trimmed p hp]
    rintro c (hc | hc)
    · exact not_isBlank_of_head?_trim hc
    · exact not_isBlank_of_getLast?_trim hc

end ScopedResources.Sql
