import ScopedResources.Sql.Script
import Mathlib.Data.List.Infix

/-!
# The pieces of a statement

A statement is written in pieces: plain text, quoted literals, bodies between double dollar signs
and comments. What stands inside of a piece has no say in where the statement ends, so a literal may
hold what opens a comment, and a comment what opens a literal. Cutting a script of such statements
gives the statements back, with their comments replaced and trimmed. -/

namespace ScopedResources.Sql

/-- The pairs of characters that open a comment or a body. -/
def openers : List (Char × Char) :=
  [('-', '-'), ('/', '*'), ('$', '$')]

/-- The characters that end a statement or open a literal. -/
def delimiters : List Char :=
  [';', '\'', '"']

/-- A body with every quote of one kind written twice. -/
def doubled (quote : Char) (body : List Char) : List Char :=
  body.flatMap fun c => if c = quote then [c, c] else [c]

/-- A piece of a statement, by what stands between its delimiters. -/
inductive Piece where
  | plain (text : List Char) (undelimited : ∀ c ∈ text, c ∉ delimiters)
      (unopened : ∀ o ∈ openers, ¬ [o.1, o.2] <:+: text)
  | literal (quote : Char) (isQuote : quote = '\'' ∨ quote = '"') (body : List Char)
  | dollarBody (body : List Char) (unclosed : ¬ ['$', '$'] <:+: body)
      (last : body.getLast? ≠ some '$')
  | blockComment (body : List Char) (unclosed : ¬ ['*', '/'] <:+: body)
  | lineComment (body : List Char) (unclosed : '\n' ∉ body)

namespace Piece

/-- A piece as it is written. -/
def text : Piece → List Char
  | plain text _ _ => text
  | literal quote _ body => quote :: (doubled quote body ++ [quote])
  | dollarBody body _ _ => '$' :: '$' :: (body ++ ['$', '$'])
  | blockComment body _ => '/' :: '*' :: (body ++ ['*', '/'])
  | lineComment body _ => '-' :: '-' :: (body ++ ['\n'])

/-- What is left of a piece: a blank of a block comment, the end of the line of a line comment. -/
def kept : Piece → List Char
  | blockComment _ _ => [' ']
  | lineComment _ _ => ['\n']
  | piece => piece.text

/-- No plain piece forms an opener with the character behind it. -/
def Meets (next : Option Char) : Piece → Prop
  | plain text _ _ => ∀ o ∈ openers, text.getLast? = some o.1 → next ≠ some o.2
  | _ => True

end Piece

/-- Pieces one after another, as they are written. -/
def textOf (pieces : List Piece) : List Char :=
  pieces.flatMap Piece.text

/-- Every piece meets what is written behind it. -/
def Joined : List Piece → Prop
  | [] => True
  | piece :: rest => piece.Meets (textOf rest).head? ∧ Joined rest

/-- A statement in its pieces. -/
structure Statement where
  pieces : List Piece
  joined : Joined pieces

/-- What is left of a statement when its comments are gone. -/
def Statement.kept (statement : Statement) : List Char :=
  statement.pieces.flatMap Piece.kept

/-- Statements as they are written, each with a semicolon behind it. -/
def script (written : List Statement) : String :=
  String.ofList (written.flatMap fun statement => textOf statement.pieces ++ [';'])

/-! ## Pairs of neighbours -/

/-- A pair of neighbours stands neither in a text nor across its end. -/
def Lacks (pair : Char × Char) (body tail : List Char) : Prop :=
  ¬ [pair.1, pair.2] <:+: body ∧ (body.getLast? = some pair.1 → tail.head? ≠ some pair.2)

theorem Lacks.cons {pair : Char × Char} {c : Char} {body tail : List Char}
    (h : Lacks pair (c :: body) tail) :
    (c = pair.1 → (body ++ tail).head? ≠ some pair.2) ∧ Lacks pair body tail := by
  obtain ⟨hbody, hend⟩ := h
  refine ⟨?_, fun hwithin => hbody (hwithin.trans (List.infix_cons List.infix_rfl)), ?_⟩
  · rintro rfl hnext
    cases body with
    | nil => exact hend rfl hnext
    | cons d body =>
        obtain rfl : d = pair.2 := Option.some.inj hnext
        exact hbody ⟨[], body, rfl⟩
  · intro hlast
    cases body with
    | nil => cases hlast
    | cons d body => exact hend hlast

/-! ## Scanning one piece -/

attribute [simp] scan

/-- A character of plain text is a symbol of its own. -/
theorem scan_text_cons {c : Char} {rest : List Char} (hdelimiter : c ∉ delimiters)
    (hopener : ∀ o ∈ openers, c = o.1 → rest.head? ≠ some o.2) :
    scan .text (c :: rest) = .char c :: scan .text rest := by
  simp only [delimiters, List.mem_cons, List.not_mem_nil, or_false, not_or] at hdelimiter
  obtain ⟨hsemicolon, hsingle, hdouble⟩ := hdelimiter
  rw [scan.eq_5]
  · simp [hsemicolon, hsingle, hdouble]
  · rintro rest' rfl rfl
    exact hopener ('-', '-') (by simp [openers]) rfl rfl
  · rintro rest' rfl rfl
    exact hopener ('/', '*') (by simp [openers]) rfl rfl
  · rintro rest' rfl rfl
    exact hopener ('$', '$') (by simp [openers]) rfl rfl

theorem scan_plain {text rest : List Char} (hdelimiter : ∀ c ∈ text, c ∉ delimiters)
    (hopener : ∀ o ∈ openers, Lacks o text rest) :
    scan .text (text ++ rest) = text.map .char ++ scan .text rest := by
  induction text with
  | nil => rfl
  | cons c text ih =>
      rw [List.cons_append, scan_text_cons (hdelimiter c (List.mem_cons_self ..))
        fun o ho => (hopener o ho).cons.1]
      rw [ih (fun d hd => hdelimiter d (List.mem_cons_of_mem _ hd))
        fun o ho => (hopener o ho).cons.2]
      rfl

theorem scan_quote {quote : Char} (hquote : quote = '\'' ∨ quote = '"') (rest : List Char) :
    scan .text (quote :: rest) = .char quote :: scan (.literal quote) rest := by
  rcases hquote with rfl | rfl <;> simp

/-- A quote that closes a literal: if another quote follows, the literal goes on just as a new one
would begin. -/
theorem scan_closing_quote {quote : Char} (hquote : quote = '\'' ∨ quote = '"') (rest : List Char) :
    scan (.literal quote) (quote :: rest) = .char quote :: scan .text rest := by
  cases rest with
  | nil => simp
  | cons d rest =>
      rw [scan.eq_9]
      by_cases hd : d = quote
      · subst hd
        simp [scan_quote hquote]
      · simp [hd]

theorem scan_literal {quote : Char} (hquote : quote = '\'' ∨ quote = '"') (body rest : List Char) :
    scan (.literal quote) (doubled quote body ++ quote :: rest) =
      (doubled quote body ++ [quote]).map .char ++ scan .text rest := by
  induction body with
  | nil => exact scan_closing_quote hquote rest
  | cons c body ih =>
      have hdoubled : doubled quote (c :: body) =
          (if c = quote then [c, c] else [c]) ++ doubled quote body := rfl
      rw [hdoubled, List.append_assoc]
      by_cases hc : c = quote
      · subst hc
        simp [scan.eq_9, ih]
      · -- behind a character of the body comes at least the closing quote
        obtain ⟨d, after, hafter⟩ : ∃ d after, doubled quote body ++ quote :: rest = d :: after :=
          List.exists_cons_of_ne_nil (by simp)
        rw [hafter] at ih
        simp [hc, hafter, scan.eq_9, ih]

theorem scan_dollarBody {body rest : List Char} (h : Lacks ('$', '$') body ('$' :: '$' :: rest)) :
    scan .dollarBody (body ++ '$' :: '$' :: rest) =
      (body ++ ['$', '$']).map .char ++ scan .text rest := by
  induction body with
  | nil => exact scan.eq_11 rest
  | cons c body ih =>
      obtain ⟨hfirst, hbody⟩ := h.cons
      rw [List.cons_append, scan.eq_12, ih hbody]
      · rfl
      · intro rest' hc hnext
        exact hfirst hc (by rw [hnext]; rfl)

theorem scan_blockComment {body rest : List Char} (h : Lacks ('*', '/') body ('*' :: '/' :: rest)) :
    scan .blockComment (body ++ '*' :: '/' :: rest) = scan .text rest := by
  induction body with
  | nil => exact scan.eq_7 rest
  | cons c body ih =>
      obtain ⟨hfirst, hbody⟩ := h.cons
      rw [List.cons_append, scan.eq_8, ih hbody]
      intro rest' hc hnext
      exact hfirst hc (by rw [hnext]; rfl)

theorem scan_lineComment {body : List Char} (h : '\n' ∉ body) (rest : List Char) :
    scan .lineComment (body ++ '\n' :: rest) = .char '\n' :: scan .text rest := by
  induction body with
  | nil => simp
  | cons c body ih =>
      rw [List.mem_cons, not_or] at h
      rw [List.cons_append, scan.eq_6, if_neg (Ne.symm h.1), ih h.2]

/-- Whatever stands behind a piece, the symbols of the piece are what is kept of it. -/
theorem scan_piece (piece : Piece) {rest : List Char} (hmeets : piece.Meets rest.head?) :
    scan .text (piece.text ++ rest) = piece.kept.map .char ++ scan .text rest := by
  cases piece with
  | plain text undelimited unopened =>
      exact scan_plain undelimited fun o ho => ⟨unopened o ho, hmeets o ho⟩
  | literal quote isQuote body =>
      simp only [Piece.text, Piece.kept, List.cons_append, List.append_assoc, List.nil_append]
      rw [scan_quote isQuote, scan_literal isQuote]
      rfl
  | dollarBody body unclosed last =>
      simp only [Piece.text, Piece.kept, List.cons_append, List.append_assoc, List.nil_append]
      rw [scan.eq_4, scan_dollarBody ⟨unclosed, fun hlast => absurd hlast last⟩]
      rfl
  | blockComment body unclosed =>
      simp only [Piece.text, Piece.kept, List.cons_append, List.append_assoc, List.nil_append]
      rw [scan.eq_3, scan_blockComment ⟨unclosed, fun _ => by simp⟩]
      rfl
  | lineComment body unclosed =>
      simp only [Piece.text, Piece.kept, List.cons_append, List.append_assoc, List.nil_append]
      rw [scan.eq_2, scan_lineComment unclosed]
      rfl

/-! ## Scanning a script -/

theorem Piece.meets_append {piece : Piece} {pieces : List Piece} {rest : List Char}
    (hmeets : piece.Meets (textOf pieces).head?)
    (hrest : ∀ o ∈ openers, rest.head? ≠ some o.2) :
    piece.Meets (textOf pieces ++ rest).head? := by
  cases piece with
  | plain text undelimited unopened =>
      intro o ho hlast
      cases hpieces : textOf pieces with
      | nil => exact hrest o ho
      | cons c after =>
          have hnext := hmeets o ho hlast
          rw [hpieces] at hnext
          exact hnext
  | literal | dollarBody | blockComment | lineComment => exact trivial

/-- Behind the pieces may stand whatever closes no opener, a semicolon for one. -/
theorem scan_pieces {pieces : List Piece} (hjoined : Joined pieces) {rest : List Char}
    (hrest : ∀ o ∈ openers, rest.head? ≠ some o.2) :
    scan .text (textOf pieces ++ rest) =
      (pieces.flatMap Piece.kept).map .char ++ scan .text rest := by
  induction pieces with
  | nil => rfl
  | cons piece pieces ih =>
      obtain ⟨hmeets, hjoined⟩ := hjoined
      calc scan .text (textOf (piece :: pieces) ++ rest)
          = scan .text (piece.text ++ (textOf pieces ++ rest)) := by
            rw [textOf, List.flatMap_cons, List.append_assoc]
            rfl
        _ = piece.kept.map .char ++ scan .text (textOf pieces ++ rest) :=
            scan_piece piece (Piece.meets_append hmeets hrest)
        _ = ((piece :: pieces).flatMap Piece.kept).map .char ++ scan .text rest := by
            rw [ih hjoined, List.flatMap_cons, List.map_append, List.append_assoc]

theorem scan_statements (written : List Statement) :
    scan .text (written.flatMap fun statement => textOf statement.pieces ++ [';']) =
      written.flatMap fun statement => statement.kept.map .char ++ [.separator] := by
  induction written with
  | nil => rfl
  | cons statement written ih =>
      have hsemicolon : ∀ rest, scan .text (';' :: rest) = .separator :: scan .text rest := by
        intro rest
        simp
      rw [List.flatMap_cons, List.append_assoc, scan_pieces statement.joined, List.cons_append,
        hsemicolon, List.nil_append, ih, List.flatMap_cons, List.append_assoc]
      · rfl
      · simp [openers]

/-! ## Segments -/

theorem segments_append_separator (kept : List Char) (rest : List Symbol) :
    segments (kept.map .char ++ .separator :: rest) = kept :: segments rest := by
  induction kept with
  | nil => rfl
  | cons c kept ih =>
      rw [List.map_cons, List.cons_append, segments, ih]

theorem segments_flatMap (written : List Statement) :
    segments (written.flatMap fun statement => statement.kept.map .char ++ [.separator]) =
      written.map Statement.kept ++ [[]] := by
  induction written with
  | nil => rfl
  | cons statement written ih =>
      rw [List.flatMap_cons, List.append_assoc, List.singleton_append,
        segments_append_separator, ih]
      rfl

/-- Trimming the segments and leaving out the blank ones, said of texts. -/
theorem trimmedSegments_eq (parts : List (List Char)) :
    trimmedSegments parts =
      (parts.map fun part => Text.trimmed (String.ofList part)).filter (· ≠ "") := by
  induction parts with
  | nil => rfl
  | cons part parts ih =>
      unfold trimmedSegments at ih ⊢
      have htrimmed : Text.trimmed (String.ofList part) = String.ofList (Text.trim part) := by
        rw [Text.trimmed, String.toList_ofList]
      rw [List.map_cons, List.map_cons, htrimmed]
      cases hpart : Text.trim part with
      | nil => simpa using ih
      | cons c rest => simpa using ih

/-- Cutting a script of statements, each with a semicolon behind it, gives back what is left of them
when their comments are gone, trimmed and without those that are blank. Literals and bodies stay as
they are written, whatever stands in them. -/
theorem statements_script (written : List Statement) :
    statements (script written) =
      (written.map fun statement => Text.trimmed (String.ofList statement.kept)).filter
        (· ≠ "") := by
  rw [statements, script, String.toList_ofList, scan_statements, segments_flatMap,
    trimmedSegments_eq, List.map_append, List.filter_append, List.map_map]
  simp [Text.trimmed, Text.trim, Function.comp_def]

end ScopedResources.Sql
