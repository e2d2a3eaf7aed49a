import ScopedResources.Url.Percent

/-!
# Texts of TOML

Spaces, comments and ends of lines, and the four ways to write a text: between double quotes with
escapes, between single quotes as it is, and either of them over several lines between three quotes.
A function that reads something gives what was read and the rest of the input, or nothing where the
input is wrong.
-/

namespace ScopedResources.Toml

def isSpace (c : Char) : Bool :=
  c = ' ' || c = '\t'

/-- Whether a character is a control that may stand nowhere but at the end of a line. -/
def isControl (c : Char) : Bool :=
  (c.toNat < 0x20 && c ≠ '\t') || c.toNat = 0x7F

def skipSpaces (s : List Char) : List Char :=
  s.dropWhile isSpace

/-- The input behind the end of a line, if one stands here. -/
def afterNewline? : List Char → Option (List Char)
  | '\n' :: rest | '\r' :: '\n' :: rest => some rest
  | _ => none

/-- The input behind the end of the line, with nothing before it but spaces and a comment. -/
def endLine? (inComment : Bool) : List Char → Option (List Char)
  | [] => some []
  | '\n' :: rest | '\r' :: '\n' :: rest => some rest
  | c :: rest =>
    if inComment then if isControl c then none else endLine? true rest
    else if isSpace c then endLine? false rest
    else if c = '#' then endLine? true rest
    else none

/-- The input behind spaces, comments and ends of lines. -/
def skipLines? (inComment : Bool) : List Char → Option (List Char)
  | [] => some []
  | '\n' :: rest | '\r' :: '\n' :: rest => skipLines? false rest
  | c :: rest =>
    if inComment then if isControl c then none else skipLines? true rest
    else if isSpace c then skipLines? false rest
    else if c = '#' then skipLines? true rest
    else some (c :: rest)

/-- The character that a letter behind a backslash stands for. -/
def namedEscape? (c : Char) : Option Char :=
  [('b', Char.ofNat 8), ('t', '\t'), ('n', '\n'), ('f', Char.ofNat 12), ('r', '\r'),
    ('e', Char.ofNat 27), ('"', '"'), ('\\', '\\')].lookup c

/-- The number of hexadecimal digits behind a letter that announces them. -/
def escapeLength? (c : Char) : Option Nat :=
  [('x', 2), ('u', 4), ('U', 8)].lookup c

/-- The character that stands behind a backslash, and how many characters it takes there. -/
def escape? : List Char → Option (Char × Nat)
  | [] => none
  | c :: rest =>
    match namedEscape? c, escapeLength? c with
    | some char, _ => some (char, 1)
    | none, some length => do
      let digits := rest.take length
      if digits.length < length then none
      let values ← digits.mapM Url.hexDigit?
      let number := values.foldl (· * 16 + ·) 0
      if number.isValidChar then some (Char.ofNat number, length + 1) else none
    | none, none => none

/-- Reads a text with escapes from behind its opening quote. -/
def basicText? (s : List Char) : Option (List Char × List Char) :=
  match s with
  | [] => none
  | '"' :: rest => some ([], rest)
  | '\\' :: rest =>
    match escape? rest with
    | none => none
    | some (char, length) =>
      (basicText? (rest.drop length)).map fun (text, rest) => (char :: text, rest)
  | c :: rest =>
    if isControl c then none else (basicText? rest).map fun (text, rest) => (c :: text, rest)
termination_by s.length
decreasing_by all_goals simp_wf; try omega

/-- Reads a text without escapes from behind its opening quote. -/
def literalText? : List Char → Option (List Char × List Char)
  | [] => none
  | '\'' :: rest => some ([], rest)
  | c :: rest =>
    if isControl c then none else (literalText? rest).map fun (text, rest) => (c :: text, rest)

/-- The input without one end of a line in front. -/
def dropNewline (s : List Char) : List Char :=
  (afterNewline? s).getD s

/-- The input behind spaces and ends of lines. -/
def dropIndent : List Char → List Char
  | '\r' :: '\n' :: rest => dropIndent rest
  | c :: rest => if isSpace c || c = '\n' then dropIndent rest else c :: rest
  | [] => []

/-- What three quotes or more end a text with: up to two of them belong to the text. -/
def closeLines (quote : Char) (s : List Char) : List Char × List Char :=
  let extra := (((s.drop 3).take 2).takeWhile (· = quote)).length
  (List.replicate extra quote, s.drop (3 + extra))

theorem length_dropIndent_le (s : List Char) : (dropIndent s).length ≤ s.length := by
  fun_induction dropIndent s <;> simp_all <;> omega

/-- Reads a text of several lines with escapes from behind its opening quotes. A backslash at the
end of a line leaves out the end and the spaces behind it. -/
def basicLines? (s : List Char) : Option (List Char × List Char) :=
  match s with
  | [] => none
  | '"' :: '"' :: '"' :: rest => some (closeLines '"' ('"' :: '"' :: '"' :: rest))
  | '\\' :: rest =>
    match afterNewline? (skipSpaces rest) with
    | some _ => basicLines? (dropIndent rest)
    | none =>
      match escape? rest with
      | none => none
      | some (char, length) =>
        (basicLines? (rest.drop length)).map fun (text, rest) => (char :: text, rest)
  | '\n' :: rest => (basicLines? rest).map fun (text, rest) => ('\n' :: text, rest)
  | '\r' :: '\n' :: rest => (basicLines? rest).map fun (text, rest) => ('\r' :: '\n' :: text, rest)
  | c :: rest =>
    if isControl c then none else (basicLines? rest).map fun (text, rest) => (c :: text, rest)
termination_by s.length
decreasing_by
  · have := length_dropIndent_le rest
    simp only [List.length_cons]
    omega
  all_goals
    simp only [List.length_cons, List.length_drop]
    omega

/-- Reads a text of several lines without escapes from behind its opening quotes. -/
def literalLines? : List Char → Option (List Char × List Char)
  | [] => none
  | '\'' :: '\'' :: '\'' :: rest => some (closeLines '\'' ('\'' :: '\'' :: '\'' :: rest))
  | '\n' :: rest => (literalLines? rest).map fun (text, rest) => ('\n' :: text, rest)
  | '\r' :: '\n' :: rest => (literalLines? rest).map fun (text, rest) =>
      ('\r' :: '\n' :: text, rest)
  | c :: rest =>
    if isControl c then none else (literalLines? rest).map fun (text, rest) => (c :: text, rest)

/-- Reads a text on one line, in any form. -/
def lineText? : List Char → Option (List Char × List Char)
  | '"' :: rest => basicText? rest
  | '\'' :: rest => literalText? rest
  | _ => none

def text? : List Char → Option (List Char × List Char)
  | '"' :: '"' :: '"' :: rest => basicLines? (dropNewline rest)
  | '\'' :: '\'' :: '\'' :: rest => literalLines? (dropNewline rest)
  | s => lineText? s

end ScopedResources.Toml
