import ScopedResources.Url.Percent
import ScopedResources.Yaml.Cursor

/-!
# Scalars of YAML

A scalar is written plainly, between quotes, or as an indented block. A plain or quoted scalar may
go on over several lines: one end of a line between two parts counts as a space, and of several ends
of lines the first is left out. A block keeps its lines, or folds them in the same way. -/

namespace ScopedResources.Yaml

/-- What lies between two parts of a scalar. -/
structure Between where
  spaces : List Char := []
  /-- The first end of a line, if there is one; empty where it was escaped. -/
  first : Option (List Char) := none
  others : List Char := []

namespace Between

/-- What stands for the text between two parts. -/
def folded (b : Between) : List Char :=
  match b.first with
  | none => b.spaces
  | some ['\n'] => if b.others.isEmpty then [' '] else b.others
  | some first => first ++ b.others

/-- Reads spaces, tabs and ends of lines. Behind the end of a line a tab is refused in front of the
column `indent`, if one is given. -/
def read (indent : Option Nat) : Nat → Between → Cursor → Option (Between × Cursor)
  | 0, _, _ => none
  | fuel + 1, b, c =>
    if c.atGap then
      if b.first.isSome && c.sees '\t' && indent.any (c.column < ·) then none
      else
        let spaces := if b.first.isSome then b.spaces else b.spaces ++ c.rest.take 1
        read indent fuel { b with spaces } c.skip
    else if c.atBreak then
      let (text, next) := c.takeBreak
      read indent fuel
        (if b.first.isSome then { b with others := b.others ++ text }
          else { b with first := some text })
        next
    else some (b, c)

end Between

/-! ## Plain scalars -/

/-- The characters of a plain scalar up to the next blank or the next mark that ends it. Inside a
flow collection a colon in front of a mark is refused. -/
def plainRun? (inFlow : Bool) : List Char → Option (List Char)
  | [] => some []
  | c :: rest =>
    if isGap c || isBreak c then some []
    else if inFlow && c = ':' &&
      rest.head?.any [',', '?', '[', ']', '\x7b', '\x7d'].contains then none
    else if (c = ':' && rest.head?.all fun d => isGap d || isBreak d) ||
        (inFlow && [',', '[', ']', '\x7b', '\x7d'].contains c) then some []
    else (plainRun? inFlow rest).map (c :: ·)

/-- Reads a plain scalar whose further lines begin at the column `indent` or behind it. The result
tells whether the scalar is followed by the end of a line. -/
def scanPlain (inFlow : Bool) (indent : Nat) :
    Nat → List Char → Between → Cursor → Option (List Char × Bool × Cursor)
  | 0, _, _, _ => none
  | fuel + 1, text, before, c =>
    if c.atDocumentMark || c.sees '#' then some (text, before.first.isSome, c)
    else do
      let run ← plainRun? inFlow c.rest
      let (text, before) :=
        if run.isEmpty then (text, before) else (text ++ before.folded ++ run, {})
      let c := c.skip run.length
      if !(c.atGap || c.atBreak) then return (text, before.first.isSome, c)
      let (after, c) ← Between.read (some indent) (c.rest.length + 1) before c
      if !inFlow && c.column < indent then return (text, after.first.isSome, c)
      scanPlain inFlow indent fuel text after c

/-! ## Quoted scalars -/

/-- The character that a letter behind a backslash stands for. -/
def namedEscape? (c : Char) : Option Char :=
  [('0', Char.ofNat 0), ('a', Char.ofNat 7), ('b', Char.ofNat 8), ('t', '\t'), ('\t', '\t'),
    ('n', '\n'), ('v', Char.ofNat 11), ('f', Char.ofNat 12), ('r', '\r'), ('e', Char.ofNat 27),
    (' ', ' '), ('"', '"'), ('/', '/'), ('\\', '\\'), ('N', Char.ofNat 0x85),
    ('_', Char.ofNat 0xA0), ('L', Char.ofNat 0x2028), ('P', Char.ofNat 0x2029)].lookup c

/-- The number of hexadecimal digits behind a letter that announces them. -/
def escapeLength? (c : Char) : Option Nat :=
  [('x', 2), ('u', 4), ('U', 8)].lookup c

/-- The character with a number, unless the number belongs to none. -/
def charOfNumber? (n : Nat) : Option Char :=
  if n.isValidChar then some (Char.ofNat n) else none

/-- The character that stands behind a backslash, and how many characters it takes there. -/
def escape? : List Char → Option (Char × Nat)
  | [] => none
  | c :: rest =>
    match namedEscape? c, escapeLength? c with
    | some char, _ => some (char, 1)
    | none, some length => do
      let digits := rest.take length
      if digits.length < length then none
      let values ← digits.mapM Url.hexDigit?
      let char ← charOfNumber? (values.foldl (· * 16 + ·) 0)
      return (char, length + 1)
    | none, none => none

/-- A stretch of a quoted scalar without blanks. -/
structure QuotedRun where
  text : List Char
  /-- How many characters the stretch takes. -/
  length : Nat
  /-- Whether a backslash stands behind the stretch at the end of the line. -/
  escapedBreak : Bool := false

/-- The stretch with a character in front that takes `length` characters. -/
def QuotedRun.cons (char : Char) (length : Nat) (run : QuotedRun) : QuotedRun :=
  { run with text := char :: run.text, length := length + run.length }

/-- Reads characters up to the next blank or the closing quote. -/
def quotedRun? (quote : Char) (s : List Char) : Option QuotedRun :=
  match s with
  | [] => some ⟨[], 0, false⟩
  | c :: rest =>
    if isGap c || isBreak c then some ⟨[], 0, false⟩
    else if c = quote then
      match rest with
      | d :: rest =>
        if quote = '\'' && d = '\'' then (quotedRun? quote rest).map (·.cons '\'' 2)
        else some ⟨[], 0, false⟩
      | [] => some ⟨[], 0, false⟩
    else if quote = '"' && c = '\\' then
      if rest.head?.any isBreak then some ⟨[], 0, true⟩
      else
        match escape? rest with
        | none => none
        | some (char, length) =>
            (quotedRun? quote (rest.drop length)).map (·.cons char (length + 1))
    else (quotedRun? quote rest).map (·.cons c 1)
termination_by s.length
decreasing_by all_goals simp_wf; try omega

/-- Reads a quoted scalar from behind its opening quote, up to behind its closing quote. -/
def scanQuoted (quote : Char) : Nat → List Char → Cursor → Option (List Char × Cursor)
  | 0, _, _ => none
  | fuel + 1, text, c => do
    if c.atDocumentMark || c.atEnd then none
    let run ← quotedRun? quote c.rest
    let text := text ++ run.text
    let c := c.skip run.length
    let (start, c) : Between × Cursor :=
      if run.escapedBreak then ({ first := some [] }, c.skip.takeBreak.2) else ({}, c)
    if c.sees quote then return (text, c.skip)
    let (between, c) ← Between.read none (c.rest.length + 1) start c
    scanQuoted quote fuel (text ++ between.folded) c

/-! ## Blocks -/

/-- What becomes of the ends of lines behind a block. -/
inductive Chomping where
  | clip
  | strip
  | keep
  deriving DecidableEq

/-- Reads what stands between the mark of a block and the end of its line: how its end is treated,
and by how much it is indented. -/
def blockHeader? (c : Cursor) : Option (Chomping × Option Nat × Cursor) :=
  let chomping? (c : Cursor) : Option Chomping :=
    if c.sees '+' then some .keep else if c.sees '-' then some .strip else none
  let digit? (c : Cursor) : Option Nat :=
    c.peek?.bind fun d => if d.isDigit then some (d.toNat - 48) else none
  let checked (chomping : Chomping) (digit : Option Nat) (c : Cursor) :=
    if digit = some 0 then none else c.endLine?.map fun c => (chomping, digit, c)
  match chomping? c, digit? c with
  | some chomping, _ =>
    match digit? c.skip with
    | some digit => checked chomping (some digit) (c.skip 2)
    | none => checked chomping none c.skip
  | none, some digit =>
    match chomping? c.skip with
    | some chomping => checked chomping (some digit) (c.skip 2)
    | none => checked .clip (some digit) c.skip
  | none, none => checked .clip none c

/-- Reads the indentation of empty lines and their ends. The result holds the column of the block,
which is found out if it is not given, the ends of lines, and the cursor behind them. A tab is
refused where the indentation is still to go on. -/
def blockBreaks (outer : Int) (indent : Option Nat) :
    Nat → (deepest : Nat) → List Char → Cursor → Option (Nat × List Char × Cursor)
  | 0, _, _, _ => none
  | fuel + 1, deepest, breaks, c =>
    let room := match indent with
      | some n => n - c.column
      | none => c.rest.length
    let c := c.skip (((c.rest.take room).takeWhile (· = ' ')).length)
    let deepest := max deepest c.column
    if indent.all (c.column < ·) && c.sees '\t' then none
    else if c.atBreak then
      let (text, next) := c.takeBreak
      blockBreaks outer indent fuel deepest (breaks ++ text) next
    else
      let column := indent.getD (max deepest (max (outer + 1) 1).toNat)
      some (column, breaks, c)

/-- What the lines of a block have given so far. -/
structure BlockText where
  text : List Char := []
  /-- The end of the last line. -/
  lineEnd : List Char := []
  /-- The ends of the empty lines behind it. -/
  breaks : List Char := []
  /-- Whether the last line began with a blank. -/
  beganBlank : Bool := false

/-- The text of a block with what lies in front of its next line. -/
def BlockText.beforeLine (isFolded : Bool) (b : BlockText) (blankAhead : Bool) : List Char :=
  if isFolded && b.lineEnd = ['\n'] && !b.beganBlank && !blankAhead then
    b.text ++ (if b.breaks.isEmpty then [' '] else []) ++ b.breaks
  else b.text ++ b.lineEnd ++ b.breaks

/-- Reads the lines of a block that is indented to `column`. -/
def blockLines (isFolded : Bool) (outer : Int) (column : Nat) :
    Nat → BlockText → Cursor → Option (BlockText × Cursor)
  | 0, _, _ => none
  | fuel + 1, b, c =>
    if c.column = column && !c.atEnd then do
      let blank := c.atGap
      let (line, next) := c.takeRun fun char => !isBreak char
      let (lineEnd, next) := next.takeBreak
      let (_, breaks, next) ← blockBreaks outer (some column) (next.rest.length + 1) 0 [] next
      blockLines isFolded outer column fuel
        ⟨b.beforeLine isFolded blank ++ line, lineEnd, breaks, blank⟩ next
    else some (b, c)

/-- Reads a block from behind its mark. -/
def scanBlock? (isFolded : Bool) (outer : Int) (c : Cursor) : Option (List Char × Cursor) := do
  let (chomping, increment, c) ← blockHeader? c
  let indent := increment.map fun n => if 0 ≤ outer then outer.toNat + n else n
  let (column, breaks, c) ← blockBreaks outer indent (c.rest.length + 1) 0 [] c
  let (b, c) ← blockLines isFolded outer column (c.rest.length + 1) { breaks } c
  let tail := match chomping with
    | .strip => []
    | .clip => b.lineEnd
    | .keep => b.lineEnd ++ b.breaks
  return (b.text ++ tail, c)

end ScopedResources.Yaml
