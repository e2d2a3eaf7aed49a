import ScopedResources.Yaml.Token.Scalar
import ScopedResources.Yaml.Token.Tag

/-!
# Reading the tokens of YAML

The tokens of a text are read from left to right. Only the colon behind a node shows that the node
was a key, so the place of every node that might be one is remembered, and the token that announces
a key is put there later. Such a node has at most 1024 characters and stands on one line. -/

namespace ScopedResources.Yaml

/-- A node that may turn out to be a key. -/
structure Candidate where
  /-- The number of tokens in front of the node. -/
  position : Nat
  index : Nat
  line : Nat
  column : Nat
  /-- Whether the node stands where nothing but a key may stand. -/
  required : Bool

/-- The longest text of a node that is a key without being announced. -/
def maxKeyLength : Nat := 1024

/-- What is known while tokens are read. -/
structure Scanner where
  cursor : Cursor
  /-- The tokens read so far, the last one first. -/
  tokens : List Token := []
  /-- The column of the innermost block, or -1 outside of all. -/
  indent : Int := -1
  /-- The columns of the blocks around it. -/
  outer : List Int := []
  /-- The possible keys: of the innermost flow collection first, and of the blocks last. -/
  candidates : List (Option Candidate) := [none]
  /-- Whether a key may begin here. -/
  keyAllowed : Bool := true

namespace Scanner

def inFlow (s : Scanner) : Bool :=
  1 < s.candidates.length

/-- The scanner with one more token, and with the cursor behind it. -/
def emit (s : Scanner) (token : Token) (cursor : Cursor) : Scanner :=
  { s with tokens := token :: s.tokens, cursor }

/-- The scanner with a token put behind the first `position` ones. -/
def insert (s : Scanner) (position : Nat) (token : Token) : Scanner :=
  let later := s.tokens.length - position
  { s with tokens := s.tokens.take later ++ token :: s.tokens.drop later }

/-- Begins a block at a column that lies deeper than the current one. The token is put behind the
first `position` ones. -/
def openBlock (s : Scanner) (column position : Nat) (token : Token) : Scanner :=
  if s.inFlow || (column : Int) ≤ s.indent then s
  else { s.insert position token with indent := column, outer := s.indent :: s.outer }

/-- Ends the blocks that lie deeper than a column. -/
def closeBlocks (column : Int) : List Int → Scanner → Scanner
  | [], s => s
  | next :: outer, s =>
    if column < s.indent then
      closeBlocks column outer
        { s with tokens := .blockEnd :: s.tokens, indent := next, outer }
    else s

/-- Ends the blocks that lie deeper than a column; inside a flow collection columns say nothing. -/
def unroll (s : Scanner) (column : Int) : Scanner :=
  if s.inFlow then s else closeBlocks column s.outer s

/-- Forgets the possible key at this level; one that must be a key is missed. -/
def dropCandidate? (s : Scanner) : Option Scanner :=
  match s.candidates with
  | some candidate :: rest =>
    if candidate.required then none else some { s with candidates := none :: rest }
  | _ => some s

/-- Forgets the possible keys that are too long or on an earlier line. -/
def dropStale? (s : Scanner) : Option Scanner := do
  let candidates ← s.candidates.mapM fun
    | none => some none
    | some candidate =>
      if candidate.line < s.cursor.line || candidate.index + maxKeyLength < s.cursor.index then
        if candidate.required then none else some none
      else some (some candidate)
  return { s with candidates }

def saveCandidate? (s : Scanner) : Option Scanner :=
  if s.keyAllowed then do
    let s ← s.dropCandidate?
    let candidate : Candidate := {
      position := s.tokens.length, index := s.cursor.index, line := s.cursor.line
      column := s.cursor.column
      required := !s.inFlow && s.indent = s.cursor.column }
    return { s with candidates := some candidate :: s.candidates.drop 1 }
  else some s

/-- Reads spaces, comments and ends of lines up to the next token. Tabs are passed over where no key
may begin, and a byte order mark at the start of a line. -/
def toNextToken : Nat → Scanner → Scanner
  | 0, s => s
  | fuel + 1, s =>
    let c := s.cursor
    let c := if c.column = 0 && c.sees byteOrderMark then c.skip else c
    let c := (c.takeRun fun char => char = ' ' || (char = '\t' && (s.inFlow || !s.keyAllowed))).2
    let c := c.skipComment
    if c.atBreak then
      toNextToken fuel
        { s with cursor := c.takeBreak.2, keyAllowed := if s.inFlow then s.keyAllowed else true }
    else { s with cursor := c }

def openFlow? (s : Scanner) (token : Token) : Option Scanner := do
  let s ← s.saveCandidate?
  return { s.emit token s.cursor.skip with candidates := none :: s.candidates, keyAllowed := true }

def closeFlow? (s : Scanner) (token : Token) : Option Scanner := do
  let s ← s.dropCandidate?
  return { s.emit token s.cursor.skip with
    candidates := if s.inFlow then s.candidates.drop 1 else s.candidates
    keyAllowed := false }

/-- Reads a mark that stands in front of an item or a key of a block. -/
def blockMark? (s : Scanner) (start token : Token) (keyAllowed : Bool) : Option Scanner := do
  if !s.inFlow && !s.keyAllowed then none
  let s := s.openBlock s.cursor.column s.tokens.length start
  let s ← s.dropCandidate?
  return { s.emit token s.cursor.skip with keyAllowed }

def valueMark? (s : Scanner) : Option Scanner :=
  match s.candidates with
  | some candidate :: rest =>
    -- the node in front was a key, which is announced where it began
    let s := s.insert candidate.position .key
    let s := s.openBlock candidate.column candidate.position .blockMappingStart
    some { s.emit .value s.cursor.skip with candidates := none :: rest, keyAllowed := false }
  | _ =>
    -- a value whose key is empty, or was announced by a mark
    if !s.inFlow && !s.keyAllowed then none
    else
      let s := s.openBlock s.cursor.column s.tokens.length .blockMappingStart
      some { s.emit .value s.cursor.skip with keyAllowed := !s.inFlow }

/-- Reads a token that begins in the first column and ends all blocks. -/
def outermost? (s : Scanner) (read : Cursor → Option (Token × Cursor)) : Option Scanner := do
  let s ← (s.unroll (-1)).dropCandidate?
  let (token, c) ← read s.cursor
  return { s.emit token c with keyAllowed := false }

/-- Reads a node, or what stands in front of one. -/
def nodePart? (s : Scanner) (read : Cursor → Option (Token × Cursor)) : Option Scanner := do
  let s ← s.saveCandidate?
  let (token, c) ← read s.cursor
  return { s.emit token c with keyAllowed := false }

/-- Reads a plain scalar. A key may follow it on the next line. -/
def plainScalar? (s : Scanner) : Option Scanner := do
  let s ← s.saveCandidate?
  let (text, brokeLine, c) ←
    scanPlain s.inFlow (s.indent + 1).toNat (s.cursor.rest.length + 2) [] {} s.cursor
  return { s.emit (.scalar .plain (String.ofList text)) c with keyAllowed := brokeLine }

def blockScalar? (s : Scanner) (style : Style) : Option Scanner := do
  let s ← s.dropCandidate?
  let (text, c) ← scanBlock? (style = .folded) s.indent s.cursor.skip
  return { s.emit (.scalar style (String.ofList text)) c with keyAllowed := true }

def quotedScalar? (s : Scanner) (style : Style) (quote : Char) : Option Scanner :=
  s.nodePart? fun c => do
    let (text, c) ← scanQuoted quote (c.rest.length + 2) [] c.skip
    return (.scalar style (String.ofList text), c)

def atPlain (s : Scanner) : Bool :=
  let c := s.cursor
  let isMark := c.peek?.any ['-', '?', ':', ',', '[', ']', '\x7b', '\x7d', '#', '&', '*', '!', '|',
    '>', '\'', '"', '%', '@', '`'].contains
  !(c.atBlank || isMark) || (c.sees '-' && !(c.peek? 1).any isGap) ||
    (!s.inFlow && (c.sees '?' || c.sees ':') && !c.atBlank 1)

/-- Reads the token that begins with a character. -/
def token? (s : Scanner) (char : Char) : Option Scanner :=
  let c := s.cursor
  if c.column = 0 && char = '%' then s.outermost? scanDirective?
  else if c.atDocumentMark then
    s.outermost? fun c => some (if char = '-' then .documentStart else .documentEnd, c.skip 3)
  else if char = '[' then s.openFlow? .flowSequenceStart
  else if char = '\x7b' then s.openFlow? .flowMappingStart
  else if char = ']' then s.closeFlow? .flowSequenceEnd
  else if char = '\x7d' then s.closeFlow? .flowMappingEnd
  else if char = ',' then
    s.dropCandidate?.map fun s => { s.emit .flowEntry s.cursor.skip with keyAllowed := true }
  else if char = '-' && c.atBlank 1 then
    if s.inFlow then
      s.dropCandidate?.map fun s => { s.emit .blockEntry s.cursor.skip with keyAllowed := true }
    else s.blockMark? .blockSequenceStart .blockEntry true
  else if char = '?' && (s.inFlow || c.atBlank 1) then
    s.blockMark? .blockMappingStart .key (!s.inFlow)
  else if char = ':' && (s.inFlow || c.atBlank 1) then s.valueMark?
  else if char = '*' then
    s.nodePart? fun c => (scanAnchorName? c).map fun (name, c) => (.aliasOf name, c)
  else if char = '&' then
    s.nodePart? fun c => (scanAnchorName? c).map fun (name, c) => (.anchor name, c)
  else if char = '!' then s.nodePart? (scanTag? s.inFlow)
  else if char = '|' && !s.inFlow then s.blockScalar? .literal
  else if char = '>' && !s.inFlow then s.blockScalar? .folded
  else if char = '\'' then s.quotedScalar? .singleQuoted '\''
  else if char = '"' then s.quotedScalar? .doubleQuoted '"'
  else if s.atPlain then s.plainScalar?
  else none

def run? : Nat → Scanner → Option (List Token)
  | 0, _ => none
  | fuel + 1, s => do
    let s ← (toNextToken (s.cursor.rest.length + 1) s).dropStale?
    let s := s.unroll s.cursor.column
    match s.cursor.peek? with
    | some char => run? fuel (← s.token? char)
    | none =>
      let s ← (s.unroll (-1)).dropCandidate?
      return (Token.streamEnd :: s.tokens).reverse

end Scanner

def tokens? (text : String) : Option (List Token) :=
  let chars := match text.toList with
    | c :: rest => if c = byteOrderMark then rest else c :: rest
    | [] => []
  if chars.all isAllowed then
    Scanner.run? (chars.length + 2) { cursor := ⟨chars, 0, 0, 0⟩ }
  else none

end ScopedResources.Yaml
