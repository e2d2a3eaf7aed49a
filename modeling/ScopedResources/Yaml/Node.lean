import ScopedResources.Assoc
import ScopedResources.Yaml.Token.Scan

/-!
# Nodes of YAML

The tokens of a text form one tree of nodes: scalars, sequences and mappings. An alias stands for
the node with the anchor that it names. A text without a document is read like one with an empty
scalar, and a second document is refused.

Anchors are numbered by the names that are known when the anchor is met, so two anchors get the same
number where a name was used again in between; the later one then stands for both.
-/

namespace ScopedResources.Yaml

/-- A node. Tags of sequences and mappings play no part. -/
inductive Node where
  | scalar (tag : Option String) (style : Style) (text : String)
  | sequence (items : List Node)
  | mapping (entries : List (Node × Node))
  | aliasOf (number : Nat)
  deriving Inhabited

/-- The node that stands where nothing is written. -/
def Node.empty : Node := .scalar none .plain ""

/-- What is known while nodes are read. -/
structure NodeReader where
  tokens : List Token
  /-- What the handles of tags stand for. -/
  handles : Assoc String String := []
  /-- The numbers of the anchors by name. -/
  anchors : Assoc String Nat := []
  /-- The anchored nodes by number, in the order in which they begin. -/
  anchored : List (Nat × Node) := []

namespace NodeReader

/-- A step that reads nodes and may fail. -/
abbrev Step := StateT NodeReader Option

def peek : Step Token := do
  match (← get).tokens with
  | token :: _ => return token
  | [] => failure

def advance : Step Unit :=
  modify fun s => { s with tokens := s.tokens.drop 1 }

def expect (token : Token) : Step Unit := do
  if (← peek) = token then advance else failure

/-- Gives a number to an anchor. The result is the place of its node. -/
def openAnchor (name : String) : Step Nat := do
  let s ← get
  let number := s.anchors.length
  set { s with
    anchors := Assoc.insert name number s.anchors
    anchored := s.anchored ++ [(number, Node.empty)] }
  return s.anchored.length

/-- Notes the node at the place of an anchor. -/
def closeAnchor (place : Option Nat) (node : Node) : Step Node := do
  match place with
  | none => pure ()
  | some i => modify fun s =>
    { s with anchored := s.anchored.modify i fun (number, _) => (number, node) }
  return node

/-- The whole tag of a handle and a suffix. -/
def resolveTag (handle suffix : String) : Step String := do
  if handle.isEmpty then return suffix
  match Assoc.find? handle (← get).handles with
  | some start => return start ++ suffix
  | none => failure

/-- Reads the anchor and the tag in front of a node, in any order. -/
def properties : Step (Option Nat × Option String) := do
  match (← peek) with
  | .anchor name =>
    advance
    let place ← openAnchor name
    match (← peek) with
    | .tag handle suffix => advance; return (some place, some (← resolveTag handle suffix))
    | _ => return (some place, none)
  | .tag handle suffix =>
    advance
    match (← peek) with
    | .anchor name =>
      advance
      let tag ← resolveTag handle suffix
      return (some (← openAnchor name), some tag)
    | _ => return (none, some (← resolveTag handle suffix))
  | _ => return (none, none)

def endsBlockEntry (token : Token) : Bool :=
  [Token.key, .value, .blockEnd].contains token

/-- Whether a token ends the key of a pair in a flow sequence. -/
def endsPairKey (token : Token) : Bool :=
  [Token.value, .flowEntry, .flowSequenceEnd].contains token

mutual

/-- Reads a node. Blocks, and sequences that are not indented, may begin only at some places. -/
def node : Nat → (inBlock indentless : Bool) → Step Node
  | 0, _, _ => failure
  | fuel + 1, inBlock, indentless => do
    if let .aliasOf name := (← peek) then
      advance
      match Assoc.find? name (← get).anchors with
      | some number => return .aliasOf number
      | none => failure
    else
      let (place, tag) ← properties
      let token ← peek
      if indentless && token = .blockEntry then
        closeAnchor place (.sequence (← indentlessItems fuel))
      else match token with
        | .scalar style text =>
          advance
          closeAnchor place (.scalar tag style text)
        | .flowSequenceStart =>
          advance
          closeAnchor place (.sequence (← flowItems fuel true))
        | .flowMappingStart =>
          advance
          closeAnchor place (.mapping (← flowEntries fuel true))
        | token =>
          if inBlock && token = .blockSequenceStart then
            advance
            closeAnchor place (.sequence (← blockItems fuel))
          else if inBlock && token = .blockMappingStart then
            advance
            closeAnchor place (.mapping (← blockEntries fuel))
          else if place.isSome || tag.isSome then closeAnchor place (.scalar tag .plain "")
          else failure

/-- Reads a node of a block unless the next token ends its entry. -/
def nodeUnless : Nat → (Token → Bool) → (inBlock indentless : Bool) → Step Node
  | 0, _, _, _ => failure
  | fuel + 1, isEnd, inBlock, indentless => do
    if isEnd (← peek) then return .empty else node fuel inBlock indentless

def blockItems : Nat → Step (List Node)
  | 0 => failure
  | fuel + 1 => do
    match (← peek) with
    | .blockEntry =>
      advance
      let item ← nodeUnless fuel (fun t => t = .blockEntry || t = .blockEnd) true false
      return item :: (← blockItems fuel)
    | .blockEnd => advance; return []
    | _ => failure

def indentlessItems : Nat → Step (List Node)
  | 0 => failure
  | fuel + 1 => do
    match (← peek) with
    | .blockEntry =>
      advance
      let item ← nodeUnless fuel (fun t => t = .blockEntry || endsBlockEntry t) true false
      return item :: (← indentlessItems fuel)
    | _ => return []

def blockEntries : Nat → Step (List (Node × Node))
  | 0 => failure
  | fuel + 1 => do
    match (← peek) with
    | .key =>
      advance
      let key ← nodeUnless fuel endsBlockEntry true true
      let value ← blockValue fuel
      return (key, value) :: (← blockEntries fuel)
    | .blockEnd => advance; return []
    | _ => failure

/-- Reads the value behind a key in block form; it may be missing. -/
def blockValue : Nat → Step Node
  | 0 => failure
  | fuel + 1 => do
    match (← peek) with
    | .value => advance; nodeUnless fuel endsBlockEntry true true
    | _ => return .empty

def flowItems : Nat → (isFirst : Bool) → Step (List Node)
  | 0, _ => failure
  | fuel + 1, isFirst => do
    if (← peek) = .flowSequenceEnd then advance; return []
    if !isFirst then expect .flowEntry
    match (← peek) with
    | .flowSequenceEnd => advance; return []
    | .key =>
      advance
      let pair ← flowPair fuel
      return .mapping [pair] :: (← flowItems fuel false)
    | _ =>
      let item ← node fuel false false
      return item :: (← flowItems fuel false)

/-- Reads a single pair in a flow sequence. Where the key is missing the next token is lost. -/
def flowPair : Nat → Step (Node × Node)
  | 0 => failure
  | fuel + 1 => do
    let key ← do
      if endsPairKey (← peek) then advance; pure Node.empty
      else node fuel false false
    match (← peek) with
    | .value =>
      advance
      let value ← nodeUnless fuel (fun t => t = .flowEntry || t = .flowSequenceEnd) false false
      return (key, value)
    | _ => return (key, .empty)

def flowEntries : Nat → (isFirst : Bool) → Step (List (Node × Node))
  | 0, _ => failure
  | fuel + 1, isFirst => do
    if (← peek) = .flowMappingEnd then advance; return []
    if !isFirst then expect .flowEntry
    match (← peek) with
    | .flowMappingEnd => advance; return []
    | .key =>
      advance
      let key ← nodeUnless fuel
        (fun t => t = .value || t = .flowEntry || t = .flowMappingEnd) false false
      let value ← flowValue fuel
      return (key, value) :: (← flowEntries fuel false)
    | _ =>
      let key ← node fuel false false
      return (key, .empty) :: (← flowEntries fuel false)

/-- Reads the value behind a key in a flow mapping; it may be missing. -/
def flowValue : Nat → Step Node
  | 0 => failure
  | fuel + 1 => do
    match (← peek) with
    | .value =>
      advance
      nodeUnless fuel (fun t => t = .flowEntry || t = .flowMappingEnd) false false
    | _ => return .empty

end

/-- The handles that need no directive. -/
def commonHandles : Assoc String String :=
  [("!", "!"), ("!!", "tag:yaml.org,2002:")]

def directives : (hasVersion : Bool) → List Token → Step Unit
  | hasVersion, .versionDirective major minor :: rest => do
    if hasVersion || major ≠ 1 || (minor ≠ 1 && minor ≠ 2) then failure
    advance
    directives true rest
  | hasVersion, .tagDirective handle start :: rest => do
    let s ← get
    if Assoc.contains handle s.handles then failure
    set { s with handles := Assoc.insert handle start s.handles }
    advance
    directives hasVersion rest
  | _, _ => pure ()

def isBetweenDocuments : Token → Bool
  | .versionDirective _ _ | .tagDirective _ _ | .documentStart | .documentEnd | .streamEnd => true
  | _ => false

/-- Passes over the ends of a document; nothing may follow them. -/
def finish : List Token → Option Unit
  | .documentEnd :: rest => finish rest
  | [.streamEnd] => some ()
  | _ => none

def document (fuel : Nat) : Step Node := do
  let first ← peek
  if first = .streamEnd then return .empty
  if isBetweenDocuments first && first ≠ .documentEnd then
    -- the beginning of the document is marked, and directives may stand in front of it
    directives false (← get).tokens
    expect .documentStart
    modify fun s => { s with
      handles := s.handles ++ commonHandles.filter fun h => !Assoc.contains h.1 s.handles }
    let root ← if isBetweenDocuments (← peek) then pure .empty else node fuel true false
    finish (← get).tokens
    return root
  else
    modify fun s => { s with handles := commonHandles }
    let root ← node fuel true false
    finish (← get).tokens
    return root

end NodeReader

/-- A document: its outermost node and the nodes that aliases stand for. -/
structure Document where
  root : Node
  anchored : List (Nat × Node) := []

/-- The node that an alias stands for, and any other node itself. -/
def Document.target (d : Document) : Node → Node
  | .aliasOf number => ((d.anchored.reverse.find? (·.1 = number)).map Prod.snd).getD .empty
  | node => node

def document? (text : String) : Option Document := do
  let tokens ← tokens? text
  let (root, s) ← (NodeReader.document (4 * tokens.length + 4)).run { tokens }
  return { root, anchored := s.anchored }

end ScopedResources.Yaml
