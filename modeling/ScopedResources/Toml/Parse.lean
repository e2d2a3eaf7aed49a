import ScopedResources.Toml.Scalar
import ScopedResources.Toml.Table

/-!
# Documents in TOML

A document is a row of lines: pairs of a key and a value, and headers that say to which table the
pairs behind them belong. Lists and tables between brackets may go on over several lines, and nest
at most 80 deep. -/

namespace ScopedResources.Toml

open Document (Value)

def isKeyChar (c : Char) : Bool :=
  c.isAlphanum || c = '_' || c = '-'

def keyPart? (s : List Char) : Option (String × List Char) :=
  match lineText? s with
  | some (text, rest) => some (String.ofList text, rest)
  | none =>
    let name := s.takeWhile isKeyChar
    if name.isEmpty then none else some (String.ofList name, s.drop name.length)

/-- Reads the parts of a key between dots, and the spaces behind it. -/
def keyParts? : Nat → List Char → Option (List String × List Char)
  | 0, _ => none
  | fuel + 1, s => do
    let (part, rest) ← keyPart? (skipSpaces s)
    match skipSpaces rest with
    | '.' :: rest =>
      let (parts, rest) ← keyParts? fuel rest
      return (part :: parts, rest)
    | rest => return ([part], rest)

/-- Reads a key: the keys of the tables that lead to it, its own last part, and the spaces behind
it. -/
def key? (s : List Char) : Option (List String × String × List Char) := do
  let (parts, rest) ← keyParts? (s.length + 1) s
  let last ← parts.getLast?
  return (parts.dropLast, last, rest)

/-- The most lists and tables that lie inside each other. -/
def maxNesting : Nat := 80

mutual

/-- Reads a value that may hold `nesting` lists and tables inside each other. -/
def value? : Nat → (nesting : Nat) → List Char → Option (Value × List Char)
  | 0, _, _ => none
  | fuel + 1, nesting, s =>
    match s with
    | '"' :: _ | '\'' :: _ => (text? s).map fun (text, rest) => (.text (String.ofList text), rest)
    | '[' :: rest =>
      match nesting with
      | 0 => none
      | nesting + 1 => (listItems? fuel nesting rest).map fun (items, rest) => (.list items, rest)
    | '\x7b' :: rest =>
      match nesting with
      | 0 => none
      | nesting + 1 =>
        (tableEntries? fuel nesting [] rest).map fun (entries, rest) =>
          (.table (valuesOf entries), rest)
    | _ => scalar? s

/-- Reads the items of a list up to behind its closing bracket. -/
def listItems? : Nat → (nesting : Nat) → List Char → Option (List Value × List Char)
  | 0, _, _ => none
  | fuel + 1, nesting, s => do
    match (← skipLines? false s) with
    | ']' :: rest => return ([], rest)
    | s =>
      let (item, rest) ← value? fuel nesting s
      match (← skipLines? false rest) with
      | ',' :: rest =>
        let (items, rest) ← listItems? fuel nesting rest
        return (item :: items, rest)
      | ']' :: rest => return ([item], rest)
      | _ => none

/-- Reads the entries of a table between braces up to behind the closing one. -/
def tableEntries? : Nat → (nesting : Nat) → Entries → List Char → Option (Entries × List Char)
  | 0, _, _, _ => none
  | fuel + 1, nesting, entries, s => do
    match (← skipLines? false s) with
    | '\x7d' :: rest => return (entries, rest)
    | s =>
      let (path, key, rest) ← key? s
      let (value, rest) ← value? fuel nesting (skipSpaces (← afterChar? '=' rest))
      let entries ← addPair path key value entries
      match (← skipLines? false rest) with
      | ',' :: rest => tableEntries? fuel nesting entries rest
      | '\x7d' :: rest => return (entries, rest)
      | _ => none

end

/-- Reads the lines of a document. Pairs go into the table at `header`. -/
def lines? : Nat → (header : List String) → Entries → List Char → Option Entries
  | 0, _, _, _ => none
  | fuel + 1, header, root, s => do
    match (← skipLines? false s) with
    | [] => return root
    | '[' :: '[' :: rest =>
      let (path, key, rest) ← key? rest
      let rest ← endLine? false (← afterChar? ']' (← afterChar? ']' rest))
      lines? fuel (path ++ [key]) (← openNext path key root) rest
    | '[' :: rest =>
      let (path, key, rest) ← key? rest
      let rest ← endLine? false (← afterChar? ']' rest)
      lines? fuel (path ++ [key]) (← openTable path key root) rest
    | s =>
      let (path, key, rest) ← key? s
      let (value, rest) ← value? (s.length + 1) maxNesting (skipSpaces (← afterChar? '=' rest))
      let rest ← endLine? false rest
      lines? fuel header (← within false (fun _ => addPair path key value) header false root) rest

def parse? (text : String) : Option Value :=
  let chars := match text.toList with
    | c :: rest => if c.toNat = 0xFEFF then rest else c :: rest
    | [] => []
  (lines? (chars.length + 1) [] [] chars).map fun entries => .table (valuesOf entries)

end ScopedResources.Toml
