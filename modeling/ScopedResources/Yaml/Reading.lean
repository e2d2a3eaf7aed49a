import ScopedResources.Document.Source
import ScopedResources.Yaml.Node
import ScopedResources.Yaml.Plain

/-!
# Typed values in YAML

Which kind of value a scalar stands for depends on what is asked for: a scalar of any form is a
text, and only a plain one is a truth value or nothing. Where nothing is written a record or a list
without entries is read. The keys of a record are texts, and none of its fields may stand twice. -/

namespace ScopedResources.Yaml

def boolTag : String := "tag:yaml.org,2002:bool"

def nullTag : String := "tag:yaml.org,2002:null"

def intTag : String := "tag:yaml.org,2002:int"

def floatTag : String := "tag:yaml.org,2002:float"

/-- Whether a tag is private to a document. -/
def isPrivate (tag : String) : Bool :=
  tag.toList.head? = some '!'

/-- Whether a node is a plain scalar without text. -/
def isVoid : Node → Bool
  | .scalar _ .plain text => text.isEmpty
  | _ => false

namespace Document

variable (d : Document)

def text? (node : Node) : Option String :=
  match d.target node with
  | .scalar _ _ text => some text
  | _ => none

/-- The truth value of a scalar that is plain, or a tagged literal. -/
def bool? (node : Node) : Option Bool :=
  match d.target node with
  | .scalar tag style text =>
    if style = .plain || (style = .literal && tag = some boolTag) then Plain.bool? text else none
  | _ => none

/-- What a node that may be absent holds. A tag keeps a plain scalar from being read as nothing,
except the tag of nothing, which then is required to be right. -/
def optional? (node : Node) : Option (Option Node) :=
  match d.target node with
  | .scalar (some tag) .plain text =>
    if tag = nullTag then if Plain.isNull text then some none else none else some (some node)
  | .scalar none .plain text =>
    some (if text.isEmpty || Plain.isNull text then none else some node)
  | _ => some (some node)

/-- The name of an alternative: a text, or a private tag in front of nothing. -/
def choice? (node : Node) : Option String :=
  match d.target node with
  | .scalar tag style text =>
    match tag.filter isPrivate with
    | none => some text
    | some tag =>
      if style = .plain && (text.isEmpty || Plain.isNull text) then
        some (String.ofList (tag.toList.drop 1))
      else none
  | _ => none

def items? (node : Node) : Option (List Node) :=
  match d.target node with
  | .sequence items => some items
  | node => if isVoid node then some [] else none

def entries? (node : Node) : Option (List (String × Node)) :=
  match d.target node with
  | .mapping entries => entries.mapM fun (key, value) => (d.text? key).map fun key => (key, value)
  | node => if isVoid node then some [] else none

def record? (names : List String) (node : Node) : Option (String → Document.Field Node) := do
  let entries ← d.entries? node
  if names.any fun name => 1 < (entries.map Prod.fst).count name then none
  return fun name =>
    match entries.lookup name with
    | some value => .given value
    | none => .missing

/-- The text of an identifier: a scalar that stands for an integer of 64 bits, or for a text. -/
def identifier? (node : Node) : Option String :=
  match d.target node with
  | .scalar tag style text =>
    match tag with
    | some tag =>
      if isPrivate tag || tag = boolTag || tag = floatTag || tag = nullTag then none
      else if tag = intTag then
        match Plain.integer? text.toList with
        | some n => if -Int.pow 2 63 ≤ n && n < Int.pow 2 63 then some (toString n) else none
        | none => none
      else some text
    | none =>
      if style ≠ .plain then some text
      else if text.isEmpty || Plain.isNull text || (Plain.bool? text).isSome then none
      else match Plain.integer? text.toList with
        | some n =>
          if -Int.pow 2 63 ≤ n && n < Int.pow 2 63 then some (toString n)
          else if -Int.pow 2 127 ≤ n && n < Int.pow 2 128 then none
          else if Plain.isFraction text then none else some text
        | none => if Plain.isFraction text then none else some text
  | _ => none

/-- How the values of a document are read. There are no integers among the declarations. -/
def source : Document.Source Node where
  text? := d.text?
  bool? := d.bool?
  integer? _ := none
  optional? := d.optional?
  choice? := d.choice?
  items? := d.items?
  entries? := d.entries?
  record? := d.record?

end Document

end ScopedResources.Yaml
