import ScopedResources.Document.Value

/-!
# Reading typed values from documents

The same declarations are read from documents of several formats. A source says, for one format, how
its values stand for texts, truth values, optional values, names of alternatives, lists, maps and
records; every typed reading is then written once, against a source.

A record is a table, in which the order of fields is free and unknown ones are passed over, or,
where the format allows it, a list of the fields in order. Fields at the end of such a list may be
left off only if they have a default of their own. -/

namespace ScopedResources.Document

/-- What a record holds for one of its fields. -/
inductive Field (ν : Type) where
  /-- The field has a value. -/
  | given (value : ν)
  /-- The field does not stand in the table. -/
  | missing
  /-- The list of fields ends before the field. -/
  | leftOff

namespace Field

variable {ν α : Type}

/-- The value of a field that must be there. -/
def required (read : ν → Option α) : Field ν → Option α
  | given value => read value
  | missing | leftOff => none

/-- The value of a field with a default. -/
def orElse (read : ν → Option α) (default : α) : Field ν → Option α
  | given value => read value
  | missing | leftOff => some default

end Field

/-- How the values of one format are read. -/
structure Source (ν : Type) where
  text? : ν → Option String
  bool? : ν → Option Bool
  integer? : ν → Option Int
  /-- The value that an optional value holds, if it holds one. -/
  optional? : ν → Option (Option ν)
  /-- The name of an alternative that carries no data. -/
  choice? : ν → Option String
  items? : ν → Option (List ν)
  entries? : ν → Option (List (String × ν))
  /-- The fields of a record by name, given all names in order. -/
  record? : List String → ν → Option (String → Field ν)

namespace Source

variable {ν α : Type} (src : Source ν)

/-- A list whose items are all read alike. -/
def listOf (read : ν → Option α) (value : ν) : Option (List α) :=
  (src.items? value).bind (·.mapM read)

def optional (read : ν → Option α) (value : ν) : Option (Option α) :=
  match src.optional? value with
  | none => none
  | some none => some none
  | some (some inner) => (read inner).map some

/-- A field that may be missing from a table, but has no default of its own. -/
def optionalField (read : ν → Option α) : Field ν → Option (Option α)
  | .given value => src.optional read value
  | .missing => some none
  | .leftOff => none

/-- One of some alternatives, by its exact name. -/
def alternative (ofName? : String → Option α) (value : ν) : Option α :=
  (src.choice? value).bind ofName?

end Source

def fieldOfTable (entries : List (String × Value)) (name : String) : Field Value :=
  match entries.lookup name with
  | some value => .given value
  | none => .missing

/-- The fields of a list by name, given all names in order. -/
def fieldOfList (names : List String) (items : List Value) (name : String) : Field Value :=
  match (names.zip items).lookup name with
  | some value => .given value
  | none => .leftOff

/-- The name of the one entry of a table whose value carries no data. -/
def soleName? (carriesNothing : Value → Bool) : Value → Option String
  | .table [(name, value)] => if carriesNothing value then some name else none
  | _ => none

/-- Values of a document in JSON. A list of fields holds no more than the fields. -/
def jsonSource : Source Value where
  text?
    | .text s => some s
    | _ => none
  bool?
    | .bool b => some b
    | _ => none
  integer?
    | .integer n => some n
    | _ => none
  optional?
    | .null => some none
    | value => some (some value)
  choice?
    | .text s => some s
    | value => soleName? (fun | .null => true | _ => false) value
  items?
    | .list items => some items
    | _ => none
  entries?
    | .table entries => some entries
    | _ => none
  record? names
    | .table entries => some (fieldOfTable entries)
    | .list items => if items.length ≤ names.length then some (fieldOfList names items) else none
    | _ => none

/-- Values of a document in TOML. There is no absent value, what follows the fields in a list is
passed over, and a date or a time is a table that holds none of the fields. -/
def tomlSource : Source Value where
  text?
    | .text s => some s
    | _ => none
  bool?
    | .bool b => some b
    | _ => none
  integer?
    | .integer n => some n
    | _ => none
  optional? value := some (some value)
  choice?
    | .text s => some s
    | value => soleName? (fun | .table [] | .list [] => true | _ => false) value
  items?
    | .list items => some items
    | _ => none
  entries?
    | .table entries => some entries
    | _ => none
  record? names
    | .table entries => some (fieldOfTable entries)
    | .list items => some (fieldOfList names items)
    | .dateTime => some (fieldOfTable [])
    | _ => none

end ScopedResources.Document
