import ScopedResources.Document.Value

/-!
# Tables of TOML

A table is written by a header, by keys with dots, or between braces. Each way may only go on with
what it began: a header names a table once, keys with dots reach only tables that such keys began,
and a table between braces is closed. A header in double brackets adds a table to a list, and what
follows goes into the last one. -/

namespace ScopedResources.Toml

open Document (Value)

/-- What stands under a key. -/
inductive Item where
  /-- A value that is closed. -/
  | value (v : Value)
  /-- A table; it is implied where only tables inside it were named, and dotted where keys with dots
  began it. -/
  | table (implied dotted : Bool) (entries : List (String × Item))
  /-- A list of tables, each of which had a header. -/
  | tables (all : List (List (String × Item)))

abbrev Entries := List (String × Item)

/-- The entries with an item under a key that is there or not. -/
def Entries.set (key : String) (item : Item) : Entries → Entries
  | [] => [(key, item)]
  | (k, i) :: rest => if k = key then (key, item) :: rest else (k, i) :: set key item rest

/-- Changes the table to which keys lead, which is told whether it is a dotted one. Tables on the
way are begun where they are missing. -/
def within (byDots : Bool) (change : Bool → Entries → Option Entries) :
    (path : List String) → (dotted : Bool) → Entries → Option Entries
  | [], dotted, entries => change dotted entries
  | key :: path, _, entries =>
    match entries.lookup key with
    | none =>
      (within byDots change path byDots []).map fun inner =>
        entries.set key (.table true byDots inner)
    | some (.table implied dotted inner) =>
      if byDots && !implied then none
      else (within byDots change path dotted inner).map fun inner =>
        entries.set key (.table implied dotted inner)
    | some (.tables all) =>
      match byDots, all.reverse with
      | false, last :: before =>
        (within byDots change path false last).map fun last =>
          entries.set key (.tables (last :: before).reverse)
      | _, _ => none
    | some (.value _) => none

def addPair (path : List String) (key : String) (value : Value) (entries : Entries) :
    Option Entries :=
  within true (fun dotted entries =>
    if dotted = path.isEmpty || (entries.lookup key).isSome then none
    else some (entries ++ [(key, .value value)])) path false entries

def openTable (path : List String) (key : String) (entries : Entries) : Option Entries :=
  within false (fun _ entries =>
    match entries.lookup key with
    | none => some (entries ++ [(key, .table false false [])])
    | some (.table true false inner) => some (entries.set key (.table false false inner))
    | some _ => none) path false entries

/-- Adds a table to the list of a header in double brackets. -/
def openNext (path : List String) (key : String) (entries : Entries) : Option Entries :=
  within false (fun _ entries =>
    match entries.lookup key with
    | none => some (entries ++ [(key, .tables [[]])])
    | some (.tables all) => some (entries.set key (.tables (all ++ [[]])))
    | some _ => none) path false entries

mutual

def Item.toValue : Item → Value
  | .value v => v
  | .table _ _ entries => .table (valuesOf entries)
  | .tables all => .list (tablesOf all)

def valuesOf : List (String × Item) → List (String × Value)
  | [] => []
  | (key, item) :: rest => (key, item.toValue) :: valuesOf rest

def tablesOf : List (List (String × Item)) → List Value
  | [] => []
  | entries :: rest => .table (valuesOf entries) :: tablesOf rest

end

end ScopedResources.Toml
