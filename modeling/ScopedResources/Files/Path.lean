import ScopedResources.Text.Parts

/-!
# Paths

A path is a text of names between slashes. Paths are joined as they are written and are never put
into a normal form, so a message shows what was asked for. Empty names and single dots are passed
over where the last name of a path is wanted; only a dot that begins a relative path counts as a
name. -/

namespace ScopedResources.Files.Path

def isAbsolute (path : String) : Bool :=
  path.toList.head? = some '/'

/-- A path below another one. An absolute path stays as it is. -/
def join (base path : String) : String :=
  if isAbsolute path then path
  else if base.isEmpty || base.toList.getLast? = some '/' then base ++ path
  else base ++ "/" ++ path

def names (path : String) : List String :=
  (Text.parts (· = '/') path.toList).map String.ofList

/-- Names from the last one on, without those at the end of the path that say nothing. -/
def dropIdle : List String → List String
  | [] => []
  | [first] => [first]
  | last :: before :: rest =>
    if last = "" || last = "." then dropIdle (before :: rest) else last :: before :: rest

/-- The path of the names that are given from the last one on. -/
def ofReversed : List String → String
  | [] => ""
  | [""] => "/"
  | reversed => "/".intercalate reversed.reverse

/-- The path of the directory that holds what a path names; empty where there is none. -/
def parent (path : String) : String :=
  match dropIdle (names path).reverse with
  | [] | [""] => ""
  | _ :: rest => ofReversed (dropIdle rest)

/-- The last name of a path, unless it leads upwards. -/
def fileName? (path : String) : Option String :=
  match dropIdle (names path).reverse with
  | [] => none
  | last :: _ => if last = "" || last = "." || last = ".." then none else some last

/-- What follows the last dot of the last name, unless the dot begins the name. -/
def extension? (path : String) : Option String :=
  match (fileName? path).bind fun name => Text.splitAtLast? '.' name.toList with
  | some (_ :: _, after) => some (String.ofList after)
  | _ => none

end ScopedResources.Files.Path
