import ScopedResources.Assoc
import ScopedResources.Files.Path

/-!
# Trees of files

A tree holds files, directories and symbolic links, each at its place: the list of names that lead
to it from the root of all files without any link. A path is resolved name by name; a link is
replaced by its target, and at most 40 links are followed on the way. -/

namespace ScopedResources.Files

/-- The names that lead from the root of all files to a place. -/
abbrev Place := List String

/-- What stands at a place. -/
inductive Entry where
  | file (content : ByteArray)
  | directory
  | link (target : String)

def Entry.isDirectory : Entry → Bool
  | directory => true
  | _ => false

/-- Why a file cannot be found or read. -/
inductive Fault where
  | notFound
  | notDirectory
  | isDirectory
  | nameTooLong
  | tooManyLinks
  | nullCharacter
  | notText
  deriving DecidableEq

def Fault.message : Fault → String
  | .notFound => "No such file or directory (os error 2)"
  | .notDirectory => "Not a directory (os error 20)"
  | .isDirectory => "Is a directory (os error 21)"
  | .nameTooLong => "File name too long (os error 36)"
  | .tooManyLinks => "Too many levels of symbolic links (os error 40)"
  | .nullCharacter => "file name contained an unexpected NUL byte"
  | .notText => "stream did not contain valid UTF-8"

/-- Files, directories and links by their places, and the directory at which relative paths begin.
-/
structure Tree where
  entries : Assoc Place Entry := []
  start : Place := []

namespace Tree

/-- The most bytes of one name. -/
def maxName : Nat := 255

/-- The number of bytes that a path stays below. -/
def maxPath : Nat := 4096

/-- The most links that are followed for one path. -/
def maxLinks : Nat := 40

/-- What stands at a place; the root of all files is a directory. -/
def find? (t : Tree) (place : Place) : Option Entry :=
  if place = [] then some .directory else Assoc.find? place t.entries

def isFile (t : Tree) (place : Place) : Bool :=
  match t.find? place with
  | some (.file _) => true
  | _ => false

/-- The place to which names lead from a place, once `links` links at most are followed. -/
def follow (t : Tree) (links : Nat) (place : Place) (pending : List String) : Except Fault Place :=
  match pending with
  | [] => .ok place
  | name :: rest =>
    if !(t.find? place).any Entry.isDirectory then .error .notDirectory
    else if name = "" || name = "." then follow t links place rest
    else if name = ".." then follow t links place.dropLast rest
    else if maxName < name.utf8ByteSize then .error .nameTooLong
    else match t.find? (place ++ [name]) with
      | none => .error .notFound
      | some (.link target) =>
        match links with
        | 0 => .error .tooManyLinks
        | left + 1 =>
          follow t left (if Path.isAbsolute target then [] else place) (Path.names target ++ rest)
      | some _ => follow t links (place ++ [name]) rest
termination_by (links, pending.length)

def resolve (t : Tree) (path : String) : Except Fault Place :=
  if path.isEmpty then .error .notFound
  else if path.toList.contains (Char.ofNat 0) then .error .nullCharacter
  else if maxPath ≤ path.utf8ByteSize then .error .nameTooLong
  else t.follow maxLinks (if Path.isAbsolute path then [] else t.start) (Path.names path)

def exists? (t : Tree) (path : String) : Bool :=
  (t.resolve path).toBool

def read (t : Tree) (path : String) : Except Fault String := do
  match t.find? (← t.resolve path) with
  | some (.file content) =>
    match String.fromUTF8? content with
    | some text => return text
    | none => throw .notText
  | _ => throw .isDirectory

/-! ## Writing -/

def put (t : Tree) (place : Place) (entry : Entry) : Tree :=
  { t with entries := Assoc.insert place entry t.entries }

/-- The tree in which names lead from a place through directories, and the place that they lead to.
-/
def withDirectories (t : Tree) (place : Place) : List String → Tree × Place
  | [] => (t, place)
  | name :: rest =>
    match t.follow maxLinks place [name] with
    | .ok inner => withDirectories t inner rest
    | .error _ => withDirectories (t.put (place ++ [name]) .directory) (place ++ [name]) rest

/-- The tree with an entry at a path, and with the directories on the way. A file is written through
a link that stands in its place. -/
def write (t : Tree) (path : String) (entry : Entry) : Tree :=
  let names := (Path.names path).filter (· ≠ "")
  match names.getLast? with
  | none => t
  | some last =>
    let (t, place) := t.withDirectories [] names.dropLast
    match entry, t.follow maxLinks place [last] with
    | .file _, .ok inner => t.put inner entry
    | .directory, .ok _ => t
    | _, _ => t.put (place ++ [last]) entry

def remove (t : Tree) (path : String) : Tree :=
  let names := (Path.names path).filter (· ≠ "")
  match t.follow maxLinks [] names.dropLast with
  | .ok place => { t with entries := Assoc.erase (place ++ names.getLast?.toList) t.entries }
  | .error _ => t

end Tree

end ScopedResources.Files
