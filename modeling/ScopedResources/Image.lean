import ScopedResources.Environment
import ScopedResources.Text.Parts

/-!
# Image references

A reference is an image name, or a placeholder that names an environment variable and, after a bar,
a default. A variable that is set and not blank wins. The tag of an image follows the last colon
after the last slash, so the port of a registry is no tag. -/

namespace ScopedResources.Image

/-- Why a reference names no image. -/
inductive Fault where
  | empty
  | unresolved (reference : String)
  deriving DecidableEq

def Fault.message : Fault → String
  | .empty => "image must not be empty"
  | .unresolved reference => "image placeholder " ++ reference ++ " has no value and no default"

/-- What stands between the braces of a placeholder. -/
def placeholder? : List Char → Option (List Char)
  | '$' :: '\x7b' :: rest =>
    match rest.reverse with
    | '\x7d' :: body => some body.reverse
    | _ => none
  | _ => none

/-- Name and default of a placeholder; the default is empty where no bar stands. -/
def nameAndDefault (body : List Char) : String × String :=
  (String.ofList (Text.trim (body.takeWhile (· ≠ '|'))),
    String.ofList (Text.trim ((body.dropWhile (· ≠ '|')).drop 1)))

def resolve (env : Environment) (reference : String) : Except Fault String :=
  let trimmed := Text.trimmed reference
  match placeholder? trimmed.toList with
  | none => if trimmed.isEmpty then .error .empty else .ok trimmed
  | some body =>
    let (name, default) := nameAndDefault body
    match env.nonBlank? name with
    | some value => .ok (Text.trimmed value)
    | none => if default.isEmpty then .error (.unresolved trimmed) else .ok default

/-- Name and tag of an image; the tag is `latest` where none is given. -/
def split (image : String) : String × String :=
  let (host, last) := match Text.splitAtLast? '/' image.toList with
    | some (before, after) => (before ++ ['/'], after)
    | none => ([], image.toList)
  match Text.splitAtLast? ':' last with
  | some (name, tag) => (String.ofList (host ++ name), String.ofList tag)
  | none => (image, "latest")

end ScopedResources.Image
