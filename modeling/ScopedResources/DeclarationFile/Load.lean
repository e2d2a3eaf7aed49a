import ScopedResources.Document.Reading
import ScopedResources.Files.Tree
import ScopedResources.Toml.Parse
import ScopedResources.Yaml.Reading

/-!
# Loading declaration files

A declaration file is written in TOML or YAML. The extension of its name tells which, in any case of
its letters. A file that can be read is valid as well, or it is refused. -/

namespace ScopedResources.DeclarationFile

open Files

/-- The formats of declaration files. -/
inductive Format where
  | toml
  | yaml
  deriving DecidableEq

/-- Why a declaration file is refused. -/
inductive LoadFault where
  | notFound (path : String)
  | malformed (format : Format)
  | noExtension
  | unsupported (extension : String)
  | invalid (violations : List Violation)

/-- The wording of a fault. What is wrong inside the file is not told. -/
def LoadFault.message : LoadFault → String
  | .notFound path => "File not found: " ++ path
  | .malformed .toml => "Failed to parse TOML"
  | .malformed .yaml => "Failed to parse YAML"
  | .noExtension => "Config file has no extension"
  | .unsupported extension => "Unsupported config file format: " ++ extension
  | .invalid _ => "Invalid declarations"

/-- The format that an extension in small letters stands for. -/
def Format.ofExtension? (extension : String) : Option Format :=
  [("toml", toml), ("yaml", yaml), ("yml", yaml)].lookup extension

def parse? (format : Format) (text : String) : Option DeclarationFile :=
  match format with
  | .toml => (Toml.parse? text).bind (DeclarationFile.read? Document.tomlSource)
  | .yaml => (Yaml.document? text).bind fun d => DeclarationFile.read? d.source d.root

def loadAs (format : Format) (tree : Tree) (path : String) : Except LoadFault DeclarationFile :=
  match tree.read path with
  | .error _ => .error (.notFound path)
  | .ok text =>
    match parse? format text with
    | none => .error (.malformed format)
    | some file => if file.violations.isEmpty then .ok file else .error (.invalid file.violations)

def load (tree : Tree) (path : String) : Except LoadFault DeclarationFile :=
  match Path.extension? path with
  | none => .error .noExtension
  | some written =>
    let extension := Text.lowerCase written
    match Format.ofExtension? extension with
    | some format => loadAs format tree path
    | none => .error (.unsupported extension)

end ScopedResources.DeclarationFile
