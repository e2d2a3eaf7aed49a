import ScopedResources.Assoc
import ScopedResources.Declaration
import ScopedResources.Error
import ScopedResources.Settings

/-!
# Declaration files

A declaration file holds settings of the process and one declaration for each backend. It is valid
when its settings are within bounds and no declaration contradicts itself.
-/

namespace ScopedResources

/-- Settings and the declarations of the backends by name. -/
structure DeclarationFile where
  settings : Settings := {}
  resources : Assoc String Declaration := []
  deriving DecidableEq, Inhabited

namespace DeclarationFile

/-- The declaration of a backend, named in any case of its ASCII letters; the file names backends in
upper case. -/
def declaration? (file : DeclarationFile) (backend : String) : Option Declaration :=
  Assoc.find? backend.toUpper file.resources

/-- The first backend, in the order of the names, whose declaration contradicts itself. -/
def firstConflict? (file : DeclarationFile) : Option (String × Declaration.Conflict) :=
  (file.resources.mergeSort fun a b => a.1 ≤ b.1).findSome? fun (backend, decl) =>
    decl.conflict?.map fun conflict => (backend, conflict)

def violations (file : DeclarationFile) : List Violation :=
  let settings := file.settings.violations.map fun v => { v with path := "settings." ++ v.path }
  let resources := match file.firstConflict? with
    | none => []
    | some (backend, conflict) =>
      [{ path := "resources", code := "invalid_declaration"
         message := some (backend ++ ": " ++
           (LifecycleError.configuration conflict.message).message) }]
  settings ++ resources

end DeclarationFile

end ScopedResources
