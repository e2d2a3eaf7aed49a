import ScopedResources.Connection.Params
import ScopedResources.DeclarationFile
import ScopedResources.Document.Source
import ScopedResources.Numeral

/-!
# Declarations in documents

How the parts of a declaration file, and the keys and parameters beside them, are read from a
source. -/

namespace ScopedResources

open Document

variable {ν : Type} (src : Source ν)

/-- Reads a migration policy; every field has a default. -/
def Migration.Policy.read? (value : ν) : Option Migration.Policy := do
  let field ← src.record? ["engine", "apply", "drop", "locations"] value
  let engine ← (field "engine").orElse (src.alternative Migration.Engine.ofName?) .none
  let apply ← (field "apply").orElse (src.alternative Migration.Boundary.ofName?) .none
  let drop ← (field "drop").orElse (src.alternative Migration.Boundary.ofName?) .none
  let locations ← (field "locations").orElse (src.listOf src.text?) []
  return { engine, apply, drop, locations }

/-- Reads the network of a declaration; every field has a default. -/
def NetworkSettings.read? (value : ν) : Option NetworkSettings := do
  let field ← src.record? ["shared", "alias"] value
  let shared ← (field "shared").orElse src.bool? false
  let networkAlias ← (field "alias").orElse (src.optional src.text?) none
  return { shared, networkAlias }

/-- Reads a declaration; every field has a default. -/
def Declaration.read? (value : ν) : Option Declaration := do
  let field ← src.record? ["image", "mode", "network", "migration"] value
  let image ← (field "image").orElse src.text? ""
  let mode ← (field "mode").orElse (src.alternative Scope.ofName?) .testClass
  let network ← (field "network").orElse (NetworkSettings.read? src) {}
  let migration ← (field "migration").orElse (Migration.Policy.read? src) {}
  return { image, mode, network, migration }

/-- Reads settings; every field has a default. -/
def Settings.read? (value : ν) : Option Settings := do
  let field ← src.record? ["migration_root", "network", "log_filter"] value
  let default : Settings := {}
  let migrationRoot ← (field "migration_root").orElse src.text? default.migrationRoot
  let network ← (field "network").orElse src.text? default.network
  let logFilter ← (field "log_filter").orElse src.text? default.logFilter
  return { migrationRoot, network, logFilter }

/-- Reads the declarations of a file; of several for one backend the last one stands. -/
def readResources? (value : ν) : Option (Assoc String Declaration) := do
  let entries ← src.entries? value
  let resources ← entries.mapM fun (name, entry) =>
    (Declaration.read? src entry).map fun decl => (name, decl)
  return resources.foldl (fun all (name, decl) => Assoc.insert name decl all) []

/-- Reads a declaration file; settings and declarations may be missing. -/
def DeclarationFile.read? (value : ν) : Option DeclarationFile := do
  let field ← src.record? ["settings", "resources"] value
  let settings ← (field "settings").orElse (Settings.read? src) {}
  let resources ← (field "resources").orElse (readResources? src) []
  return { settings, resources }

/-- Reads a resource key; the alias may be missing. -/
def ResourceKey.read? (value : ν) : Option ResourceKey := do
  let field ← src.record? ["image", "shared_network", "network_alias"] value
  let image ← (field "image").required src.text?
  let sharedNetwork ← (field "shared_network").required src.bool?
  let networkAlias ← src.optionalField src.text? (field "network_alias")
  return { image, sharedNetwork, networkAlias }

def readPort? (value : ν) : Option Nat :=
  (src.integer? value).bind fun n =>
    if 0 ≤ n && n ≤ Numeral.maxPort then some n.toNat else none

/-- Reads connection parameters; login and database may be missing. -/
def ConnectionParams.read? (value : ν) : Option ConnectionParams := do
  let field ← src.record? ["scheme", "host", "port", "username", "password", "database"] value
  let scheme ← (field "scheme").required src.text?
  let host ← (field "host").required src.text?
  let port ← (field "port").required (readPort? src)
  let username ← src.optionalField src.text? (field "username")
  let password ← src.optionalField src.text? (field "password")
  let database ← src.optionalField src.text? (field "database")
  return { scheme, host, port, username, password, database }

end ScopedResources
