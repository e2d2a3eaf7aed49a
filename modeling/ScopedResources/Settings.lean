import ScopedResources.Environment

/-!
# Settings of a process

The settings name the directory below which relative migration locations lie, the network that
shared resources join, and the filter of the log. The environment wins over what a file says. -/

namespace ScopedResources

/-- The settings of a test process. -/
structure Settings where
  migrationRoot : String := "."
  network : String := "harbor"
  logFilter : String := "info"
  deriving DecidableEq, Inhabited

/-- A field whose value is out of bounds, or a part that is rejected with a message. -/
structure Violation where
  path : String
  code : String
  message : Option String := none
  min : Option Nat := none
  max : Option Nat := none
  deriving DecidableEq

namespace Settings

/-- The settings with the variables of the environment in place of what they override. -/
def withEnvironment (env : Environment) (base : Settings) : Settings :=
  { migrationRoot := (env.nonBlank? "HARBOR_MIGRATION_ROOT").getD base.migrationRoot
    network := (env.nonBlank? "HARBOR_NETWORK").getD base.network
    logFilter := ((env.nonBlank? "HARBOR_LOG").orElse fun _ => env.nonBlank? "RUST_LOG").getD
      base.logFilter }

/-- The most characters that the name of a network may have. -/
def maxNetworkLength : Nat := 255

/-- The fields that are out of bounds: the network has 1 to 255 characters, the filter at least 1.
-/
def violations (s : Settings) : List Violation :=
  let network := if 1 ≤ s.network.length && s.network.length ≤ maxNetworkLength then []
    else [{ path := "network", code := "length", min := some 1, max := some maxNetworkLength }]
  let filter := if 1 ≤ s.logFilter.length then []
    else [{ path := "log_filter", code := "length", min := some 1 }]
  network ++ filter

end Settings

end ScopedResources
