import ScopedResources.Text.Quoted

/-!
# Resource keys

Two requests for a resource that lives as long as the run share one instance exactly when their keys
are equal.
-/

namespace ScopedResources

/-- What makes two instances of a resource interchangeable. -/
structure ResourceKey where
  image : String
  sharedNetwork : Bool := false
  networkAlias : Option String := none
  deriving DecidableEq, Inhabited

namespace ResourceKey

/-- A key as it is shown to people. The alias is shown only for a shared network. -/
def shown (k : ResourceKey) : String :=
  let network := match k.sharedNetwork, k.networkAlias with
    | true, some name => " (shared network, alias " ++ name ++ ")"
    | true, none => " (shared network)"
    | false, _ => ""
  k.image ++ network

def diagnostic (k : ResourceKey) : String :=
  "ResourceKey \x7b image: " ++ Text.quoted k.image ++
    ", shared_network: " ++ Text.shownBool k.sharedNetwork ++
    ", network_alias: " ++ Text.quotedOption k.networkAlias ++ " \x7d"

/-- For each key of a list the index of the first key equal to it. -/
def firstOccurrences (keys : List ResourceKey) : List Nat :=
  keys.map fun k => keys.idxOf k

def countDistinct (keys : List ResourceKey) : Nat :=
  keys.eraseDups.length

end ResourceKey

end ScopedResources
