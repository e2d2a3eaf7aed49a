import ScopedResources.Numeral
import ScopedResources.Text.Parts

/-!
# Versions of migration files

A version is a row of numbers. Versions compare number by number, and a missing number counts as
zero, so `1`, `1.0` and `01` are the same version. -/

namespace ScopedResources.Migration

/-- A version. -/
abbrev Version := List Nat

namespace Version

def order : Version → Version → Ordering
  | [], [] => .eq
  | [], b :: bs => (compare 0 b).then (order [] bs)
  | a :: as, [] => (compare a 0).then (order as [])
  | a :: as, b :: bs => (compare a b).then (order as bs)

def le (v w : Version) : Bool :=
  order v w ≠ .gt

def same (v w : Version) : Bool :=
  order v w = .eq

/-- Reads numbers between dots and low lines. -/
def read? (text : List Char) : Option Version :=
  (Text.parts (fun c => c = '.' || c = '_') text).mapM fun part =>
    (Numeral.read Numeral.maxWord part).toOption

end Version

end ScopedResources.Migration
