import ScopedResources.Text.Letter

/-!
# Scopes

A resource lives as long as a whole run, as one test class, or as one test method. A scope outlives
the scopes of finer granularity.
-/

namespace ScopedResources

/-- How far one instance of a resource is shared. -/
inductive Scope where
  | run
  | testClass
  | testMethod
  deriving DecidableEq, Inhabited

namespace Scope

/-- All scopes, from the coarsest to the finest. -/
def all : List Scope := [run, testClass, testMethod]

def name : Scope → String
  | run => "RUN"
  | testClass => "CLASS"
  | testMethod => "METHOD"

/-- The name of a scope in the diagnostic form of a node. -/
def diagnosticName : Scope → String
  | run => "Run"
  | testClass => "Class"
  | testMethod => "Method"

/-- Relative lifetime; the larger outlives the smaller. -/
def granularity : Scope → Nat
  | run => 3
  | testClass => 2
  | testMethod => 1

/-- Whether an instance of the first scope lives longer than one of the second. -/
def outlives (s t : Scope) : Bool :=
  t.granularity < s.granularity

def ofName? (text : String) : Option Scope :=
  all.find? (·.name == text)

/-- The scope with this name in any case of its letters. -/
def parse? (text : String) : Option Scope :=
  all.find? (Text.sameIgnoringAsciiCase ·.name text)

theorem ofName?_name (s : Scope) : ofName? s.name = some s := by
  cases s <;> rfl

end Scope

end ScopedResources
