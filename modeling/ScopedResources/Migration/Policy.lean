import ScopedResources.Text.Letter

/-!
# Migration policies

A policy names the engine that reads the migration files, where the files are, and at which boundary
of the test run they are applied and dropped.
-/

namespace ScopedResources.Migration

/-- The ways of reading migration files. -/
inductive Engine where
  | none
  | scripts
  | flyway
  | liquibase
  | cognitor
  deriving DecidableEq, Inhabited

namespace Engine

def all : List Engine := [none, scripts, flyway, liquibase, cognitor]

def name : Engine → String
  | none => "NONE"
  | scripts => "SCRIPTS"
  | flyway => "FLYWAY"
  | liquibase => "LIQUIBASE"
  | cognitor => "COGNITOR"

def ofName? (text : String) : Option Engine :=
  all.find? (·.name == text)

/-- The engine with this name in any case of its letters. -/
def parse? (text : String) : Option Engine :=
  all.find? (Text.sameIgnoringAsciiCase ·.name text)

theorem ofName?_name (e : Engine) : ofName? e.name = some e := by
  cases e <;> rfl

end Engine

/-- The boundary at which migrations are applied or dropped. -/
inductive Boundary where
  | none
  | perClass
  | perMethod
  deriving DecidableEq, Inhabited

namespace Boundary

def all : List Boundary := [none, perClass, perMethod]

def name : Boundary → String
  | none => "NONE"
  | perClass => "PER_CLASS"
  | perMethod => "PER_METHOD"

def isSet (b : Boundary) : Bool :=
  b ≠ none

def ofName? (text : String) : Option Boundary :=
  all.find? (·.name == text)

/-- The boundary with this name in any case of its letters. -/
def parse? (text : String) : Option Boundary :=
  all.find? (Text.sameIgnoringAsciiCase ·.name text)

theorem ofName?_name (b : Boundary) : ofName? b.name = some b := by
  cases b <;> rfl

end Boundary

/-- What is migrated, from where, and when. -/
structure Policy where
  engine : Engine := .none
  apply : Boundary := .none
  drop : Boundary := .none
  locations : List String := []
  deriving DecidableEq, Inhabited

namespace Policy

def isEnabled (p : Policy) : Bool :=
  p.engine ≠ .none

def appliesAt (p : Policy) (boundary : Boundary) : Bool :=
  p.isEnabled && boundary.isSet && p.apply = boundary

def dropsAt (p : Policy) (boundary : Boundary) : Bool :=
  p.isEnabled && boundary.isSet && p.drop = boundary

end Policy

end ScopedResources.Migration
