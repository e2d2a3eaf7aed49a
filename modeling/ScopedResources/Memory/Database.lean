import ScopedResources.Assoc
import ScopedResources.Error
import ScopedResources.Memory.Statement

/-!
# The in-process database

A database holds, for every table, the number of its rows, and counts the statements it accepted. A
statement that is rejected leaves it as it was.
-/

namespace ScopedResources.Memory

/-- Tables with the numbers of their rows, and the number of accepted statements. -/
structure Database where
  tables : Assoc String Nat := []
  executed : Nat := 0
  deriving Inhabited

namespace Database

/-- Why a statement is rejected. -/
inductive Rejection where
  | alreadyPresent
  | absent
  | unknownStatement
  deriving DecidableEq

def Rejection.message : Rejection → String
  | .alreadyPresent => "relation already exists"
  | .absent => "relation does not exist"
  | .unknownStatement => "unsupported statement"

/-- The number of rows of a table, named in any case of its ASCII letters. -/
def count? (db : Database) (table : String) : Option Nat :=
  Assoc.find? table.toLower db.tables

def step (tables : Assoc String Nat) : Statement → Except Rejection (Assoc String Nat)
  | .createTable name unlessPresent =>
    if Assoc.contains name tables then
      if unlessPresent then .ok tables else .error .alreadyPresent
    else .ok (Assoc.insert name 0 tables)
  | .dropTable name ifPresent =>
    if Assoc.contains name tables then .ok (Assoc.erase name tables)
    else if ifPresent then .ok tables else .error .absent
  | .insertRows name rows =>
    match Assoc.find? name tables with
    | some present => .ok (Assoc.insert name (present + rows) tables)
    | none => .error .absent
  | .clearTable name =>
    if Assoc.contains name tables then .ok (Assoc.insert name 0 tables) else .error .absent

/-- The database after a statement that it accepts. -/
def execute (db : Database) (statement : String) : Except Rejection Database :=
  match Statement.parse? statement with
  | none => .error .unknownStatement
  | some parsed => (step db.tables parsed).map fun tables => ⟨tables, db.executed + 1⟩

end Database

end ScopedResources.Memory
