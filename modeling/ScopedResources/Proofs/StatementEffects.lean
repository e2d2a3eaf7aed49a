import ScopedResources.Lifecycle.Handle
import ScopedResources.Proofs.Action
import ScopedResources.Proofs.DerivedDrops
import ScopedResources.Proofs.StatementGrammar

/-!
# What a statement leaves behind

Read access by access, a statement looks a table up, writes to it and may be rejected, and nothing
takes back what was written before a rejection. A drop even removes its table before it decides.
Still every statement that is rejected leaves the database as it was, and one that is accepted
touches the one table that it names. -/

namespace ScopedResources

namespace Memory.Database

/-- Work on the tables. What was written before a rejection stays written. -/
abbrev TableTask := ExceptT Rejection (StateM (Assoc String Nat))

/-- Changes the number of rows of a table that has to be there. -/
def update (name : String) (change : Nat → Nat) : TableTask Unit := do
  match Assoc.find? name (← get) with
  | some rows => modify (Assoc.insert name (change rows))
  | none => throw .absent

/-- A statement, access by access. -/
def work : Statement → TableTask Unit
  | .createTable name unlessPresent => do
    if Assoc.contains name (← get) then
      if unlessPresent then pure () else throw .alreadyPresent
    else modify (Assoc.insert name 0)
  | .dropTable name ifPresent => do
    let removed := Assoc.find? name (← get)
    modify (Assoc.erase name)
    if removed.isNone ∧ ¬ ifPresent then throw .absent
  | .insertRows name rows => update name fun present => present + rows
  | .clearTable name => update name fun _ => 0

/-- Runs the text of a statement, access by access. -/
def perform (statement : String) : ExceptT Rejection (StateM Database) Unit :=
  fun db =>
    match Statement.parse? statement with
    | none => (.error .unknownStatement, db)
    | some parsed =>
      match work parsed db.tables with
      | (.ok (), tables) => (.ok (), { tables, executed := db.executed + 1 })
      | (.error rejection, tables) => (.error rejection, { db with tables })

open Lifecycle

variable {tables next : Assoc String Nat} {name table statement : String} {parsed : Statement}

theorem update_of_none (h : Assoc.find? name tables = none) (change : Nat → Nat) :
    update name change tables = (.error .absent, tables) := by
  unfold update
  rw [Action.run_bind, Action.run_get]
  dsimp only
  rw [h]
  rfl

theorem update_of_some {rows : Nat} (h : Assoc.find? name tables = some rows) (change : Nat → Nat) :
    update name change tables = (.ok (), Assoc.insert name (change rows) tables) := by
  unfold update
  rw [Action.run_bind, Action.run_get]
  dsimp only
  rw [h]
  rfl

/-- What a statement comes to, all accesses together: nothing is written before a rejection but what
was there already. -/
theorem work_eq (parsed : Statement) (tables : Assoc String Nat) :
    work parsed tables = match step tables parsed with
      | .ok next => (.ok (), next)
      | .error rejection => (.error rejection, tables) := by
  cases parsed with
  | createTable name unlessPresent =>
      rw [work, step, Action.run_bind, Action.run_get]
      dsimp only
      cases Assoc.contains name tables <;> cases unlessPresent <;> rfl
  | dropTable name ifPresent =>
      rw [work, step, Action.run_bind, Action.run_get, Assoc.contains]
      dsimp only
      cases hfind : Assoc.find? name tables with
      | none =>
          -- there was nothing to remove
          have hsame : Assoc.erase name tables = tables := Assoc.erase_of_find? hfind
          cases ifPresent <;> exact Prod.ext rfl hsame
      | some rows => cases ifPresent <;> rfl
  | insertRows name rows =>
      rw [work, step]
      cases hfind : Assoc.find? name tables with
      | none => exact update_of_none hfind _
      | some present => exact update_of_some hfind _
  | clearTable name =>
      rw [work, step, Assoc.contains]
      cases hfind : Assoc.find? name tables with
      | none => exact update_of_none hfind _
      | some present => exact update_of_some hfind _

theorem perform_eq (statement : String) (db : Database) :
    perform statement db = match db.execute statement with
      | .ok after => (.ok (), after)
      | .error rejection => (.error rejection, db) := by
  unfold perform execute
  cases Statement.parse? statement with
  | none => rfl
  | some parsed =>
      dsimp only
      rw [work_eq]
      cases step db.tables parsed <;> rfl

/-- A statement changes no other table than its own. -/
theorem find?_step (h : step tables parsed = .ok next) (hne : table ≠ parsed.table) :
    Assoc.find? table next = Assoc.find? table tables := by
  have hinsert : ∀ rows, Assoc.find? table (Assoc.insert parsed.table rows tables) =
      Assoc.find? table tables := by
    intro rows
    rw [Assoc.find?_insert, if_neg hne.symm]
  cases parsed with
  | createTable name unlessPresent =>
      rw [step] at h
      split at h
      next =>
        split at h
        next =>
          cases h
          rfl
        next => cases h
      next =>
        cases h
        exact hinsert 0
  | dropTable name ifPresent =>
      rw [step] at h
      split at h
      next =>
        cases h
        exact (Assoc.find?_erase ..).trans (if_neg hne.symm)
      next =>
        split at h
        next =>
          cases h
          rfl
        next => cases h
  | insertRows name rows =>
      rw [step] at h
      split at h
      next =>
        cases h
        exact hinsert _
      next => cases h
  | clearTable name =>
      rw [step] at h
      split at h
      next =>
        cases h
        exact hinsert 0
      next => cases h

/-- A statement that is rejected leaves the database as it was; one that is accepted is counted, and
leaves every table but the one that it names. -/
structure Atomic (db : Database) (statement : String) : Prop where
  /-- All accesses together come to what the database answers. -/
  runs : perform statement db = match db.execute statement with
    | .ok after => (.ok (), after)
    | .error rejection => (.error rejection, db)
  rejected : ∀ {rejection after}, perform statement db = (.error rejection, after) → after = db
  accepted : ∀ {after}, perform statement db = (.ok (), after) →
    after.executed = db.executed + 1 ∧ ∃ parsed written,
      Statement.parse? statement = some parsed ∧ Statement.Names statement.toList written ∧
      parsed.table = Statement.tableNamed written ∧ ∀ table, table ≠ parsed.table →
        Assoc.find? table after.tables = Assoc.find? table db.tables

theorem atomic (db : Database) (statement : String) : db.Atomic statement where
  runs := perform_eq statement db
  rejected {rejection after} h := by
    rw [perform_eq] at h
    split at h <;> cases h
    rfl
  accepted {after} h := by
    rw [perform_eq] at h
    split at h
    next next hexecuted =>
      cases h
      obtain ⟨parsed, hparsed, hstep, hcounted⟩ := execute_eq_ok_iff.mp hexecuted
      obtain ⟨written, hnames, htable⟩ := Statement.parse?_reads hparsed
      exact ⟨hcounted, parsed, written, hparsed, hnames, htable, fun table hne =>
        find?_step hstep hne⟩
    next => cases h

end Memory.Database

namespace Lifecycle

open Memory

/-- Through the connection no statement reaches a database. -/
structure ClosedOff (connection : Connection) (statement : String) : Prop where
  refuses : ∀ server,
    connection.execute server statement = .error ⟨statement, "connection is closed"⟩
  /-- The databases are those of the servers, which are the same behind the statement. -/
  sends : ∀ {id} {s : State}, (s.handle id).connection = connection →
    (send id statement s).1 = .error ⟨statement, "connection is closed"⟩ ∧
      (send id statement s).2.servers = s.servers

theorem send_of_error {id : HandleId} {s : State} {statement : String} {error : StatementError}
    (h : (s.handle id).connection.execute (s.server (s.handle id).server) statement =
      .error error) :
    (send id statement s).1 = .error error ∧ (send id statement s).2.servers = s.servers := by
  -- that the statement is sent is noted first, which changes neither handles nor servers
  obtain ⟨noted, hnoted⟩ : ∃ noted, noted = (note (.sent id statement) s).2 := ⟨_, rfl⟩
  have hfails : (noted.handle id).connection.execute (noted.server (noted.handle id).server)
      statement = .error error := by
    rw [hnoted]
    exact h
  have hrun : send id statement s = (.error error, noted) := by
    unfold send
    rw [Action.step_bind, Action.step_bind, Action.step_get, ← hnoted]
    dsimp only
    rw [hfails]
    rfl
  rw [hrun, hnoted]
  exact ⟨rfl, rfl⟩

theorem closedOff {connection : Connection} (h : connection.closed = true) (statement : String) :
    ClosedOff connection statement := by
  have hrefuses : ∀ server,
      connection.execute server statement = .error ⟨statement, "connection is closed"⟩ := by
    intro server
    unfold Connection.execute
    exact if_pos h
  refine ⟨hrefuses, ?_⟩
  rintro id s rfl
  exact send_of_error (hrefuses _)

/-- Statements either fail and change nothing or are counted and change the table that they name,
and a closed connection passes none of them on. -/
theorem statements_are_atomic (statement : String) : (∀ db : Database, db.Atomic statement) ∧
    ∀ {connection : Connection}, connection.closed = true → ClosedOff connection statement :=
  ⟨fun db => db.atomic statement, fun hclosed => closedOff hclosed statement⟩

/-- A table that is not there is not dropped, whatever else is there. -/
theorem absent_table_not_dropped :
    Database.perform "DROP TABLE users" { tables := [("orders", 2)], executed := 1 } =
      (.error .absent, { tables := [("orders", 2)], executed := 1 }) ∧
    ClosedOff (connectExternal { scheme := "memory", host := "localhost", port := 7070 }).close
      "DROP TABLE users" := by
  have hparse : Statement.parse? "DROP TABLE users" = some (.dropTable "users" false) := by
    decide +kernel
  have hrejected :
      Database.perform "DROP TABLE users" { tables := [("orders", 2)], executed := 1 } =
      (.error .absent, { tables := [("orders", 2)], executed := 1 }) := by
    unfold Database.perform
    rw [hparse]
    rfl
  exact ⟨hrejected, (statements_are_atomic "DROP TABLE users").2 rfl⟩

end Lifecycle
end ScopedResources
