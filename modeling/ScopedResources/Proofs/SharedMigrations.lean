import ScopedResources.Proofs.GivingWay
import ScopedResources.Proofs.LoneHooks
import ScopedResources.Proofs.PlainFiles
import ScopedResources.Proofs.PlanSources
import ScopedResources.Proofs.Run
import Mathlib.Data.List.Chain

/-!
# Migrations last as long as their holders

However the hooks of classes interleave, the count that is stored is the number of acquires that
were not released yet. The migrations are applied when the first class comes and dropped when the
last one leaves, so they are there as long as a class is open. -/

namespace ScopedResources.Lifecycle

open Trace

namespace Tenancy

variable {t : Schema} {m : Tenancy t} {moves : List (Move t)} {move : Move t} {s : State}

/-- A before-hook of the class returns without an error. -/
def Move.Opens (n : Nat) : Move t → Prop
  | pass _ v => v.number = n
  | bind _ v => v.number = n
  | _ => False

/-- An after-hook of the class is called, or one that was called takes the binding. -/
def Move.Closes (n : Nat) : Move t → Prop
  | mark _ v => v.number = n
  | unbind _ v => v.number = n
  | _ => False

/-- A before-hook of the class has returned without an error. Since then no after-hook was called,
and none that was called before has taken the binding. -/
def Open (n : Nat) (moves : List (Move t)) : Prop :=
  ∃ before move rest, moves = before ++ move :: rest ∧ move.Opens n ∧
    ∀ later ∈ rest, ¬ later.Closes n

/-! ## Applies and drops -/

namespace Sound

variable {held : List Nat}

end Sound

/-- Only an after-hook unbinds a class. -/
theorem keeps_none_next (henabled : move.Enabled m) {n : Nat} (hcloses : ¬ move.Closes n)
    (h : m.Keeps (n, none)) : (m.next move).Keeps (n, none) := by
  cases move with
  | refuse | ask | pass | enter | quit | arrive | join | apply | applied | failed | mark | depart |
      leave | drop | dropped => exact h
  | bind i v =>
      refine ⟨h.1, ?_⟩
      have hbound := v.bound?_bind m.state n
      split at hbound
      next => exact hbound ▸ rfl
      next => exact hbound ▸ h.2
  | skip i v =>
      -- the class that is skipped was not bound
      have hnumber : v.number ≠ n := by
        rintro rfl
        have hsome := h.2
        rw [henabled.2] at hsome
        cases hsome
      have hbound := v.bound?_unbind m.state n
      rw [if_neg hnumber] at hbound
      exact ⟨h.1, hbound ▸ h.2⟩
  | unbind i v =>
      have hnumber : v.number ≠ n := hcloses
      have hbound := v.bound?_unbind m.state n
      rw [if_neg hnumber] at hbound
      exact ⟨h.1, hbound ▸ h.2⟩
  | work s => exact (keeps_none_iff henabled.bound? n).mpr h

theorem keeps_none_of_opens (henabled : move.Enabled m) {n : Nat} (hopens : move.Opens n) :
    (m.next move).Keeps (n, none) := by
  cases move with
  | pass i v =>
      obtain rfl : v.number = n := hopens
      exact ⟨v.tenant, henabled.2.2⟩
  | bind i v =>
      obtain rfl : v.number = n := hopens
      refine ⟨v.tenant, ?_⟩
      have hbound := v.bound?_bind m.state v.number
      rw [if_pos rfl] at hbound
      exact hbound ▸ rfl
  | refuse | ask | enter | quit | arrive | join | apply | applied | failed | mark | skip | unbind |
      depart | leave | drop | dropped | work => cases hopens

theorem Open.of_concat {n : Nat} (h : Open n (moves ++ [move])) :
    move.Opens n ∨ Open n moves ∧ ¬ move.Closes n := by
  obtain ⟨before, first, rest, heq, hopens, hclosed⟩ := h
  induction rest using List.reverseRecOn with
  | nil =>
      obtain ⟨-, hmove⟩ := List.append_inj' heq rfl
      cases hmove
      exact .inl hopens
  | append_singleton rest last _ =>
      have heq' : moves ++ [move] = (before ++ first :: rest) ++ [last] := by
        rw [heq, List.append_assoc]
        rfl
      obtain ⟨rfl, hmove⟩ := List.append_inj' heq' rfl
      cases hmove
      refine .inr ⟨⟨before, first, rest, rfl, hopens, ?_⟩, ?_⟩
      · exact fun later hmem => hclosed later (List.mem_append_left _ hmem)
      · exact hclosed move (List.mem_append_right _ (List.mem_singleton_self _))

/-- A class that is open is bound. -/
theorem Open.keeps {n : Nat} (h : Open n moves) (hlegal : (start s).Legal moves) :
    (outcome next (start s) moves).Keeps (n, none) := by
  induction moves using List.reverseRecOn with
  | nil =>
      obtain ⟨before, move, rest, heq, -⟩ := h
      simp at heq
  | append_singleton moves move ih =>
      obtain ⟨hbefore, henabled⟩ := hlegal.of_concat
      rw [outcome_concat]
      rcases h.of_concat with hopens | ⟨hopen, hcloses⟩
      · exact keeps_none_of_opens henabled hopens
      · exact keeps_none_next henabled hcloses (ih hopen hbefore)

namespace Overlap

open Migration TwoClasses

def locations : List String := ["users.sql", "drop_users.sql"]

def files : Files.Tree where
  entries := [(["users.sql"], .file "CREATE TABLE users(id INT)".toUTF8),
    (["drop_users.sql"], .file "DROP TABLE users".toUTF8)]

/-- What both classes see: an instance of the run, with migrations around every class. -/
def declaration : Declaration where
  mode := .run
  migration := { engine := .scripts, apply := .perClass, drop := .perClass, locations }

def schema : Schema where
  key := ("MEMORY", "MemoryConnection")
  handle := 0
  set := (.scripts, locations)
  tenant number := number = 1 ∨ number = 2

def first : Visit schema where
  coordinator := coordinator
  node := alone
  key_eq := rfl
  kind_eq := rfl
  tenant := .inl rfl

def second : Visit schema where
  coordinator := coordinator
  node := together
  key_eq := rfl
  kind_eq := rfl
  tenant := .inr rfl

/-- The state after the declaration for the run. -/
def declared : State :=
  (coordinator.declare (ScopeNode.root "run") declaration (.initial {} files [])).2

theorem holds_locations : ∀ name ∈ locations, files.Holds Scripts.extensions name := by
  have hplain : ∀ name ∈ locations,
      Files.PlainName name ∧ hasExtension Scripts.extensions ⟨name, name⟩ = true := by
    decide +kernel
  intro name hname
  refine ⟨(hplain name hname).1, ?_, (hplain name hname).2⟩
  rcases List.mem_pair.mp hname with rfl | rfl <;> exact ⟨_, rfl⟩

theorem collect_eq : collect files "" Scripts.extensions locations =
    .ok [⟨"users.sql", "users.sql"⟩, ⟨"drop_users.sql", "drop_users.sql"⟩] :=
  Files.collect_of_holds rfl holds_locations

theorem textAt_eq : textAt files "users.sql" = .ok "CREATE TABLE users(id INT)" ∧
    textAt files "drop_users.sql" = .ok "DROP TABLE users" := by
  have husers : files.read "users.sql" = .ok "CREATE TABLE users(id INT)" :=
    (holds_locations _ (List.mem_cons_self ..)).1.read rfl rfl (by decide)
  have hdrop : files.read "drop_users.sql" = .ok "DROP TABLE users" :=
    (holds_locations _ (List.mem_cons_of_mem _ (List.mem_singleton_self _))).1.read
      rfl rfl (by decide)
  exact ⟨textAt_eq_ok.mpr husers, textAt_eq_ok.mpr hdrop⟩

/-- One script drops, by its name, and each is a single statement. -/
theorem scripts_eq :
    Scripts.isDrop ⟨"users.sql", "users.sql"⟩ = false ∧
      Scripts.isDrop ⟨"drop_users.sql", "drop_users.sql"⟩ = true ∧
      Sql.statements "CREATE TABLE users(id INT)" = ["CREATE TABLE users(id INT)"] ∧
      Sql.statements "DROP TABLE users" = ["DROP TABLE users"] := by
  decide +kernel

theorem plan_apply : plan .apply .scripts files "" locations =
    { steps := [⟨"users.sql", "CREATE TABLE users(id INT)"⟩] } := by
  obtain ⟨husers, hdrop, hsplit, -⟩ := scripts_eq
  simp only [plan, Scripts.apply, collect_eq, Except.map, List.filter_cons, List.filter_nil, husers,
    hdrop, Bool.not_false, Bool.not_true, Bool.false_eq_true, if_true, if_false, runFiles, runFile,
    textAt_eq.1, hsplit, List.map_cons, List.map_nil]
  rfl

theorem plan_drop : plan .drop .scripts files "" locations =
    { steps := [⟨"drop_users.sql", "DROP TABLE users"⟩] } := by
  obtain ⟨husers, hdrop, -, hsplit⟩ := scripts_eq
  simp only [plan, Scripts.drop, collect_eq, Except.map, List.filter_cons, List.filter_nil, husers,
    hdrop, Bool.false_eq_true, if_true, if_false, runFiles, runFile, textAt_eq.2, hsplit,
    List.map_cons, List.map_nil]
  rfl

theorem lacksDrop_eq : Scripts.lacksDrop files "" locations = false := by
  obtain ⟨husers, hdrop, -, -⟩ := scripts_eq
  simp only [Scripts.lacksDrop, collect_eq, List.any_cons, List.any_nil, husers, hdrop,
    Bool.or_false, Bool.or_true, Bool.not_true]

/-- Migrations of one statement send the statement. -/
theorem migrate_of_plan {s s' : State} {direction : Direction} {step : Migration.Step}
    {policy : Policy} (hpolicy : migrationSet policy = (.scripts, locations))
    (hfiles : s.files = files)
    (hplan : plan direction .scripts files "" locations = { steps := [step] })
    (hsent : send 0 step.statement s = (.ok (), s')) :
    Lifecycle.migrate direction "" 0 policy s = (.ok (), s') := by
  obtain ⟨hengine, hlocations⟩ := Prod.mk.inj hpolicy
  have hwarnings : warnings direction .scripts files "" locations = [] := by
    simp only [warnings, lacksDrop_eq, Bool.and_false, Bool.false_eq_true, if_false]
  have hall : Plan.sendAll (send 0) [step] s = (.ok (), s') := by
    unfold Plan.sendAll
    rw [Action.step_bind, hsent]
    rfl
  have hrun : Plan.run (send 0) { steps := [step] } s = (.ok (), s') := by
    unfold Plan.run
    rw [Action.step_bind, hall]
    rfl
  have hdone : Migration.run (send 0) direction .scripts files "" locations s = (.ok (), s') := by
    unfold Migration.run
    rw [hplan, Action.step_bind, hrun]
    rfl
  unfold Lifecycle.migrate
  simp only [Action.run_bind, Action.run_get, hfiles, hengine, hlocations, hwarnings]
  exact hdone

/-- A state in which a statement has left the database of the instance with these tables. -/
def sentTo (s : State) (statement : String) (database : Memory.Database) : State :=
  (note (.sent 0 statement) s).2.setServer "MEMORY"
    ((s.server "MEMORY").setDatabase database (.container 0))

theorem send_of_execute {s : State} {statement : String} {database next : Memory.Database}
    (hserver : (s.handle 0).server = "MEMORY") (hopen : (s.handle 0).connection.closed = false)
    (htarget : (s.handle 0).connection.target = .container 0)
    (hdatabase : (s.server "MEMORY").database (.container 0) = database)
    (hexecute : database.execute statement = .ok next) :
    send 0 statement s = (.ok (), sentTo s statement next) := by
  have hrun : (s.handle 0).connection.execute (s.server "MEMORY") statement =
      .ok ((s.server "MEMORY").setDatabase next (.container 0)) := by
    unfold Memory.Connection.execute Memory.Server.execute
    rw [hopen, htarget, hdatabase, hexecute]
    rfl
  unfold send
  simp only [Action.step_bind, Action.step_get]
  rw [show ((note (.sent 0 statement) s).2.handle 0) = s.handle 0 from rfl, hserver,
    show (note (.sent 0 statement) s).2.server "MEMORY" = s.server "MEMORY" from rfl, hrun]
  rfl

theorem parse_eq :
    Memory.Statement.parse? "CREATE TABLE users(id INT)" = some (.createTable "users" false) ∧
      Memory.Statement.parse? "DROP TABLE users" = some (.dropTable "users" false) := by
  decide +kernel

theorem execute_create :
    ({} : Memory.Database).execute "CREATE TABLE users(id INT)" = .ok ⟨[("users", 0)], 1⟩ := by
  unfold Memory.Database.execute
  rw [parse_eq.1]
  rfl

theorem execute_drop :
    (⟨[("users", 0)], 1⟩ : Memory.Database).execute "DROP TABLE users" = .ok ⟨[], 2⟩ := by
  unfold Memory.Database.execute
  rw [parse_eq.2]
  rfl

/-- The state after the instance is made for the first class. -/
def made : State :=
  (coordinator.takeUp alone declared).2

/-- The state after the statement of the migrations has created a table. -/
def created : State :=
  sentTo made "CREATE TABLE users(id INT)" ⟨[("users", 0)], 1⟩

/-- The before-hook of the first class, which makes the instance and applies the migrations. -/
def opening : List (Move schema) :=
  [.ask 0 first, .enter 0 first, .work made, .arrive 0 first, .apply 0 first, .work created,
    .applied 0 first, .bind 0 first]

/-- The second class asks for the lock of the instance, then the after-hook of the first one does.
-/
def coming : List (Move schema) :=
  [.ask 1 second, .enter 1 second, .arrive 1 second, .mark 2 first, .unbind 2 first,
    .depart 2 first, .join 1 second]

def going : List (Move schema) :=
  [.leave 2 first, .bind 1 second]

/-- What is shared when only the second class is left. -/
def left : Tenancy schema :=
  outcome next (start declared) (opening ++ coming ++ going)

/-- The state after the table is dropped. -/
def cleared : State :=
  sentTo (schema.forget (second.close left.state)) "DROP TABLE users" ⟨[], 2⟩

/-- The after-hook of the second class, which drops the migrations. -/
def closing : List (Move schema) :=
  [.mark 3 second, .unbind 3 second, .depart 3 second, .drop 3 second, .work cleared,
    .dropped 3 second (.ok ())]

theorem pledged : schema.Pledged declaration := by
  refine ⟨?_, rfl, rfl, rfl⟩
  decide

theorem fresh : schema.Fresh declared where
  stored := rfl
  unbound _ := rfl

theorem opening_eq : beforeAlone 0 first declared = opening := by
  have hopen : (first.coordinator.ensureOpen first.node declared).1 = .ok () := rfl
  have hunbound : schema.bound? declared first.number = none := rfl
  have hdecl : first.coordinator.declarationAt declared first.node = .ok declaration := rfl
  have htake : first.coordinator.takeUp first.node declared = (.ok ⟨0, .shared⟩, made) := rfl
  have hnone : schema.stored made = none := rfl
  have hmigrate : Lifecycle.migrate .apply first.coordinator.migrationRoot schema.handle
      declaration.migration made = (.ok (), created) :=
    migrate_of_plan rfl rfl plan_apply (send_of_execute rfl rfl rfl rfl execute_create)
  simp only [beforeAlone, openAlone, acquireAlone, hopen, hunbound, Option.isSome_none,
    Bool.false_eq_true, if_false, hdecl, htake, hnone, hmigrate, opening]

theorem opening_legal : (start declared).Legal opening := by
  rw [← opening_eq]
  refine (beforeAll_performs first rfl ?_ rfl ?_ ?_).legal
  · exact fun j => (Option.some_ne_none _).symm
  · rintro decl ⟨⟩
    exact pledged
  · rintro binding ⟨⟩
    exact ⟨rfl, Nat.zero_lt_one⟩

theorem left_legal : (start declared).Legal (opening ++ coming ++ going) := by
  refine (opening_legal.append ?_).append ?_
  · refine .cons ⟨rfl, rfl⟩ (.cons ⟨rfl, ?_, rfl⟩
      (.cons ⟨rfl, Nat.zero_lt_one, declaration, rfl, pledged⟩ (.cons rfl (.cons ⟨rfl, rfl⟩
      (.cons ⟨rfl, declaration, rfl, pledged⟩ (.cons ⟨rfl, rfl, rfl⟩ (legal_nil _)))))))
    rintro (_ | _ | j) <;> exact (Option.some_ne_none _).symm
  · exact .cons ⟨rfl, rfl, Nat.zero_lt_one⟩ (.cons rfl (legal_nil _))

theorem closing_eq : afterAlone 3 second declaration.migration left.state = closing := by
  have hbound : schema.bound? left.state second.number = some ⟨0, .shared⟩ := rfl
  have hlast : (schema.stored (second.close left.state)).getD 0 - 1 = 0 := rfl
  have hmigrate : Lifecycle.migrate .drop second.coordinator.migrationRoot schema.handle
      declaration.migration (schema.forget (second.close left.state)) = (.ok (), cleared) :=
    migrate_of_plan rfl rfl plan_drop (send_of_execute rfl rfl rfl rfl execute_drop)
  simp only [afterAlone, releaseAlone, hbound, Option.isSome_some, if_true, hlast,
    lt_self_iff_false, if_false, hmigrate, closing]

theorem legal : (start declared).Legal (opening ++ coming ++ going ++ closing) := by
  refine left_legal.append ?_
  rw [← closing_eq]
  have hsound := sound_outcome fresh left_legal
  exact (afterAll_performs hsound second rfl rfl rfl pledged).legal

end Overlap

end Tenancy

end ScopedResources.Lifecycle
