import ScopedResources.Proofs.PlanSources
import ScopedResources.Proofs.Action

/-!
# Running a plan on any connection

A connection may accept or reject a statement by any rule, given what it was sent before. What a
migration sends does not hang on the answers: up to the first rejection it is what a connection is
sent that accepts everything, and nothing is sent behind it. The error of the migration then names
the place that the rejected statement comes from. -/

namespace ScopedResources.Migration

/-- How a connection answers to a statement, given the statements that it was sent before: it
accepts the statement, or rejects it with an error. -/
abbrev Rule := List String → String → Option StatementError

/-- What was sent to a connection, and what it accepted of that. -/
structure Traffic where
  seen : List String := []
  accepted : List String := []

namespace Traffic

def accept (past : Traffic) (statements : List String) : Traffic :=
  ⟨past.seen ++ statements, past.accepted ++ statements⟩

def reject (past : Traffic) (statement : String) : Traffic :=
  { past with seen := past.seen ++ [statement] }

theorem accept_nil (past : Traffic) : past.accept [] = past := by
  simp [accept]

theorem accept_append (past : Traffic) (statements more : List String) :
    past.accept (statements ++ more) = (past.accept statements).accept more := by
  simp [accept]

end Traffic

namespace Rule

/-- The rule of a connection that accepts everything. -/
def tolerant : Rule :=
  fun _ _ => none

/-- Sends a statement to a connection with this rule. -/
def send (rule : Rule) (statement : String) : StateM Traffic (Except StatementError Unit) :=
  fun past => match rule past.seen statement with
    | none => (.ok (), past.accept [statement])
    | some error => (.error error, past.reject statement)

/-- Every one of the statements is accepted when its turn comes. -/
def Accepts (rule : Rule) (past : Traffic) (statements : List String) : Prop :=
  ∀ before statement rest, statements = before ++ statement :: rest →
    rule (past.seen ++ before) statement = none

variable {rule : Rule} {past : Traffic} {statement : String} {statements : List String}

theorem accepts_nil (rule : Rule) (past : Traffic) : rule.Accepts past [] := by
  intro before statement rest heq
  cases before <;> cases heq

theorem accepts_cons : rule.Accepts past (statement :: statements) ↔
    rule past.seen statement = none ∧ rule.Accepts (past.accept [statement]) statements := by
  constructor
  · intro h
    refine ⟨?_, fun before next rest heq => ?_⟩
    · have hfirst := h [] statement statements rfl
      rwa [List.append_nil] at hfirst
    · have hnext := h (statement :: before) next rest (by rw [heq]; rfl)
      rwa [Traffic.accept, List.append_assoc]
  · rintro ⟨hfirst, hrest⟩ before next rest heq
    cases before with
    | nil =>
        cases heq
        rwa [List.append_nil]
    | cons first before =>
        cases heq
        have hnext := hrest before next rest rfl
        rwa [Traffic.accept, List.append_assoc] at hnext

theorem tolerant_accepts (past : Traffic) (statements : List String) :
    tolerant.Accepts past statements :=
  fun _ _ _ _ => rfl

end Rule

variable {rule : Rule} {past : Traffic}

/-! ## Steps -/

theorem sendAll_of_accepts {steps : List Step} (h : rule.Accepts past (steps.map Step.statement)) :
    Plan.sendAll rule.send steps past = (.ok (), past.accept (steps.map Step.statement)) := by
  induction steps generalizing past with
  | nil =>
      rw [List.map_nil, Traffic.accept_nil]
      rfl
  | cons step rest ih =>
      rw [List.map_cons, Rule.accepts_cons] at h
      unfold Plan.sendAll
      rw [Lifecycle.Action.step_bind, Rule.send, h.1]
      change Plan.sendAll rule.send rest (past.accept [step.statement]) = _
      rw [ih h.2, ← Traffic.accept_append]
      rfl

theorem sendAll_of_rejects {before : List Step} {step : Step} {rest : List Step}
    {error : StatementError} (h : rule.Accepts past (before.map Step.statement))
    (herror : rule (past.seen ++ before.map Step.statement) step.statement = some error) :
    Plan.sendAll rule.send (before ++ step :: rest) past = (.error ⟨step.origin, .rejected error⟩,
      (past.accept (before.map Step.statement)).reject step.statement) := by
  induction before generalizing past with
  | nil =>
      rw [List.map_nil, List.append_nil] at herror
      rw [List.map_nil, Traffic.accept_nil, List.nil_append]
      unfold Plan.sendAll
      rw [Lifecycle.Action.step_bind, Rule.send, herror]
      rfl
  | cons first before ih =>
      rw [List.map_cons, Rule.accepts_cons] at h
      rw [List.cons_append]
      unfold Plan.sendAll
      rw [Lifecycle.Action.step_bind, Rule.send, h.1]
      change Plan.sendAll rule.send (before ++ step :: rest) (past.accept [first.statement]) = _
      rw [ih h.2, ← Traffic.accept_append]
      · rfl
      · rw [Traffic.accept, List.append_assoc]
        exact herror

/-- Either all steps are accepted, or one of them is the first that is rejected. -/
theorem accepts_or_rejects (rule : Rule) (past : Traffic) (steps : List Step) :
    rule.Accepts past (steps.map Step.statement) ∨
      ∃ before step rest error, steps = before ++ step :: rest ∧
        rule.Accepts past (before.map Step.statement) ∧
        rule (past.seen ++ before.map Step.statement) step.statement = some error := by
  induction steps generalizing past with
  | nil => exact .inl (rule.accepts_nil past)
  | cons step rest ih =>
      cases hfirst : rule past.seen step.statement with
      | some error =>
          refine .inr ⟨[], step, rest, error, rfl, rule.accepts_nil past, ?_⟩
          rwa [List.map_nil, List.append_nil]
      | none =>
          rcases ih (past.accept [step.statement])
            with hall | ⟨before, next, rest, error, rfl, h, herror⟩
          · exact .inl (Rule.accepts_cons.mpr ⟨hfirst, hall⟩)
          · refine .inr ⟨step :: before, next, rest, error, rfl,
              Rule.accepts_cons.mpr ⟨hfirst, h⟩, ?_⟩
            rwa [Traffic.accept, List.append_assoc] at herror

/-! ## Migrations -/

/-- What a migration results in where nothing is rejected. -/
def Plan.verdict (engine : Engine) (plan : Plan) : Except LifecycleError Unit :=
  match plan.failure with
  | none => .ok ()
  | some failure => .error (failure.toError engine)

section Migrations

variable {direction : Direction} {engine : Engine} {tree : Files.Tree} {root : String}
variable {locations : List String}

theorem run_of_sendAll {m : Type → Type} [Monad m] [LawfulMonad m]
    (send : String → m (Except StatementError Unit)) :
    run send direction engine tree root locations = (do
      match (← Plan.sendAll send (plan direction engine tree root locations).steps) with
      | .ok () => pure ((plan direction engine tree root locations).verdict engine)
      | .error failure => pure (.error (failure.toError engine))) := by
  unfold run Plan.run Plan.verdict
  rw [bind_assoc]
  refine bind_congr fun result => ?_
  rcases result with failure | _
  · exact pure_bind ..
  · cases (plan direction engine tree root locations).failure <;> exact pure_bind ..

theorem run_of_accepts
    (h : rule.Accepts past ((plan direction engine tree root locations).steps.map Step.statement)) :
    run rule.send direction engine tree root locations past =
      ((plan direction engine tree root locations).verdict engine,
        past.accept ((plan direction engine tree root locations).steps.map Step.statement)) := by
  rw [run_of_sendAll, Lifecycle.Action.step_bind, sendAll_of_accepts h]
  rfl

theorem run_of_rejects {before : List Step} {step : Step} {rest : List Step}
    {error : StatementError}
    (hsteps : (plan direction engine tree root locations).steps = before ++ step :: rest)
    (h : rule.Accepts past (before.map Step.statement))
    (herror : rule (past.seen ++ before.map Step.statement) step.statement = some error) :
    run rule.send direction engine tree root locations past =
      (.error (.migration engine.name step.origin error.message),
        (past.accept (before.map Step.statement)).reject step.statement) := by
  rw [run_of_sendAll, Lifecycle.Action.step_bind, hsteps, sendAll_of_rejects h herror]
  rfl

end Migrations

/-- A step of two runs of steps stands in the one or in the other. -/
theorem append_eq_append_cons {first second before rest : List Step} {step : Step}
    (h : first ++ second = before ++ step :: rest) :
    (∃ more, first = before ++ step :: more) ∨
      ∃ after, before = first ++ after ∧ second = after ++ step :: rest := by
  rcases List.append_eq_append_iff.mp h with ⟨after, hbefore, hrest⟩ | ⟨after, hfirst, hrest⟩
  · exact .inr ⟨after, hbefore, hrest⟩
  · cases after with
    | nil =>
        rw [List.append_nil] at hfirst
        exact .inr ⟨[], by rw [hfirst, List.append_nil], hrest.symm⟩
    | cons next more =>
        obtain ⟨rfl, -⟩ := List.cons.inj hrest
        exact .inl ⟨more, hfirst⟩

/-- A step of some sources is a statement of one of them. -/
theorem flatMap_steps_eq_append {sources : List Source} {before : List Step} {step : Step}
    {rest : List Step} (h : sources.flatMap Source.steps = before ++ step :: rest) :
    ∃ earlier source later done more, sources = earlier ++ source :: later ∧
      source.statements = done ++ step.statement :: more ∧ source.origin = step.origin ∧
      before.map Step.statement = earlier.flatMap Source.statements ++ done := by
  induction sources generalizing before with
  | nil => exact absurd h.symm (by simp)
  | cons source sources ih =>
      have hstatements : source.steps.map Step.statement = source.statements := by
        simp [Source.steps, Function.comp_def]
      rw [List.flatMap_cons] at h
      rcases append_eq_append_cons h with ⟨more, hsource⟩ | ⟨after, rfl, hrest⟩
      · refine ⟨[], source, sources, before.map Step.statement, more.map Step.statement,
          rfl, ?_, ?_, rfl⟩
        · rw [← hstatements, hsource, List.map_append]
          rfl
        · have hmem : step ∈ source.steps := by simp [hsource]
          obtain ⟨statement, -, rfl⟩ := List.mem_map.mp hmem
          rfl
      · obtain ⟨earlier, found, later, done, more, rfl, hfound, horigin, hdone⟩ := ih hrest
        refine ⟨source :: earlier, found, later, done, more, rfl, hfound, horigin, ?_⟩
        rw [List.map_append, hstatements, hdone, List.flatMap_cons, List.append_assoc]

/-- Let a migration of any engine in either direction be run on a connection with any rule. Its
statements are those of its sources, one source after another, and a connection that accepts
everything is sent all of them. Any other connection either accepts all of them as well, and the
result is the same; or it accepts the statements up to the first that it rejects, and is sent
nothing behind that one. The error then names the engine and the source of the rejected statement,
and carries the error of the connection. -/
theorem runs_stop_at_first_rejection (direction : Direction) (engine : Engine) (tree : Files.Tree)
    (root : String) (locations : List String) :
    ∃ (sources : List Source) (result : Except LifecycleError Unit),
      (∀ source ∈ sources, Supplies tree root locations direction engine source) ∧
      (∀ past, run Rule.tolerant.send direction engine tree root locations past =
        (result, past.accept (sources.flatMap Source.statements))) ∧
      ∀ (rule : Rule) (past : Traffic),
        (rule.Accepts past (sources.flatMap Source.statements) ∧
          run rule.send direction engine tree root locations past =
            (result, past.accept (sources.flatMap Source.statements))) ∨
        ∃ earlier source later done statement more error accepted,
          sources = earlier ++ source :: later ∧ source.statements = done ++ statement :: more ∧
          accepted = earlier.flatMap Source.statements ++ done ∧
          accepted ++ [statement] <+: sources.flatMap Source.statements ∧
          rule.Accepts past accepted ∧ rule (past.seen ++ accepted) statement = some error ∧
          run rule.send direction engine tree root locations past =
            (.error (.migration engine.name source.origin error.message),
              (past.accept accepted).reject statement) := by
  obtain ⟨sources, hsources, hsteps⟩ := plan_comesFrom direction engine tree root locations
  have hstatements := congrArg (List.map Step.statement) hsteps
  rw [map_statement_steps] at hstatements
  refine ⟨sources, (plan direction engine tree root locations).verdict engine, hsources,
    fun past => ?_, fun rule past => ?_⟩
  · rw [run_of_accepts (Rule.tolerant_accepts _ _), hstatements]
  · rcases accepts_or_rejects rule past (plan direction engine tree root locations).steps with
      hall | ⟨before, step, rest, error, hsplit, hbefore, herror⟩
    · have hrun := run_of_accepts hall
      rw [hstatements] at hall hrun
      exact .inl ⟨hall, hrun⟩
    · obtain ⟨earlier, source, later, done, more, hlist, hsource, horigin, haccepted⟩ :=
        flatMap_steps_eq_append (hsteps.symm.trans hsplit)
      have hrun := run_of_rejects hsplit hbefore herror
      rw [← horigin] at hrun
      refine .inr ⟨earlier, source, later, done, step.statement, more, error,
        before.map Step.statement, hlist, hsource, haccepted, ?_, hbefore, herror, hrun⟩
      refine ⟨rest.map Step.statement, ?_⟩
      rw [← hstatements, hsplit]
      simp

end ScopedResources.Migration
