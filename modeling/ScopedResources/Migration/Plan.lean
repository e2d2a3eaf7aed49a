import ScopedResources.Migration.Failure

/-!
# Plans of statements

What an engine does with its files is a plan: statements in order, each with the place that it comes
from. A plan may end in a failure, where a file behind the last statement cannot be read. To run a
plan is to send its statements one by one until a statement is rejected or the plan ends. -/

namespace ScopedResources.Migration

/-- A statement and the place that it comes from. -/
structure Step where
  origin : String
  statement : String
  deriving DecidableEq

/-- Statements to send, and what stops them at the end. -/
structure Plan where
  steps : List Step := []
  failure : Option Failure := none

namespace Plan

def fail (failure : Failure) : Plan :=
  { failure := some failure }

def ofStatements (origin : String) (statements : List String) : Plan :=
  { steps := statements.map (Step.mk origin) }

/-- One plan after another; the second is not reached if the first ends in a failure. -/
def append (p q : Plan) : Plan :=
  match p.failure with
  | some _ => p
  | none => { q with steps := p.steps ++ q.steps }

/-- Several plans, one after another. -/
def concat : List Plan → Plan
  | [] => {}
  | p :: rest => p.append (concat rest)

/-- The plan that is known only if something succeeds. -/
def ofExcept : Except Failure Plan → Plan
  | .ok plan => plan
  | .error failure => .fail failure

variable {m : Type → Type} [Monad m]

def sendAll (send : String → m (Except StatementError Unit)) : List Step → m (Except Failure Unit)
  | [] => pure (.ok ())
  | step :: rest => do
    match (← send step.statement) with
    | .ok () => sendAll send rest
    | .error error => pure (.error ⟨step.origin, .rejected error⟩)

def run (send : String → m (Except StatementError Unit)) (plan : Plan) :
    m (Except Failure Unit) := do
  match (← sendAll send plan.steps), plan.failure with
  | .error failure, _ => pure (.error failure)
  | .ok (), some failure => pure (.error failure)
  | .ok (), none => pure (.ok ())

end Plan

end ScopedResources.Migration
