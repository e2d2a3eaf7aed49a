import ScopedResources.Proofs.Action
import Mathlib.Data.List.Induction
import Mathlib.Logic.Function.Basic

/-!
# Sequences of moves

Calls that run at the same time are told as a sequence of their moves, each of which must be
possible when its turn comes. A call that makes a move comes to another phase. -/

namespace ScopedResources.Trace

variable {σ μ : Type}

/-- What moves lead to. -/
def outcome (next : σ → μ → σ) (s : σ) (moves : List μ) : σ :=
  moves.foldl next s

/-- Every move could be made when its turn came. -/
def Legal (Enabled : σ → μ → Prop) (next : σ → μ → σ) (s : σ) (moves : List μ) : Prop :=
  ∀ before move rest, moves = before ++ move :: rest → Enabled (outcome next s before) move

/-- The moves are those up to one move, that move, and others after it. -/
def Splits (moves before : List μ) (move : μ) : Prop :=
  ∃ rest, moves = before ++ move :: rest

variable {Enabled : σ → μ → Prop} {next : σ → μ → σ} {s : σ} {moves before rest : List μ} {move : μ}

theorem outcome_append (next : σ → μ → σ) (s : σ) (before rest : List μ) :
    outcome next s (before ++ rest) = outcome next (outcome next s before) rest :=
  List.foldl_append

theorem outcome_concat (next : σ → μ → σ) (s : σ) (moves : List μ) (move : μ) :
    outcome next s (moves ++ [move]) = next (outcome next s moves) move :=
  List.foldl_append

theorem legal_nil (s : σ) : Legal Enabled next s [] := by
  intro before move rest heq
  cases before <;> cases heq

theorem Legal.cons (henabled : Enabled s move) (h : Legal Enabled next (next s move) moves) :
    Legal Enabled next s (move :: moves) := by
  intro before last rest heq
  cases before with
  | nil =>
      cases heq
      exact henabled
  | cons first before =>
      cases heq
      exact h before last rest rfl

theorem Legal.of_append (h : Legal Enabled next s (before ++ rest)) :
    Legal Enabled next s before ∧ Legal Enabled next (outcome next s before) rest := by
  constructor
  · intro first last others heq
    refine h first last (others ++ rest) ?_
    rw [heq, List.append_assoc]
    rfl
  · intro first last others heq
    rw [← outcome_append]
    refine h (before ++ first) last others ?_
    rw [heq, List.append_assoc]

theorem Legal.append (h : Legal Enabled next s before)
    (h' : Legal Enabled next (outcome next s before) rest) :
    Legal Enabled next s (before ++ rest) := by
  induction before generalizing s with
  | nil => exact h'
  | cons first before ih =>
      have hsplit : Legal Enabled next s ([first] ++ before) := h
      exact .cons (h [] first before rfl) (ih hsplit.of_append.2 h')

theorem Legal.of_concat (h : Legal Enabled next s (moves ++ [move])) :
    Legal Enabled next s moves ∧ Enabled (outcome next s moves) move :=
  ⟨h.of_append.1, h moves move [] rfl⟩

theorem Splits.concat (h : Splits moves before move) (last : μ) :
    Splits (moves ++ [last]) before move := by
  obtain ⟨rest, rfl⟩ := h
  exact ⟨rest ++ [last], by rw [List.append_assoc, List.cons_append]⟩

theorem Splits.last (moves : List μ) (move : μ) : Splits (moves ++ [move]) moves move :=
  ⟨[], rfl⟩

theorem Splits.enabled (h : Splits moves before move) (hlegal : Legal Enabled next s moves) :
    Legal Enabled next s before ∧ Enabled (outcome next s before) move := by
  obtain ⟨rest, rfl⟩ := h
  exact ⟨hlegal.of_append.1, hlegal before move rest rfl⟩

/-! ## Turns -/

section Turns

variable {φ : Type}

/-- The phases of all calls after the turn of one call. -/
def taken (phase : Nat → φ) : Option (Nat × φ) → Nat → φ
  | some (i, p) => Function.update phase i p
  | none => phase

/-- A call is in a phase after a turn because it was so before, or because the turn led it there. -/
theorem taken_cases (phase : Nat → φ) (turn : Option (Nat × φ)) (j : Nat) :
    taken phase turn j = phase j ∨ turn = some (j, taken phase turn j) := by
  cases turn with
  | none => exact .inl rfl
  | some turn =>
      obtain ⟨i, p⟩ := turn
      by_cases hji : j = i
      · subst hji
        right
        rw [taken, Function.update_self]
      · exact .inl (Function.update_of_ne hji ..)

theorem taken_of_eq_some {phase : Nat → φ} {turn : Option (Nat × φ)} {i : Nat} {p : φ}
    (h : turn = some (i, p)) : taken phase turn i = p := by
  rw [h]
  exact Function.update_self ..

end Turns

end ScopedResources.Trace
