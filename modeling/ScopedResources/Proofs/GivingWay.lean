import ScopedResources.Proofs.SchemaHolders
import Mathlib.Data.List.Chain

/-!
# After-hooks that depart at once

An after-hook that has taken the binding of its class has nothing to wait for until it asks for the
lock of the instance. If nobody moves in between, as when hooks give way only where they wait, then
every before-hook that enters the class later stands behind the after-hook in the queue. The hold of
the class is given back before it is acquired again, so no class ever holds the migrations twice.
-/

namespace ScopedResources.Lifecycle

namespace Tenancy

open Trace

variable {t : Schema} {m : Tenancy t} {move : Move t} {moves : List (Move t)} {s : State}
variable {held : List Nat}

/-- No before-hook is ahead of an after-hook of its own class. -/
def InOrder (queue : List Nat) (phase : Nat → Phase t) : Prop :=
  queue.Pairwise fun i j => ∀ n, (phase i).inside? = some n → (phase j).leaves? ≠ some n

namespace InOrder

variable {queue : List Nat} {phase : Nat → Phase t} {i : Nat} {p : Phase t}

theorem of_not_mem (h : InOrder queue phase) (hi : i ∉ queue) :
    InOrder queue (Function.update phase i p) := by
  refine List.Pairwise.imp_of_mem ?_ h
  intro j k hj hk hjk
  rw [Function.update_of_ne (ne_of_mem_of_not_mem hj hi),
    Function.update_of_ne (ne_of_mem_of_not_mem hk hi)]
  exact hjk

/-- A call that begins to work keeps its place. -/
theorem stay (h : InOrder queue phase)
    (hinside : ∀ n, p.inside? = some n → (phase i).inside? = some n)
    (hleaves : p.leaves? = none) : InOrder queue (Function.update phase i p) := by
  refine List.Pairwise.imp_of_mem ?_ h
  intro j k _ _ hjk n hj
  rw [Function.update_apply]
  split
  next =>
    rw [hleaves]
    exact (Option.some_ne_none n).symm
  next =>
    rw [Function.update_apply] at hj
    split at hj
    next heq =>
      subst heq
      exact hjk n (hinside n hj)
    next => exact hjk n hj

/-- A call comes to the end of the queue. If it leaves a class, nobody is inside. -/
theorem push (h : InOrder queue phase) (hi : i ∉ queue)
    (hfree : ∀ n, p.leaves? = some n → ∀ j, (phase j).inside? ≠ some n) :
    InOrder (queue ++ [i]) (Function.update phase i p) := by
  refine List.pairwise_append.mpr ⟨h.of_not_mem hi, List.pairwise_singleton _ _, ?_⟩
  intro j hj k hk n hinside hleaves
  obtain rfl := List.mem_singleton.mp hk
  rw [Function.update_of_ne (ne_of_mem_of_not_mem hj hi)] at hinside
  rw [Function.update_self] at hleaves
  exact hfree n hleaves j hinside

theorem pop (h : InOrder queue phase) (hnodup : queue.Nodup) (hhead : queue.head? = some i) :
    InOrder queue.tail (Function.update phase i p) := by
  obtain ⟨rest, rfl⟩ := List.head?_eq_some_iff.mp hhead
  have hrest : InOrder rest phase := (List.pairwise_cons.mp h).2
  exact hrest.of_not_mem (List.nodup_cons.mp hnodup).1

end InOrder

/-! ## One move -/

/-- What holds after the last move if after-hooks depart at once. -/
structure InTurn (m : Tenancy t) (last : Option (Move t)) : Prop where
  order : InOrder m.queue m.phase
  last : ∀ {i v}, m.phase i = .unbound v → last = some (.unbind i v)
  free : ∀ {i v}, m.phase i = .unbound v → m.Free v.number

namespace InTurn

variable {last : Option (Move t)}

theorem order_next (h : m.InTurn last) (hsound : m.Sound held) (henabled : move.Enabled m) :
    InOrder (m.next move).queue (m.next move).phase := by
  have hout : ∀ {i : Nat} {q : Phase t}, m.phase i = q → q.queues = false → i ∉ m.queue := by
    rintro i q rfl hq
    rw [hsound.lined.mem, hq]
    exact Bool.false_ne_true
  cases move with
  | refuse i v error | ask i v | pass i v | enter i v | skip i v | unbind i v =>
      exact h.order.of_not_mem (hout henabled.1 rfl)
  | quit i v error | bind i v | mark i v => exact h.order.of_not_mem (hout henabled rfl)
  | work s => exact h.order
  | arrive i v => exact h.order.push (hout henabled.1 rfl) nofun
  | depart i v =>
      refine h.order.push (hout henabled.1 rfl) ?_
      rintro n ⟨⟩
      exact h.free henabled.1
  | apply i v =>
      refine h.order.stay (fun n hn => ?_) rfl
      rw [henabled.1]
      exact hn
  | drop i v => exact h.order.stay nofun rfl
  | join i v | leave i v => exact h.order.pop hsound.lined.nodup henabled.2.1
  | applied i v | failed i v error =>
      exact h.order.pop hsound.lined.nodup (hsound.head_of_applying henabled)
  | dropped i v answer =>
      have hphase : m.phase i = .dropping v := henabled
      refine h.order.pop hsound.lined.nodup (hsound.lined.head ?_)
      rw [hphase]
      rfl

/-- An after-hook that has not departed yet has just taken the binding. -/
theorem eq_unbind (h : m.InTurn last)
    (hnext : ∀ i v, last = some (.unbind i v) → move = .depart i v) {i : Nat} {v : Visit t}
    (hphase : (m.next move).phase i = .unbound v) : move = .unbind i v := by
  rcases phase_next_cases m move i with hsame | hturn
  · -- it had to depart with this move
    rw [hphase] at hsame
    obtain rfl := hnext i v (h.last hsame.symm)
    have hnow : (m.next (.depart i v)).phase i = .releasing v := Function.update_self ..
    cases hphase.symm.trans hnow
  · rw [hphase] at hturn
    cases move with
    | unbind j w =>
        cases hturn
        rfl
    | refuse | ask | pass | enter | quit | arrive | join | apply | applied | failed | bind | mark |
        skip | depart | leave | drop | dropped | work => cases hturn

theorem step (h : m.InTurn last) (hsound : m.Sound held)
    (hnext : ∀ i v, last = some (.unbind i v) → move = .depart i v) (henabled : move.Enabled m) :
    (m.next move).InTurn (some move) where
  order := h.order_next hsound henabled
  last hphase := by rw [h.eq_unbind hnext hphase]
  free {i v} hphase j hinside := by
    obtain rfl := h.eq_unbind hnext hphase
    -- the class was bound, so nobody was inside
    have hbound : m.Keeps (v.number, none) := ⟨v.tenant, henabled.2⟩
    refine hsound.entered.unbound (i := j) ?_ hbound
    by_cases hj : j = i
    · rw [hj, hphase] at hinside
      cases hinside
    · rw [← hinside]
      exact congrArg Phase.inside? (Function.update_of_ne hj ..).symm

end InTurn

/-! ## All moments -/

end Tenancy

end ScopedResources.Lifecycle
