import ScopedResources.Proofs.Tenancy
import Mathlib.Data.List.Nodup
import Mathlib.Data.List.Perm.Basic
import Mathlib.Tactic.Common

/-!
# Who holds the migrations of a shared instance

Whoever has acquired the migrations and has not released them is kept in mind by exactly one keeper:
the binding of a class, or the one call that is about to bind it or to release it. The count that is
stored is the number of keepers at every moment, whichever hook moves next. A class has more than
one keeper only while an after-hook that has unbound it is on its way to the lock, because
before-hooks enter a class one by one and leave a bound class alone. -/

namespace ScopedResources.Lifecycle

open Trace

/-- Nobody holds the schema, and none of its classes is bound. -/
structure Schema.Fresh (t : Schema) (s : State) : Prop where
  stored : t.stored s = none
  unbound : ∀ {number}, t.tenant number → t.bound? s number = none

namespace Tenancy

variable {t : Schema} {m : Tenancy t} {move : Move t}

/-! ## Holders and their keepers -/

/-- A class, and what keeps it among the holders: a call, or its binding. -/
abbrev Keeper : Type :=
  Nat × Option Nat

/-- The count is the number of holders, and every holder is there because of one keeper. -/
structure Counted (stored : Option Nat) (keeps : Keeper → Prop) (held : List Nat) : Prop where
  count : stored = if held = [] then none else some held.length
  keepers : ∃ keepers : List Keeper, keepers.Nodup ∧ (∀ k, k ∈ keepers ↔ keeps k) ∧
    (keepers.map Prod.fst).Perm held

namespace Counted

variable {stored stored' : Option Nat} {keeps keeps' : Keeper → Prop} {held : List Nat}
variable {n n' : Nat} {k k' : Option Nat}

theorem congr (h : Counted stored keeps held) (hstored : stored' = stored)
    (hkeeps : ∀ k, keeps' k ↔ keeps k) : Counted stored' keeps' held := by
  have heq : keeps' = keeps := funext fun k => propext (hkeeps k)
  rw [hstored, heq]
  exact h

theorem getD_stored (h : Counted stored keeps held) : stored.getD 0 = held.length := by
  rw [h.count]
  split
  next hnil => rw [hnil]; rfl
  next => rfl

theorem stored_eq_none_iff (h : Counted stored keeps held) : stored = none ↔ held = [] := by
  rw [h.count]
  split
  next hnil => simp [hnil]
  next hne => simp [hne]

theorem mem_iff (h : Counted stored keeps held) : n ∈ held ↔ ∃ k, keeps (n, k) := by
  obtain ⟨keepers, -, hmem, hperm⟩ := h.keepers
  rw [← hperm.mem_iff, List.mem_map]
  constructor
  · rintro ⟨⟨_, k⟩, hkeeper, rfl⟩
    exact ⟨k, (hmem _).mp hkeeper⟩
  · rintro ⟨k, hkeeps⟩
    exact ⟨(n, k), (hmem _).mpr hkeeps, rfl⟩

theorem mem (h : Counted stored keeps held) (hkeeps : keeps (n, k)) : n ∈ held :=
  h.mem_iff.mpr ⟨k, hkeeps⟩

/-- Somebody becomes a keeper. -/
theorem gain (h : Counted stored keeps held) (hnew : ¬ keeps (n, k))
    (hstored : stored' = some (held.length + 1))
    (hkeeps : ∀ k', keeps' k' ↔ keeps k' ∨ k' = (n, k)) : Counted stored' keeps' (n :: held) := by
  obtain ⟨keepers, hnodup, hmem, hperm⟩ := h.keepers
  refine ⟨?_, (n, k) :: keepers, ?_, ?_, hperm.cons n⟩
  · rw [hstored, if_neg (List.cons_ne_nil _ _), List.length_cons]
  · exact List.nodup_cons.mpr ⟨fun hold => hnew ((hmem _).mp hold), hnodup⟩
  · intro k'
    rw [List.mem_cons, hmem, hkeeps, or_comm]

/-- A class loses a keeper. -/
theorem lose (h : Counted stored keeps held) (hold : keeps (n, k))
    (hstored : stored' = if held.length - 1 = 0 then none else some (held.length - 1))
    (hkeeps : ∀ k', keeps' k' ↔ keeps k' ∧ k' ≠ (n, k)) :
    Counted stored' keeps' (held.erase n) := by
  obtain ⟨keepers, hnodup, hmem, hperm⟩ := h.keepers
  have hthere : (n, k) ∈ keepers := (hmem _).mpr hold
  refine ⟨?_, keepers.erase (n, k), hnodup.erase _, ?_, ?_⟩
  · rw [hstored, ← List.length_erase_of_mem (h.mem hold)]
    simp
  · intro k'
    rw [hnodup.mem_erase_iff, hmem, hkeeps, and_comm]
  · refine (List.cons_perm_iff_perm_erase.mp ?_).2
    exact (((List.perm_cons_erase hthere).map Prod.fst).symm.trans hperm)

/-- A class passes from one keeper to another. -/
theorem shift (h : Counted stored keeps held) (hold : keeps (n, k)) (hnew : ¬ keeps (n, k'))
    (hstored : stored' = stored)
    (hkeeps : ∀ j, keeps' j ↔ keeps j ∧ j ≠ (n, k) ∨ j = (n, k')) :
    Counted stored' keeps' held := by
  obtain ⟨keepers, hnodup, hmem, hperm⟩ := h.keepers
  have hthere : (n, k) ∈ keepers := (hmem _).mpr hold
  refine ⟨by rw [hstored, h.count], (n, k') :: keepers.erase (n, k), ?_, ?_, ?_⟩
  · refine List.nodup_cons.mpr ⟨fun hmem' => ?_, hnodup.erase _⟩
    exact hnew ((hmem _).mp (List.mem_of_mem_erase hmem'))
  · intro j
    rw [List.mem_cons, hnodup.mem_erase_iff, hmem, hkeeps, or_comm, and_comm]
  · exact ((List.perm_cons_erase hthere).map Prod.fst).symm.trans hperm

end Counted

/-! ## Before-hooks inside classes -/

/-- At most one before-hook is inside a class, and the class is not bound meanwhile. -/
structure Entered (bound : Nat → Prop) (phase : Nat → Phase t) : Prop where
  alone : ∀ {n i j}, (phase i).inside? = some n → (phase j).inside? = some n → i = j
  unbound : ∀ {n i}, (phase i).inside? = some n → ¬ bound n

namespace Entered

variable {bound bound' : Nat → Prop} {phase : Nat → Phase t} {i : Nat} {p : Phase t}

theorem mono (h : Entered bound phase) (hbound : ∀ n, bound' n → bound n) : Entered bound' phase :=
  ⟨h.alone, fun hinside hbound' => h.unbound hinside (hbound _ hbound')⟩

/-- A call that enters no class meets nobody there. -/
theorem stay (h : Entered bound phase) (hp : p.inside? = none ∨ p.inside? = (phase i).inside?) :
    Entered bound (Function.update phase i p) := by
  have hbefore : ∀ {n j}, (Function.update phase i p j).inside? = some n →
      (phase j).inside? = some n := by
    intro n j hj
    rw [Function.update_apply] at hj
    split at hj
    next heq =>
      subst heq
      rcases hp with hnone | hsame
      · rw [hnone] at hj
        cases hj
      · rw [← hsame, hj]
    next => exact hj
  exact ⟨fun hj hk => h.alone (hbefore hj) (hbefore hk), fun hj => h.unbound (hbefore hj)⟩

theorem enter {n : Nat} (h : Entered bound phase) (hfree : ∀ j, (phase j).inside? ≠ some n)
    (hbound : ¬ bound n) (hp : p.inside? = some n) : Entered bound (Function.update phase i p) := by
  have hcases : ∀ {k j}, (Function.update phase i p j).inside? = some k →
      (j = i ∧ k = n) ∨ (phase j).inside? = some k := by
    intro k j hj
    rw [Function.update_apply] at hj
    split at hj
    next heq =>
      rw [hp] at hj
      cases hj
      exact .inl ⟨heq, rfl⟩
    next => exact .inr hj
  constructor
  · intro k j j' hj hj'
    rcases hcases hj with ⟨rfl, rfl⟩ | hold
    · rcases hcases hj' with ⟨rfl, -⟩ | hold'
      · rfl
      · exact absurd hold' (hfree j')
    · rcases hcases hj' with ⟨-, rfl⟩ | hold'
      · exact absurd hold (hfree j)
      · exact h.alone hold hold'
  · intro k j hj
    rcases hcases hj with ⟨-, rfl⟩ | hold
    · exact hbound
    · exact h.unbound hold

/-- The call that binds a class goes out of it. -/
theorem bind {n : Nat} (h : Entered bound phase) (hi : (phase i).inside? = some n)
    (hp : p.inside? = none) (hbound : ∀ k, bound' k → bound k ∨ k = n) :
    Entered bound' (Function.update phase i p) := by
  have hleft := h.stay (i := i) (p := p) (.inl hp)
  refine ⟨hleft.alone, fun {k j} hj hbound' => ?_⟩
  rcases hbound k hbound' with hold | rfl
  · exact hleft.unbound hj hold
  · rw [Function.update_apply] at hj
    split at hj
    next =>
      rw [hp] at hj
      cases hj
    next hne => exact hne (h.alone hj hi)

end Entered

/-! ## The queue -/

/-- Calls that wait stand in the queue, and one at work stands at its head. -/
structure Lined (queue : List Nat) (phase : Nat → Phase t) : Prop where
  nodup : queue.Nodup
  mem : ∀ {i}, i ∈ queue ↔ (phase i).queues = true
  head : ∀ {i}, (phase i).works = true → queue.head? = some i

namespace Lined

variable {queue : List Nat} {phase : Nat → Phase t} {i : Nat} {p : Phase t}

/-- A call that neither comes nor goes keeps its place. -/
theorem stay (h : Lined queue phase) (hqueues : p.queues = (phase i).queues)
    (hworks : p.works = true → queue.head? = some i) : Lined queue (Function.update phase i p) where
  nodup := h.nodup
  mem := by
    intro j
    rw [h.mem, Function.update_apply]
    split
    next heq => rw [heq, hqueues]
    next => rfl
  head := by
    intro j hj
    rw [Function.update_apply] at hj
    split at hj
    next heq => rw [heq, hworks hj]
    next => exact h.head hj

/-- A call comes to the end of the queue. -/
theorem push (h : Lined queue phase) (hbefore : (phase i).queues = false)
    (hqueues : p.queues = true)
    (hworks : p.works = false) : Lined (queue ++ [i]) (Function.update phase i p) where
  nodup := by
    have hnew : i ∉ queue := by
      rw [h.mem, hbefore]
      exact Bool.false_ne_true
    refine List.nodup_append.mpr ⟨h.nodup, List.nodup_singleton i, fun j hj k hk heq => ?_⟩
    rw [heq, List.mem_singleton.mp hk] at hj
    exact hnew hj
  mem := by
    intro j
    rw [List.mem_append, List.mem_singleton, Function.update_apply, h.mem]
    by_cases hji : j = i
    · simp [hji, hqueues]
    · simp [hji]
  head := by
    intro j hj
    rw [Function.update_apply] at hj
    split at hj
    next =>
      rw [hworks] at hj
      cases hj
    next => rw [List.head?_append, h.head hj, Option.some_or]

/-- The call at the head gives the lock back. -/
theorem pop (h : Lined queue phase) (hhead : queue.head? = some i) (hqueues : p.queues = false)
    (hworks : p.works = false) : Lined queue.tail (Function.update phase i p) := by
  obtain ⟨rest, rfl⟩ := List.head?_eq_some_iff.mp hhead
  obtain ⟨hnew, hnodup⟩ := List.nodup_cons.mp h.nodup
  refine ⟨hnodup, ?_, ?_⟩
  · intro j
    have hmem := h.mem (i := j)
    rw [List.mem_cons] at hmem
    rw [List.tail_cons, Function.update_apply]
    split
    next heq =>
      subst heq
      simp [hqueues, hnew]
    next hne => rw [← hmem, or_iff_right hne]
  · intro j hj
    rw [Function.update_apply] at hj
    split at hj
    next =>
      rw [hworks] at hj
      cases hj
    next hne =>
      -- whoever is at work is at the head
      have hat := h.head hj
      rw [List.head?_cons, Option.some.injEq] at hat
      exact absurd hat.symm hne

end Lined

/-! ## One move -/

/-- What keeps a class among the holders: its binding, or a call. -/
def Keeps (m : Tenancy t) : Keeper → Prop
  | (n, none) => t.tenant n ∧ (t.bound? m.state n).isSome
  | (n, some i) => (m.phase i).keeps? = some n

section Keepers

variable {m' : Tenancy t} {i a n : Nat} {p : Phase t} {v : Visit t}

theorem keeps_of_phase (hphase : m.phase i = p) (hp : p.keeps? = some n) :
    m.Keeps (n, some i) := by
  change (m.phase i).keeps? = some n
  rwa [hphase]

theorem keeps_some_iff (hphase : m'.phase = Function.update m.phase i p) (n j : Nat) :
    m'.Keeps (n, some j) ↔ if j = i then p.keeps? = some n else m.Keeps (n, some j) := by
  change (m'.phase j).keeps? = some n ↔ _
  rw [hphase, Function.update_apply]
  split <;> rfl

theorem keeps_none_iff
    (hbound : ∀ {n}, t.tenant n → t.bound? m'.state n = t.bound? m.state n) (n : Nat) :
    m'.Keeps (n, none) ↔ m.Keeps (n, none) := by
  refine and_congr_right fun htenant => ?_
  rw [hbound htenant]

/-- Keepers are the same after a move that changes no binding and makes no call a keeper. -/
theorem keeps_congr (hphase : m'.phase = Function.update m.phase i p)
    (hp : p.keeps? = (m.phase i).keeps?)
    (hbound : ∀ {n}, t.tenant n → t.bound? m'.state n = t.bound? m.state n) (k : Keeper) :
    m'.Keeps k ↔ m.Keeps k := by
  rcases k with ⟨n, _ | j⟩
  · exact keeps_none_iff hbound n
  · rw [keeps_some_iff hphase, hp]
    split
    next heq => rw [heq, Keeps]
    next => rfl

theorem keeps_gain (hphase : m'.phase = Function.update m.phase i p)
    (hbefore : (m.phase i).keeps? = none) (hp : p.keeps? = some a)
    (hbound : ∀ {n}, t.tenant n → t.bound? m'.state n = t.bound? m.state n) (k : Keeper) :
    m'.Keeps k ↔ m.Keeps k ∨ k = (a, some i) := by
  rcases k with ⟨n, _ | j⟩
  · simp [keeps_none_iff hbound]
  · rw [keeps_some_iff hphase, hp]
    by_cases hji : j = i
    · subst hji
      simp [Keeps, hbefore, eq_comm]
    · simp [hji]

theorem keeps_lose (hphase : m'.phase = Function.update m.phase i p)
    (hbefore : (m.phase i).keeps? = some a) (hp : p.keeps? = none)
    (hbound : ∀ {n}, t.tenant n → t.bound? m'.state n = t.bound? m.state n) (k : Keeper) :
    m'.Keeps k ↔ m.Keeps k ∧ k ≠ (a, some i) := by
  rcases k with ⟨n, _ | j⟩
  · simp [keeps_none_iff hbound]
  · rw [keeps_some_iff hphase, hp]
    by_cases hji : j = i
    · subst hji
      simp [Keeps, hbefore, eq_comm]
    · simp [hji]

/-- A call binds the class that it keeps. -/
theorem keeps_bind (hbefore : m.phase i = .acquired v) (k : Keeper) :
    (m.next (.bind i v)).Keeps k ↔ m.Keeps k ∧ k ≠ (v.number, some i) ∨ k = (v.number, none) := by
  have hphase : (m.next (.bind i v)).phase = Function.update m.phase i (.returned v (.ok ())) := rfl
  rcases k with ⟨n, _ | j⟩
  · change t.tenant n ∧ (t.bound? (v.bind m.state) n).isSome ↔ _
    rw [v.bound?_bind]
    by_cases hn : n = v.number
    · subst hn
      have htenant : t.tenant v.number := v.tenant
      simp [htenant]
    · simp [hn, Ne.symm hn, Keeps]
  · rw [keeps_some_iff hphase]
    by_cases hji : j = i
    · subst hji
      simp [Keeps, hbefore, Phase.keeps?, eq_comm]
    · simp [hji]

/-- An after-hook takes the class from its binding. -/
theorem keeps_unbind (hbefore : m.phase i = .closing v) (k : Keeper) :
    (m.next (.unbind i v)).Keeps k ↔
      m.Keeps k ∧ k ≠ (v.number, none) ∨ k = (v.number, some i) := by
  have hphase : (m.next (.unbind i v)).phase = Function.update m.phase i (.unbound v) := rfl
  rcases k with ⟨n, _ | j⟩
  · change t.tenant n ∧ (t.bound? (v.unbind m.state) n).isSome ↔ _
    rw [v.bound?_unbind]
    by_cases hn : n = v.number
    · subst hn
      simp
    · simp [hn, Ne.symm hn, Keeps]
  · rw [keeps_some_iff hphase]
    by_cases hji : j = i
    · subst hji
      simp [Keeps, hbefore, Phase.keeps?, eq_comm]
    · simp [hji]

end Keepers

/-- What holds at every moment, with the classes that hold the migrations. -/
structure Sound (m : Tenancy t) (held : List Nat) : Prop where
  counted : Counted (t.stored m.state) m.Keeps held
  entered : Entered (fun n => m.Keeps (n, none)) m.phase
  lined : Lined m.queue m.phase
  /-- Migrations are applied only when nobody holds them. -/
  first : ∀ {i v}, m.phase i = .applying v → held = []
  made : ∀ {i v}, m.phase i = .acquiring v ∨ m.phase i = .applying v →
    t.handle < m.state.handles.size
  lease : ∀ {n binding}, t.tenant n → t.bound? m.state n = some binding →
    binding = ⟨t.handle, .shared⟩

theorem phase_next_cases (m : Tenancy t) (move : Move t) (j : Nat) :
    (m.next move).phase j = m.phase j ∨ move.turn = some (j, (m.next move).phase j) :=
  Trace.taken_cases ..

theorem size_next (henabled : move.Enabled m) :
    m.state.handles.size ≤ (m.next move).state.handles.size := by
  cases move with
  | refuse | ask | pass | enter | quit | arrive | apply | failed | bind | mark | skip | unbind |
      depart | dropped => exact Nat.le_refl _
  | join | applied | leave => exact Nat.le_of_eq (Schema.size_store ..).symm
  | drop => exact Nat.le_of_eq (Schema.size_forget _).symm
  | work s => exact henabled.size

namespace Sound

variable {held : List Nat}

theorem head_of_applying (h : m.Sound held) {i : Nat} {v : Visit t}
    (happlying : m.phase i = .applying v) : m.queue.head? = some i := by
  refine h.lined.head ?_
  rw [happlying]
  rfl

/-- A class that has a keeper is counted, so the instance is there. -/
theorem size_of_keeps (h : m.Sound held) {n : Nat} {k : Option Nat} (hkeeps : m.Keeps (n, k)) :
    t.handle < m.state.handles.size := by
  have hcount := h.counted.count
  rw [if_neg (List.ne_nil_of_mem (h.counted.mem hkeeps))] at hcount
  exact Schema.lt_size_of_stored hcount

theorem counted_next (h : m.Sound held) (henabled : move.Enabled m) :
    Counted (t.stored (m.next move).state) (m.next move).Keeps (move.holders held) := by
  have hsame : ∀ {n : Nat}, t.tenant n → t.bound? m.state n = t.bound? m.state n := fun _ => rfl
  -- a move that is about no keeper
  have hpass : ∀ {m' : Tenancy t} {i : Nat} {p q : Phase t},
      m'.phase = Function.update m.phase i p → m.phase i = q → p.keeps? = q.keeps? →
      t.stored m'.state = t.stored m.state →
      (∀ {n}, t.tenant n → t.bound? m'.state n = t.bound? m.state n) →
      Counted (t.stored m'.state) m'.Keeps held := by
    rintro m' i p q hphase rfl hp hstored hbound
    exact h.counted.congr hstored (keeps_congr hphase hp hbound)
  cases move with
  | refuse i v error | ask i v | pass i v | enter i v | arrive i v | apply i v | depart i v =>
      exact hpass rfl henabled.1 rfl rfl hsame
  | quit i v error | failed i v error | mark i v | dropped i v answer =>
      exact hpass rfl henabled rfl rfl hsame
  | skip i v =>
      refine hpass rfl henabled.1 rfl rfl fun {n} _ => (v.bound?_unbind m.state n).trans ?_
      split
      next heq => rw [← heq, henabled.2]
      next => rfl
  | work s =>
      refine h.counted.congr henabled.stored ?_
      rintro ⟨n, _ | j⟩
      · exact keeps_none_iff henabled.bound? n
      · rfl
  | join i v =>
      obtain ⟨hphase, -, -⟩ := henabled
      have hkeeps : (m.phase i).keeps? = none := by rw [hphase]; rfl
      have hnew : ¬ m.Keeps (v.number, some i) := by rw [Keeps, hkeeps]; nofun
      refine h.counted.gain hnew ?_ (keeps_gain rfl hkeeps rfl hsame)
      rw [← h.counted.getD_stored]
      exact Schema.stored_store (h.made (.inl hphase)) _
  | applied i v =>
      have hphase : m.phase i = .applying v := henabled
      have hkeeps : (m.phase i).keeps? = none := by rw [hphase]; rfl
      have hnew : ¬ m.Keeps (v.number, some i) := by rw [Keeps, hkeeps]; nofun
      refine h.counted.gain hnew ?_ (keeps_gain rfl hkeeps rfl hsame)
      -- the count that is stored is one, because nobody held the migrations before
      rw [h.first hphase]
      exact Schema.stored_store (h.made (.inr hphase)) _
  | bind i v =>
      have hphase : m.phase i = .acquired v := henabled
      have hinside : (m.phase i).inside? = some v.number := by rw [hphase]; rfl
      exact h.counted.shift (keeps_of_phase hphase rfl) (h.entered.unbound hinside) rfl
        (keeps_bind hphase)
  | unbind i v =>
      obtain ⟨hphase, hbound⟩ := henabled
      have hkeeps : (m.phase i).keeps? = none := by rw [hphase]; rfl
      have hnew : ¬ m.Keeps (v.number, some i) := by rw [Keeps, hkeeps]; nofun
      have hkept : m.Keeps (v.number, none) := ⟨v.tenant, hbound⟩
      exact h.counted.shift hkept hnew rfl (keeps_unbind hphase)
  | leave i v =>
      obtain ⟨hphase, -, hothers⟩ := henabled
      have hkeeps : m.Keeps (v.number, some i) := keeps_of_phase hphase rfl
      refine h.counted.lose hkeeps ?_ (keeps_lose rfl hkeeps rfl hsame)
      rw [h.counted.getD_stored] at hothers
      rw [if_neg (Nat.ne_of_gt hothers), ← h.counted.getD_stored]
      exact Schema.stored_store (h.size_of_keeps hkeeps) _
  | drop i v =>
      obtain ⟨hphase, -, hlast⟩ := henabled
      have hkeeps : m.Keeps (v.number, some i) := keeps_of_phase hphase rfl
      refine h.counted.lose hkeeps ?_ (keeps_lose rfl hkeeps rfl hsame)
      rw [h.counted.getD_stored] at hlast
      rw [if_pos hlast]
      exact Schema.stored_forget (h.size_of_keeps hkeeps)

theorem entered_next (h : m.Sound held) (henabled : move.Enabled m) :
    Entered (fun n => (m.next move).Keeps (n, none)) (m.next move).phase := by
  have hout : ∀ {i : Nat} {p q : Phase t}, m.phase i = q →
      p.inside? = none ∨ p.inside? = q.inside? →
      Entered (fun n => m.Keeps (n, none)) (Function.update m.phase i p) := by
    rintro i p q rfl hp
    exact h.entered.stay hp
  -- taking a binding away binds no other class
  have hunbind : ∀ (v : Visit t) (n : Nat),
      t.tenant n ∧ (t.bound? (v.unbind m.state) n).isSome → m.Keeps (n, none) := by
    intro v n hbound
    rw [v.bound?_unbind] at hbound
    split at hbound
    next => cases hbound.2
    next => exact hbound
  cases move with
  | refuse i v error | ask i v | pass i v | depart i v | leave i v | drop i v =>
      exact hout henabled.1 (.inl rfl)
  | quit i v error | failed i v error | mark i v | dropped i v answer =>
      exact hout henabled (.inl rfl)
  | arrive i v | apply i v | join i v => exact hout henabled.1 (.inr rfl)
  | applied i v => exact hout henabled (.inr rfl)
  | enter i v =>
      obtain ⟨-, hfree, hunbound⟩ := henabled
      -- the hook enters only a class that it finds unbound
      have hbound : ¬ m.Keeps (v.number, none) := by
        rintro ⟨-, hsome⟩
        rw [hunbound] at hsome
        cases hsome
      exact h.entered.enter hfree hbound rfl
  | bind i v =>
      have hphase : m.phase i = .acquired v := henabled
      have hinside : (m.phase i).inside? = some v.number := by rw [hphase]; rfl
      refine h.entered.bind hinside rfl fun n hbound => ?_
      by_cases hn : n = v.number
      · exact .inr hn
      · refine .inl ⟨hbound.1, ?_⟩
        have hsame := v.bound?_bind m.state n
        rw [if_neg (Ne.symm hn)] at hsame
        exact hsame ▸ hbound.2
  | skip i v | unbind i v => exact (hout henabled.1 (.inl rfl)).mono (hunbind v)
  | work s => exact h.entered.mono fun n => (keeps_none_iff henabled.bound? n).mp

theorem lined_next (h : m.Sound held) (henabled : move.Enabled m) :
    Lined (m.next move).queue (m.next move).phase := by
  -- a call outside the queue stays outside
  have houtside : ∀ {i : Nat} {p q : Phase t}, m.phase i = q → q.queues = false → p.queues = false →
      p.works = false → Lined m.queue (Function.update m.phase i p) := by
    rintro i p q rfl hq hp hworks
    refine h.lined.stay (hp.trans hq.symm) ?_
    rw [hworks]
    exact fun hfalse => Bool.noConfusion hfalse
  have hqueues : ∀ {i : Nat} {q : Phase t}, m.phase i = q → (m.phase i).queues = q.queues :=
    fun heq => heq ▸ rfl
  cases move with
  | refuse i v error | ask i v | pass i v | enter i v | skip i v | unbind i v =>
      exact houtside henabled.1 rfl rfl rfl
  | quit i v error | bind i v | mark i v => exact houtside henabled rfl rfl rfl
  | work s => exact h.lined
  | arrive i v | depart i v => exact h.lined.push (hqueues henabled.1) rfl rfl
  | apply i v | drop i v =>
      exact h.lined.stay (hqueues henabled.1).symm fun _ => henabled.2.1
  | join i v | leave i v => exact h.lined.pop henabled.2.1 rfl rfl
  | applied i v | failed i v error => exact h.lined.pop (h.head_of_applying henabled) rfl rfl
  | dropped i v answer =>
      have hphase : m.phase i = .dropping v := henabled
      refine h.lined.pop (h.lined.head ?_) rfl rfl
      rw [hphase]
      rfl

theorem made_next (h : m.Sound held) (henabled : move.Enabled m) {j : Nat} {w : Visit t}
    (hphase : (m.next move).phase j = .acquiring w ∨ (m.next move).phase j = .applying w) :
    t.handle < (m.next move).state.handles.size := by
  refine Nat.lt_of_lt_of_le ?_ (size_next henabled)
  rcases phase_next_cases m move j with hsame | hturn
  · rw [hsame] at hphase
    exact h.made hphase
  · generalize (m.next move).phase j = p at hphase hturn
    cases move with
    | arrive i v => exact henabled.2.1
    | apply i v => exact h.made (.inl henabled.1)
    | refuse | ask | pass | enter | quit | join | applied | failed | bind | mark | skip | unbind |
        depart | leave | drop | dropped =>
        cases hturn
        rcases hphase with hphase | hphase <;> cases hphase
    | work => cases hturn

theorem first_next (h : m.Sound held) (henabled : move.Enabled m) {j : Nat} {w : Visit t}
    (happlying : (m.next move).phase j = .applying w) : move.holders held = [] := by
  rcases phase_next_cases m move j with hsame | hturn
  · rw [happlying] at hsame
    have hnil := h.first hsame.symm
    have hhead := h.head_of_applying hsame.symm
    -- only the call at the head changes who holds, and that call is the one that applies
    have hmover : ∀ {i : Nat} {p : Phase t}, m.phase i = p → m.queue.head? = some i →
        p = .applying w := by
      rintro i p rfl hhead'
      rw [hhead, Option.some.injEq] at hhead'
      rw [← hhead', ← hsame]
    cases move with
    | join i v => cases hmover henabled.1 henabled.2.1
    | applied i v =>
        have hphase : m.phase i = .applying v := henabled
        have hat := h.head_of_applying hphase
        rw [hhead, Option.some.injEq] at hat
        subst hat
        have hnow : (m.next (.applied j v)).phase j = .acquired v := Function.update_self ..
        cases happlying.symm.trans hnow
    | leave i v => cases hmover henabled.1 henabled.2.1
    | drop i v => cases hmover henabled.1 henabled.2.1
    | refuse | ask | pass | enter | quit | arrive | apply | failed | bind | mark | skip | unbind |
        depart | dropped | work => exact hnil
  · rw [happlying] at hturn
    cases move with
    | apply i v => exact h.counted.stored_eq_none_iff.mp henabled.2.2
    | refuse | ask | pass | enter | quit | arrive | join | applied | failed | bind | mark | skip |
        unbind | depart | leave | drop | dropped | work => cases hturn

theorem lease_next (h : m.Sound held) (henabled : move.Enabled m) {n : Nat} {binding : Binding}
    (htenant : t.tenant n) (hbound : t.bound? (m.next move).state n = some binding) :
    binding = ⟨t.handle, .shared⟩ := by
  cases move with
  | refuse | ask | pass | enter | quit | arrive | join | apply | applied | failed | mark | depart |
      leave | drop | dropped => exact h.lease htenant hbound
  | bind i v =>
      replace hbound := (v.bound?_bind m.state n).symm.trans hbound
      split at hbound
      next =>
        cases hbound
        rfl
      next => exact h.lease htenant hbound
  | skip i v | unbind i v =>
      replace hbound := (v.bound?_unbind m.state n).symm.trans hbound
      split at hbound
      next => cases hbound
      next => exact h.lease htenant hbound
  | work s => exact h.lease htenant ((henabled.bound? htenant).symm.trans hbound)

theorem step (h : m.Sound held) (henabled : move.Enabled m) :
    (m.next move).Sound (move.holders held) where
  counted := h.counted_next henabled
  entered := h.entered_next henabled
  lined := h.lined_next henabled
  first := h.first_next henabled
  made := h.made_next henabled
  lease := h.lease_next henabled

end Sound

/-! ## All moments -/

/-- Before the first call. -/
def start (s : State) : Tenancy t where
  state := s

/-- Every move could be made when its turn came. -/
abbrev Legal (m : Tenancy t) (moves : List (Move t)) : Prop :=
  Trace.Legal Move.Enabled next m moves

/-- The classes that have acquired the migrations and have not released them. -/
def holders (moves : List (Move t)) : List Nat :=
  moves.foldl Move.holders []

variable {moves : List (Move t)} {s : State}

theorem holders_concat (moves : List (Move t)) (move : Move t) :
    holders (moves ++ [move]) = move.holders (holders moves) :=
  List.foldl_append

theorem sound_start (hfresh : t.Fresh s) : (start s : Tenancy t).Sound [] where
  counted := by
    refine ⟨hfresh.stored, [], List.nodup_nil, ?_, .nil⟩
    rintro ⟨n, _ | i⟩
    · refine iff_of_false List.not_mem_nil ?_
      rintro ⟨htenant, hsome⟩
      rw [show t.bound? (start s : Tenancy t).state n = none from hfresh.unbound htenant] at hsome
      cases hsome
    · exact iff_of_false List.not_mem_nil nofun
  entered := ⟨nofun, nofun⟩
  lined := by
    refine ⟨List.nodup_nil, fun {i} => ?_, nofun⟩
    exact iff_of_false List.not_mem_nil Bool.false_ne_true
  first := nofun
  made := by
    rintro i v (hphase | hphase) <;> cases hphase
  lease htenant hbound := by
    cases (hfresh.unbound htenant).symm.trans hbound

theorem sound_outcome (hfresh : t.Fresh s) (hlegal : (start s).Legal moves) :
    (outcome next (start s) moves).Sound (holders moves) := by
  induction moves using List.reverseRecOn with
  | nil => exact sound_start hfresh
  | append_singleton moves move ih =>
      obtain ⟨hbefore, henabled⟩ := hlegal.of_concat
      rw [outcome_concat, holders_concat]
      exact (ih hbefore).step henabled

end Tenancy

end ScopedResources.Lifecycle
