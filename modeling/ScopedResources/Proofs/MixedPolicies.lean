import ScopedResources.Proofs.SharedMigrations

/-!
# Classes that drop what they do not hold

A class may declare to apply a schema of a shared instance, to drop it, both or neither. What it
applies it holds from then on, and what it drops it releases; nothing ties the one to the other. As
long as every class that drops the schema has applied it, a class that holds nothing takes nothing
away. A class that drops without applying gives back a hold that is not its own: the count goes
down, and with the last hold the schema is dropped under a class that relies on it. -/

namespace ScopedResources.Lifecycle

open Tenancy Trace

/-- What the classes of a schema declare, by their numbers. They may differ in when they apply the
schema and when they drop it. -/
structure Mixture (t : Schema) where
  decl : Nat → Declaration
  set_eq : ∀ {n}, t.tenant n → migrationSet (decl n).migration = t.set
  mode_ne : ∀ {n}, t.tenant n → (decl n).mode ≠ .testMethod

namespace Mixture

variable {t : Schema} (p : Mixture t)

/-- The before-hook of a class acquires the schema. -/
def Applies (n : Nat) : Prop :=
  (p.decl n).migration.appliesAt .perClass = true

/-- The after-hook of a class releases the schema. -/
def Drops (n : Nat) : Prop :=
  (p.decl n).migration.dropsAt .perClass = true

instance (n : Nat) : Decidable (p.Applies n) :=
  inferInstanceAs (Decidable (_ = _))

instance (n : Nat) : Decidable (p.Drops n) :=
  inferInstanceAs (Decidable (_ = _))

/-- A hook of a class that is called when no other hook runs. -/
inductive Turn (t : Schema) where
  | before (v : Visit t)
  | after (v : Visit t)

/-- The state between two hooks, and the classes that acquired the schema and have not released it.
-/
structure Tally (t : Schema) where
  state : State
  held : List Nat := []

namespace Turn

/-- The state after a hook. -/
def perform (s : State) : Turn t → State
  | before v => (v.coordinator.beforeAll v.node s).2
  | after v => (v.coordinator.afterAll v.node s).2

/-- The class sees its declaration, which asks for the instance of the schema. -/
def Enabled (m : Tally t) : Turn t → Prop
  | before v => v.coordinator.declarationAt m.state v.node = .ok (p.decl v.number) ∧
    ∀ binding s', v.coordinator.takeUp v.node m.state = (.ok binding, s') →
      binding = ⟨t.handle, .shared⟩ ∧ t.handle < s'.handles.size
  | after v => v.coordinator.declarationAt m.state v.node = .ok (p.decl v.number)

/-- The holders after a hook: a class that is bound by the hook and applies the schema becomes one,
a bound class that drops it gives one hold back. -/
def holders (m : Tally t) : Turn t → List Nat
  | before v =>
    if p.Applies v.number ∧ t.bound? m.state v.number = none ∧
      (t.bound? ((before v).perform m.state) v.number).isSome then v.number :: m.held
    else m.held
  | after v =>
    if p.Drops v.number ∧ (t.bound? m.state v.number).isSome then m.held.erase v.number else m.held

end Turn

/-- What a hook leads to. -/
def next (m : Tally t) (turn : Turn t) : Tally t where
  state := turn.perform m.state
  held := turn.holders p m

/-- Before the first hook. -/
def start (s : State) : Tally t where
  state := s

/-- Every hook found the declaration of its class when it was called. -/
abbrev Legal (m : Tally t) (turns : List (Turn t)) : Prop :=
  Trace.Legal (Turn.Enabled p) p.next m turns

variable {p} {s s' : State} {v : Visit t}

theorem set_eq_of_visit (p : Mixture t) (v : Visit t) :
    migrationSet (p.decl v.number).migration = t.set :=
  p.set_eq v.tenant

/-! ## One hook -/

/-- The after-hook of a bound class settles what the class declares about dropping the schema. -/
theorem afterAll_eq_settle (hbound : t.bound? s v.number = some ⟨t.handle, .shared⟩)
    (hdecl : v.coordinator.declarationAt s v.node = .ok (p.decl v.number)) :
    v.coordinator.afterAll v.node s = Coordinator.settle ⟨t.handle, .shared⟩
      (v.coordinator.dropForClass ⟨t.handle, .shared⟩ (p.decl v.number).migration) (v.close s) :=
  v.coordinator.closeDown_of_bound ((v.binding?_eq s).trans hbound) hdecl

theorem afterAll_of_not_drops (hbound : t.bound? s v.number = some ⟨t.handle, .shared⟩)
    (hdecl : v.coordinator.declarationAt s v.node = .ok (p.decl v.number))
    (hnot : ¬ p.Drops v.number) :
    v.coordinator.afterAll v.node s = (.ok (), v.close s) := by
  have hskip : v.coordinator.dropForClass ⟨t.handle, .shared⟩ (p.decl v.number).migration =
      pure () := if_neg hnot
  rw [afterAll_eq_settle hbound hdecl, hskip]
  rfl

theorem afterAll_of_drops (hbound : t.bound? s v.number = some ⟨t.handle, .shared⟩)
    (hdecl : v.coordinator.declarationAt s v.node = .ok (p.decl v.number))
    (hdrops : p.Drops v.number) :
    v.coordinator.afterAll v.node s = if 0 < (t.stored s).getD 0 - 1 then
        (.ok (), t.store ((t.stored s).getD 0 - 1) (v.close s))
      else migrate .drop v.coordinator.migrationRoot t.handle (p.decl v.number).migration
        (t.forget (v.close s)) := by
  rw [afterAll_eq_settle hbound hdecl, settle_dropForClass_shared _ _ hdrops,
    release_eq (p.set_eq_of_visit v)]
  rfl

/-- What the after-hook of a class that drops the schema leaves of the count. -/
theorem stored_afterAll_of_drops (hbound : t.bound? s v.number = some ⟨t.handle, .shared⟩)
    (hdecl : v.coordinator.declarationAt s v.node = .ok (p.decl v.number))
    (hdrops : p.Drops v.number) (hsize : t.handle < s.handles.size) :
    t.stored (v.coordinator.afterAll v.node s).2 =
      if 0 < (t.stored s).getD 0 - 1 then some ((t.stored s).getD 0 - 1) else none := by
  rw [afterAll_of_drops hbound hdecl hdrops]
  have hsize' : t.handle < (v.close s).handles.size := hsize
  split
  next => exact Schema.stored_store hsize' _
  next => exact (migrate_spares t ..).stored.trans (Schema.stored_forget hsize')

/-- An after-hook unbinds its class and no other. -/
theorem bound?_afterAll (hbound : t.bound? s v.number = some ⟨t.handle, .shared⟩)
    (hdecl : v.coordinator.declarationAt s v.node = .ok (p.decl v.number)) (n : Nat) :
    t.bound? (v.coordinator.afterAll v.node s).2 n =
      if v.number = n then none else t.bound? s n := by
  rw [← v.bound?_close]
  by_cases hdrops : p.Drops v.number
  · rw [afterAll_eq_settle hbound hdecl, settle_dropForClass_shared _ _ hdrops, Schema.bound?,
      (release_quiet ..).bindings]
    rfl
  · rw [afterAll_of_not_drops hbound hdecl hdrops]

/-- The bindings of the classes, and the count, are the same in both states. -/
def Passes (t : Schema) (s s' : State) : Prop :=
  t.stored s' = t.stored s ∧ ∀ {n}, t.tenant n → t.bound? s' n = t.bound? s n

/-- A class is counted if it applies the schema. -/
def Counts (p : Mixture t) (n : Nat) (s s' : State) : Prop :=
  t.stored s' = (if p.Applies n then some ((t.stored s).getD 0 + 1) else t.stored s) ∧
    ∀ {n}, t.tenant n → t.bound? s' n = t.bound? s n

/-- The count and the bindings after a class is bound. -/
structure Binds (p : Mixture t) (v : Visit t) (s s' : State) : Prop where
  unbound : t.bound? s v.number = none
  stored : t.stored s' =
    if p.Applies v.number then some ((t.stored s).getD 0 + 1) else t.stored s
  bound? : ∀ {n}, t.tenant n →
    t.bound? s' n = if v.number = n then some ⟨t.handle, .shared⟩ else t.bound? s n

theorem Passes.of_spares (h : t.Spares s s') : Passes t s s' :=
  ⟨h.stored, h.bound?⟩

theorem Passes.trans {s'' : State} (h : Passes t s s') (h' : Passes t s' s'') : Passes t s s'' :=
  ⟨h'.1.trans h.1, fun hn => (h'.2 hn).trans (h.2 hn)⟩

theorem Counts.binds {s₁ : State} (h : p.Counts v.number s₁ s') (hspares : t.Spares s s₁)
    (hunbound : t.bound? s v.number = none) : p.Binds v s (v.bind s') where
  unbound := hunbound
  stored := by
    rw [← hspares.stored]
    exact h.1
  bound? {n} hn := by
    rw [v.bound?_bind, h.2 hn, hspares.bound? hn]

/-- What applying for a class comes to: it counts, or the migrations failed and nobody holds them.
-/
def Attempted (p : Mixture t) (n : Nat) (s : State) : Except LifecycleError Unit → State → Prop
  | .ok _, s' => p.Counts n s s'
  | .error _, s' => Passes t s s'

theorem acquire_attempted (happlies : p.Applies v.number) (hsize : t.handle < s.handles.size) :
    (acquire v.coordinator.migrationRoot t.handle (p.decl v.number).migration).Yields s
      (p.Attempted v.number s) := by
  have hset := p.set_eq_of_visit v
  unfold Action.Yields
  cases hstored : t.stored s with
  | some count =>
      rw [acquire_of_some hset hstored]
      refine ⟨?_, fun _ => rfl⟩
      rw [if_pos happlies]
      exact Schema.stored_store hsize _
  | none =>
      rw [acquire_of_none hset hstored]
      have hspares := migrate_spares t .apply v.coordinator.migrationRoot
        (p.decl v.number).migration s
      rcases hrun : migrate .apply v.coordinator.migrationRoot t.handle
        (p.decl v.number).migration s with ⟨error | _, s'⟩
      · rw [hrun] at hspares
        exact .of_spares hspares
      · rw [hrun] at hspares
        have hsize' : t.handle < s'.handles.size := Nat.lt_of_lt_of_le hsize hspares.size
        refine ⟨?_, hspares.bound?⟩
        rw [if_pos happlies, hstored]
        exact Schema.stored_store hsize' _

theorem applyForClass_attempted (p : Mixture t) (v : Visit t) (hsize : t.handle < s.handles.size) :
    (v.coordinator.applyForClass ⟨t.handle, .shared⟩ (p.decl v.number).migration).Yields s
      (p.Attempted v.number s) := by
  by_cases happlies : p.Applies v.number
  · unfold Action.Yields
    rw [applyForClass_shared _ _ happlies]
    exact acquire_attempted happlies hsize
  · have hskip : v.coordinator.applyForClass ⟨t.handle, .shared⟩ (p.decl v.number).migration s =
        (.ok (), s) := congrFun (if_neg happlies) s
    unfold Action.Yields
    rw [hskip]
    exact ⟨(if_neg happlies).symm, fun _ => rfl⟩

/-- A before-hook changes nothing for the classes, or it binds its own. -/
theorem before_cases {m : Tally t} (henabled : (Turn.before v).Enabled p m) :
    Passes t m.state (v.coordinator.beforeAll v.node m.state).2 ∨
      p.Binds v m.state (v.coordinator.beforeAll v.node m.state).2 := by
  obtain ⟨hdecl, htaken⟩ := henabled
  have hsame : Passes t m.state m.state := ⟨rfl, fun _ => rfl⟩
  rw [beforeAll_eq]
  cases (v.coordinator.ensureOpen v.node m.state).1 with
  | error error => exact .inl hsame
  | ok _ =>
      dsimp only
      split
      next => exact .inl hsame
      next hbound =>
        have hspares := v.takeUp_spares m.state
        rw [v.coordinator.openClass_eq hdecl (p.mode_ne v.tenant), Action.run_bind]
        rcases htake : v.coordinator.takeUp v.node m.state with ⟨error | binding, s₁⟩
        · rw [htake] at hspares
          exact .inl (.of_spares hspares)
        · rw [htake] at hspares
          obtain ⟨rfl, hsize⟩ := htaken binding s₁ htake
          have happlied := applyForClass_attempted p v hsize
          unfold Action.Yields at happlied
          simp only [Action.run_bind]
          rcases hrun : v.coordinator.applyForClass ⟨t.handle, .shared⟩
            (p.decl v.number).migration s₁ with ⟨error | _, s₂⟩
          · rw [hrun] at happlied
            exact .inl ((Passes.of_spares hspares).trans happlied)
          · rw [hrun] at happlied
            have hcounts : p.Counts v.number s₁ s₂ := happlied
            exact .inr (hcounts.binds hspares (Option.not_isSome_iff_eq_none.mp hbound))

/-! ## Many hooks -/

/-- The count is the number of holders, and a bound class that applies the schema is one of them. -/
structure Sound (p : Mixture t) (m : Tally t) : Prop where
  count : t.stored m.state = if m.held = [] then none else some m.held.length
  leased : ∀ {n binding}, t.tenant n → t.bound? m.state n = some binding →
    binding = ⟨t.handle, .shared⟩
  holds : ∀ {n}, t.tenant n → (t.bound? m.state n).isSome → p.Applies n → n ∈ m.held

namespace Sound

variable {m : Tally t}

theorem getD_stored (h : p.Sound m) : (t.stored m.state).getD 0 = m.held.length := by
  rw [h.count]
  split
  next hnil => rw [hnil]; rfl
  next => rfl

/-- What a holder relies on was made. -/
theorem lt_size (h : p.Sound m) {n : Nat} (hmem : n ∈ m.held) :
    t.handle < m.state.handles.size := by
  have hcount : t.stored m.state = some m.held.length := by
    rw [h.count, if_neg (List.ne_nil_of_mem hmem)]
  exact Schema.lt_size_of_stored hcount

theorem start (hfresh : t.Fresh s) : p.Sound (start s) where
  count := hfresh.stored
  leased hn hbound := by cases (hfresh.unbound hn).symm.trans hbound
  holds hn hbound _ := by
    rw [show t.bound? (Mixture.start s : Tally t).state _ = none from hfresh.unbound hn] at hbound
    cases hbound

/-- Neither the holders nor what the classes are bound to has changed. -/
theorem pass (h : p.Sound m) (hpass : Passes t m.state s) : p.Sound ⟨s, m.held⟩ where
  count := hpass.1.trans h.count
  leased hn hbound := h.leased hn ((hpass.2 hn).symm.trans hbound)
  holds hn hbound := by
    rw [hpass.2 hn] at hbound
    exact h.holds hn hbound

/-- A class is bound, and holds the schema if it applies it. -/
theorem bind (h : p.Sound m) (hbinds : p.Binds v m.state s) :
    p.Sound ⟨s, if p.Applies v.number then v.number :: m.held else m.held⟩ where
  count := by
    refine hbinds.stored.trans ?_
    rw [h.getD_stored]
    by_cases happlies : p.Applies v.number
    · simp [happlies]
    · simp only [if_neg happlies]
      exact h.count
  leased {n binding} hn hbound := by
    have hbound' := (hbinds.bound? hn).symm.trans hbound
    split at hbound'
    next =>
      cases hbound'
      rfl
    next => exact h.leased hn hbound'
  holds {n} hn hbound happlies := by
    rw [hbinds.bound? hn] at hbound
    split at hbound
    next hnumber =>
      subst hnumber
      rw [if_pos happlies]
      exact List.mem_cons_self ..
    next =>
      have hmem := h.holds hn hbound happlies
      split
      next => exact List.mem_cons_of_mem _ hmem
      next => exact hmem

theorem before (h : p.Sound m) (henabled : (Turn.before v).Enabled p m) :
    p.Sound (p.next m (.before v)) := by
  rcases before_cases henabled with hpass | hbinds
  · have hheld : (Turn.before v).holders p m = m.held := by
      refine if_neg ?_
      rintro ⟨-, hnone, hsome⟩
      have hsame : t.bound? ((Turn.before v).perform m.state) v.number = none :=
        (hpass.2 v.tenant).trans hnone
      rw [hsame] at hsome
      cases hsome
    unfold next
    rw [hheld]
    exact h.pass hpass
  · have hheld : (Turn.before v).holders p m =
        if p.Applies v.number then v.number :: m.held else m.held := by
      have hsome : t.bound? ((Turn.before v).perform m.state) v.number = some ⟨t.handle, .shared⟩ :=
        (hbinds.bound? v.tenant).trans (if_pos rfl)
      simp only [Turn.holders, hbinds.unbound, hsome, Option.isSome_some, and_self, and_true]
    unfold next
    rw [hheld]
    exact h.bind hbinds

/-- A class is unbound, and gives its hold back if it drops the schema. -/
theorem close (h : p.Sound m) (hbacked : p.Drops v.number → v.number ∈ m.held)
    (hstored : t.stored s = if p.Drops v.number then
      (if 0 < m.held.length - 1 then some (m.held.length - 1) else none) else t.stored m.state)
    (hbound? : ∀ {n}, t.tenant n →
      t.bound? s n = if v.number = n then none else t.bound? m.state n) :
    p.Sound ⟨s, if p.Drops v.number then m.held.erase v.number else m.held⟩ where
  count := by
    rw [hstored]
    by_cases hdrops : p.Drops v.number
    · simp only [if_pos hdrops, ← List.length_erase_of_mem (hbacked hdrops)]
      by_cases hnil : m.held.erase v.number = []
      · simp [hnil]
      · simp [hnil, List.length_pos_iff]
    · simp only [if_neg hdrops]
      exact h.count
  leased {n binding} hn hbound := by
    rw [hbound? hn] at hbound
    split at hbound
    next => cases hbound
    next => exact h.leased hn hbound
  holds {n} hn hbound happlies := by
    rw [hbound? hn] at hbound
    split at hbound
    next => cases hbound
    next hnumber =>
      have hmem := h.holds hn hbound happlies
      split
      next => exact (List.mem_erase_of_ne fun heq => hnumber heq.symm).mpr hmem
      next => exact hmem

theorem after (h : p.Sound m) (henabled : (Turn.after v).Enabled p m)
    (hbacked : p.Drops v.number → p.Applies v.number) : p.Sound (p.next m (.after v)) := by
  cases hbound : t.bound? m.state v.number with
  | none =>
      have hheld : (Turn.after v).holders p m = m.held := by
        refine if_neg ?_
        rintro ⟨-, hsome⟩
        rw [hbound] at hsome
        cases hsome
      have hstate : (Turn.after v).perform m.state = v.close m.state :=
        congrArg Prod.snd (afterAll_of_unbound hbound)
      unfold next
      rw [hheld, hstate]
      refine h.pass ⟨rfl, fun {n} _ => ?_⟩
      rw [v.bound?_close]
      split
      next hnumber => rw [← hnumber, hbound]
      next => rfl
  | some binding =>
      obtain rfl := h.leased v.tenant hbound
      have hheld : (Turn.after v).holders p m =
          if p.Drops v.number then m.held.erase v.number else m.held := by
        simp only [Turn.holders, hbound, Option.isSome_some, and_true]
      unfold next
      rw [hheld]
      refine h.close (fun hdrops => ?_) ?_ fun {n} _ => bound?_afterAll hbound henabled n
      · exact h.holds v.tenant (by rw [hbound]; rfl) (hbacked hdrops)
      · by_cases hdrops : p.Drops v.number
        · have hmem : v.number ∈ m.held := h.holds v.tenant (by rw [hbound]; rfl) (hbacked hdrops)
          rw [if_pos hdrops, ← h.getD_stored]
          exact stored_afterAll_of_drops hbound henabled hdrops (h.lt_size hmem)
        · rw [if_neg hdrops]
          exact congrArg (fun r => t.stored r.2) (afterAll_of_not_drops hbound henabled hdrops)

theorem step {turn : Turn t} (h : p.Sound m) (henabled : turn.Enabled p m)
    (hbacked : ∀ v, turn = .after v → p.Drops v.number → p.Applies v.number) :
    p.Sound (p.next m turn) := by
  cases turn with
  | before v => exact h.before henabled
  | after v => exact h.after henabled (hbacked v rfl)

end Sound

theorem sound_outcome {turns : List (Turn t)} (hfresh : t.Fresh s)
    (hlegal : p.Legal (start s) turns)
    (hbacked : ∀ v, .after v ∈ turns → p.Drops v.number → p.Applies v.number) :
    p.Sound (outcome p.next (start s) turns) := by
  induction turns using List.reverseRecOn with
  | nil => exact .start hfresh
  | append_singleton turns turn ih =>
      obtain ⟨hbefore, henabled⟩ := hlegal.of_concat
      rw [outcome_concat]
      refine (ih hbefore fun v hmem => ?_).step henabled fun v hv => ?_
      · exact hbacked v (List.mem_append_left _ hmem)
      · exact hbacked v (List.mem_append_right _ (List.mem_singleton.mpr hv.symm))

/-- Hooks of classes on a shared instance are called one after another, and no class has dropped the
schema yet without having applied it. Then the count that is stored is the number of classes that
acquired the schema and have not released it. While a class that applies the schema is bound, the
after-hook of a class leaves the count as it is, and sends nothing, exactly if the class does not
drop the schema, whether it holds it or not. If it drops it, the count goes down by one; and where
it was one, the schema is forgotten and dropped. -/
theorem count_kept_iff_not_drops {turns : List (Turn t)} (hfresh : t.Fresh s)
    (hlegal : p.Legal (start s) turns)
    (hbacked : ∀ v, .after v ∈ turns → p.Drops v.number → p.Applies v.number)
    {m : Tally t} (hm : m = outcome p.next (start s) turns) :
    t.stored m.state = (if m.held = [] then none else some m.held.length) ∧
    ∀ {n v}, t.tenant n → (t.bound? m.state n).isSome → p.Applies n →
      (t.bound? m.state v.number).isSome → (Turn.after v).Enabled p m →
      n ∈ m.held ∧
      (t.stored (v.coordinator.afterAll v.node m.state).2 = t.stored m.state ↔
        ¬ p.Drops v.number) ∧
      (¬ p.Drops v.number → v.coordinator.afterAll v.node m.state = (.ok (), v.close m.state)) ∧
      (p.Drops v.number → v.coordinator.afterAll v.node m.state =
        if 0 < m.held.length - 1 then (.ok (), t.store (m.held.length - 1) (v.close m.state))
        else migrate .drop v.coordinator.migrationRoot t.handle (p.decl v.number).migration
          (t.forget (v.close m.state))) := by
  subst hm
  have hsound := sound_outcome hfresh hlegal hbacked
  generalize outcome p.next (start s) turns = m at hsound
  refine ⟨hsound.count, fun {n v} hn hholder happlies hbound henabled => ?_⟩
  have hmem : n ∈ m.held := hsound.holds hn hholder happlies
  obtain ⟨binding, hbinding⟩ := Option.isSome_iff_exists.mp hbound
  obtain rfl := hsound.leased v.tenant hbinding
  have hkept : ¬ p.Drops v.number →
      v.coordinator.afterAll v.node m.state = (.ok (), v.close m.state) :=
    afterAll_of_not_drops hbinding henabled
  refine ⟨hmem, ⟨fun hsame hdrops => ?_, fun hnot => ?_⟩, hkept, fun hdrops => ?_⟩
  · -- somebody holds the schema, so the count that is lowered is not none already
    rw [stored_afterAll_of_drops hbinding henabled hdrops (hsound.lt_size hmem),
      hsound.getD_stored, hsound.count, if_neg (List.ne_nil_of_mem hmem)] at hsame
    have hpos := List.length_pos_of_mem hmem
    split at hsame
    next =>
      have hlength := Option.some.inj hsame
      omega
    next => cases hsame
  · rw [hkept hnot]
    rfl
  · rw [afterAll_of_drops hbinding henabled hdrops, hsound.getD_stored]

/-! Two classes use an instance of the run. The first one applies the schema, and the second one
only drops it. -/

namespace Unbacked

open Overlap TwoClasses

/-- A class that applies the schema and drops it. -/
def holding : Declaration where
  mode := .run
  migration := { engine := .scripts, apply := .perClass, drop := .perClass, locations }

/-- A class that drops the schema without applying it. -/
def dropping : Declaration where
  mode := .run
  migration := { engine := .scripts, drop := .perClass, locations }

def policies : Mixture schema where
  decl number := if number = 1 then holding else dropping
  set_eq {n} _ := by
    split <;> rfl
  mode_ne {n} _ := by
    split <;> decide

/-- The state after both classes have declared. -/
def declared : State :=
  runCalls scopes.root [.request coordinator alone (.declare holding),
    .request coordinator together (.declare dropping)] (.initial {} files [])

theorem fresh : schema.Fresh declared where
  stored := rfl
  unbound _ := rfl

/-- The state after the instance is made for the first class. -/
def made : State :=
  (coordinator.takeUp alone declared).2

/-- The state after the first class has applied the schema and is bound. -/
def applied : State :=
  first.bind (schema.store 1 (sentTo made "CREATE TABLE users(id INT)" ⟨[("users", 0)], 1⟩))

/-- The state after the second class is bound as well. -/
def joined : State :=
  second.bind applied

/-- The state after the second class has dropped the schema. -/
def dropped : State :=
  sentTo (schema.forget (second.close joined)) "DROP TABLE users" ⟨[], 2⟩

theorem declarationAt_first : coordinator.declarationAt declared alone = .ok holding := rfl

theorem takeUp_first : coordinator.takeUp alone declared = (.ok ⟨0, .shared⟩, made) := rfl

theorem takeUp_second : coordinator.takeUp together applied = (.ok ⟨0, .shared⟩, applied) := rfl

theorem beforeAll_first : coordinator.beforeAll alone declared = (.ok (), applied) := by
  have hmigrate : Lifecycle.migrate .apply "" 0 holding.migration made =
      (.ok (), sentTo made "CREATE TABLE users(id INT)" ⟨[("users", 0)], 1⟩) :=
    migrate_of_plan rfl rfl plan_apply (send_of_execute rfl rfl rfl rfl execute_create)
  have hacquire : acquire "" 0 holding.migration made = (.ok (),
      schema.store 1 (sentTo made "CREATE TABLE users(id INT)" ⟨[("users", 0)], 1⟩)) := by
    refine (acquire_of_none (t := schema) rfl rfl).trans ?_
    rw [show schema.handle = 0 from rfl, hmigrate]
  have hopen : coordinator.openClass alone declared = (.ok (), applied) := by
    rw [coordinator.openClass_eq declarationAt_first (by decide), Action.run_bind, takeUp_first]
    simp only [Action.run_bind]
    rw [applyForClass_shared coordinator 0 (by decide),
      show coordinator.migrationRoot = "" from rfl,
      hacquire]
    rfl
  exact hopen

theorem beforeAll_second : coordinator.beforeAll together applied = (.ok (), joined) := rfl

theorem afterAll_second : coordinator.afterAll together joined = (.ok (), dropped) := by
  refine (afterAll_of_drops (p := policies) (v := second) rfl rfl rfl).trans ?_
  refine (if_neg ?_).trans ?_
  · exact Nat.lt_irrefl 0
  · exact migrate_of_plan rfl rfl plan_drop (send_of_execute rfl rfl rfl rfl execute_drop)

theorem next_first : policies.next (start declared) (.before first) = ⟨applied, [1]⟩ := by
  have hperform : (Turn.before first).perform declared = applied :=
    congrArg Prod.snd beforeAll_first
  have hheld : (Turn.before first).holders policies (start declared) = [1] := by
    refine if_pos ⟨rfl, rfl, ?_⟩
    rw [show (start declared : Tally schema).state = declared from rfl, hperform]
    rfl
  exact congr (congrArg Tally.mk hperform) hheld

theorem outcome_joined :
    outcome policies.next (start declared) [.before first, .before second] = ⟨joined, [1]⟩ := by
  have hperform : (Turn.before second).perform applied = joined :=
    congrArg Prod.snd beforeAll_second
  have hheld : (Turn.before second).holders policies ⟨applied, [1]⟩ = [1] := by
    have hnot : ¬ policies.Applies second.number := by decide
    simp only [Turn.holders, hnot, false_and, if_false]
  change policies.next (policies.next (start declared) (.before first)) (.before second) = _
  rw [next_first]
  exact congr (congrArg Tally.mk hperform) hheld

theorem legal : policies.Legal (start declared) [.before first, .before second] := by
  refine .cons ⟨declarationAt_first, ?_⟩ (.cons ?_ (legal_nil _))
  · intro binding s' htake
    cases takeUp_first.symm.trans htake
    exact ⟨rfl, Nat.zero_lt_one⟩
  · rw [next_first]
    refine ⟨rfl, ?_⟩
    intro binding s' htake
    cases takeUp_second.symm.trans htake
    exact ⟨rfl, Nat.zero_lt_one⟩

end Unbacked

open Overlap (schema first second) in
open Unbacked in
/-- The second class lowers the count of the first. -/
theorem second_class_lowers_count :
    schema.Fresh declared ∧ policies.Legal (start declared) [.before first, .before second] ∧
    schema.stored joined = some 1 ∧
    schema.stored (second.coordinator.afterAll second.node joined).2 ≠ schema.stored joined := by
  have hall := count_kept_iff_not_drops fresh legal (by simp) outcome_joined.symm
  have hsecond := hall.2 (n := 1) (v := second) (.inl rfl) rfl rfl rfl rfl
  exact ⟨fresh, legal, hall.1, fun hsame => hsecond.2.1.mp hsame rfl⟩

open Overlap (schema) in
open Unbacked TwoClasses in
/-- Both declarations are accepted, the first class holds the schema, and the second one holds
nothing. Its after-hook takes the hold of the first class, and the table with it. -/
theorem unbacked_drop_takes_schema_away :
    holding.conflict? = none ∧ dropping.conflict? = none ∧
    holding.migration.apply = .perClass ∧ dropping.migration.apply = .none ∧
    coordinator.beforeAll alone declared = (.ok (), applied) ∧
    coordinator.beforeAll together applied = (.ok (), joined) ∧
    coordinator.afterAll together joined = (.ok (), dropped) ∧
    schema.bound? dropped 1 = some ⟨0, .shared⟩ ∧
    schema.stored joined = some 1 ∧ schema.stored dropped = none ∧
    (joined.handle 0).connection.hasTable (joined.server "MEMORY") "users" = true ∧
    (dropped.handle 0).connection.hasTable (dropped.server "MEMORY") "users" = false := by
  refine ⟨by decide, by decide, rfl, rfl, beforeAll_first, beforeAll_second, afterAll_second, ?_⟩
  decide +kernel

end Mixture

end ScopedResources.Lifecycle
