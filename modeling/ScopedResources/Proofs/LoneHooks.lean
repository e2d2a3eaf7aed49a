import ScopedResources.Proofs.SchemaHolders

/-!
# Hooks of a shared class that nobody disturbs

The moves that a hook makes when no other call moves in between lead to the state in which the hook
ends when it runs in one go, and to its answer. So the moves are those of the hooks, taken apart.
-/

namespace ScopedResources.Lifecycle

namespace Tenancy

open Trace

variable {t : Schema} {m : Tenancy t} {moves : List (Move t)} {move : Move t} {s : State}

/-! ## What hooks do in one go -/

theorem migrate_spares (t : Schema) (direction : Migration.Direction) (root : String)
    (policy : Migration.Policy) (s : State) :
    t.Spares s (migrate direction root t.handle policy s).2 :=
  t.spares_of_undisturbed (migrate_sending direction root t.handle policy s).undisturbed

theorem acquire_of_some {root : String} {policy : Migration.Policy} {count : Nat}
    (hset : migrationSet policy = t.set) (h : t.stored s = some count) :
    acquire root t.handle policy s = (.ok (), t.store ((t.stored s).getD 0 + 1) s) := by
  have hfound : Assoc.find? t.set (s.handle t.handle).holders = some count := h
  unfold acquire
  simp only [Action.run_bind, Action.run_get, hset, hfound, h]
  rfl

theorem acquire_of_none {root : String} {policy : Migration.Policy}
    (hset : migrationSet policy = t.set) (h : t.stored s = none) :
    acquire root t.handle policy s = match migrate .apply root t.handle policy s with
      | (.ok (), s') => (.ok (), t.store 1 s')
      | (.error error, s') => (.error error, s') := by
  have hfound : Assoc.find? t.set (s.handle t.handle).holders = none := h
  unfold acquire
  simp only [Action.run_bind, Action.run_get, hset, hfound]
  rcases hrun : migrate .apply root t.handle policy s with ⟨_ | _, s'⟩
  · simp only [Option.isNone_none, if_true, Action.run_bind, hrun]
  · simp only [Option.isNone_none, if_true, Action.run_bind, hrun]
    rfl

theorem release_eq {root : String} {policy : Migration.Policy}
    (hset : migrationSet policy = t.set) (s : State) :
    release root t.handle policy s = if 0 < (t.stored s).getD 0 - 1 then
        (.ok (), t.store ((t.stored s).getD 0 - 1) s)
      else migrate .drop root t.handle policy (t.forget s) := by
  unfold release Schema.stored
  simp only [Action.run_bind, Action.run_get, hset]
  split
  next => rfl
  next => rfl

theorem applyForClass_shared (c : Coordinator) {policy : Migration.Policy} (id : HandleId)
    (happlies : policy.appliesAt .perClass = true) (s : State) :
    c.applyForClass ⟨id, .shared⟩ policy s = acquire c.migrationRoot id policy s := by
  unfold Coordinator.applyForClass
  have hnot : (⟨id, .shared⟩ : Binding).ownership ≠ .owned := nofun
  rw [if_pos happlies, Coordinator.orStop_of_ne hnot]

theorem settle_dropForClass_shared (c : Coordinator) {policy : Migration.Policy} (id : HandleId)
    (hdrops : policy.dropsAt .perClass = true) (s : State) :
    Coordinator.settle ⟨id, .shared⟩ (c.dropForClass ⟨id, .shared⟩ policy) s =
      release c.migrationRoot id policy s := by
  have hnot : (⟨id, .shared⟩ : Binding).ownership ≠ .owned := nofun
  rw [Coordinator.settle_of_ne hnot]
  exact congrFun (if_pos hdrops) s

theorem beforeAll_eq (v : Visit t) (s : State) :
    v.coordinator.beforeAll v.node s = match (v.coordinator.ensureOpen v.node s).1 with
      | .error error => (.error error, s)
      | .ok () => if (t.bound? s v.number).isSome then (.ok (), s)
        else v.coordinator.openClass v.node s := by
  have hkind : Coordinator.expectKind v.node .testClass "before_all" = .ok () := if_pos v.kind_eq
  have hsame : (v.coordinator.ensureOpen v.node s).2 = s := v.coordinator.ensureOpen_same v.node s
  unfold Coordinator.beforeAll
  simp only [Action.run_bind, Action.run_except, hkind]
  rcases hopen : v.coordinator.ensureOpen v.node s with ⟨_ | _, s'⟩
  · rw [hopen] at hsame
    rw [show s' = s from hsame]
  · rw [hopen] at hsame
    rw [show s' = s from hsame]
    simp only [Action.run_get, v.binding?_eq]
    split
    next => rfl
    next => rfl

theorem openClass_of_takeUp_error {v : Visit t} {s s₁ : State} {error : LifecycleError}
    (hpledged : ∀ decl, v.coordinator.declarationAt s v.node = .ok decl → t.Pledged decl)
    (htaken : v.coordinator.takeUp v.node s = (.error error, s₁)) :
    v.coordinator.openClass v.node s = (.error error, s₁) := by
  cases hdecl : v.coordinator.declarationAt s v.node with
  | error missing =>
      obtain ⟨hopen, htake⟩ := v.coordinator.openClass_of_error hdecl
      cases htake.symm.trans htaken
      exact hopen
  | ok decl =>
      rw [v.coordinator.openClass_eq hdecl (hpledged decl hdecl).1]
      simp only [Action.run_bind, htaken]

theorem openClass_of_takeUp {v : Visit t} {decl : Declaration} {s s₁ : State}
    (hdecl : v.coordinator.declarationAt s v.node = .ok decl) (hpledged : t.Pledged decl)
    (htaken : v.coordinator.takeUp v.node s = (.ok ⟨t.handle, .shared⟩, s₁)) :
    v.coordinator.openClass v.node s =
      match acquire v.coordinator.migrationRoot t.handle decl.migration s₁ with
      | (.ok (), s₂) => (.ok (), v.bind s₂)
      | (.error error, s₂) => (.error error, s₂) := by
  rw [v.coordinator.openClass_eq hdecl hpledged.1]
  simp only [Action.run_bind, htaken, applyForClass_shared _ _ hpledged.2.2.1]
  rcases acquire v.coordinator.migrationRoot t.handle decl.migration s₁ with ⟨_ | _, s₂⟩
  · rfl
  · rfl

theorem afterAll_of_unbound {v : Visit t} {s : State} (hbound : t.bound? s v.number = none) :
    v.coordinator.afterAll v.node s = (.ok (), v.close s) :=
  v.coordinator.closeDown_of_unbound ((v.binding?_eq s).trans hbound)

theorem afterAll_of_bound {v : Visit t} {decl : Declaration} {s : State}
    (hbound : t.bound? s v.number = some ⟨t.handle, .shared⟩)
    (hdecl : v.coordinator.declarationAt s v.node = .ok decl) (hpledged : t.Pledged decl) :
    v.coordinator.afterAll v.node s =
      release v.coordinator.migrationRoot t.handle decl.migration (v.close s) := by
  refine (v.coordinator.closeDown_of_bound ((v.binding?_eq s).trans hbound) hdecl).trans ?_
  exact settle_dropForClass_shared _ _ hpledged.2.2.2 _

/-! ## Moves of one hook -/

/-- The moves of a before-hook that has the lock of the instance. -/
def acquireAlone (i : Nat) (v : Visit t) (policy : Migration.Policy) (s : State) : List (Move t) :=
  match t.stored s with
  | some _ => [.join i v, .bind i v]
  | none =>
    match migrate .apply v.coordinator.migrationRoot t.handle policy s with
    | (.ok _, s') => [.apply i v, .work s', .applied i v, .bind i v]
    | (.error error, s') => [.apply i v, .work s', .failed i v error]

/-- The moves of a before-hook that has entered a class. -/
def openAlone (i : Nat) (v : Visit t) (s : State) : List (Move t) :=
  match v.coordinator.declarationAt s v.node with
  | .error error => [.quit i v error]
  | .ok decl =>
    match v.coordinator.takeUp v.node s with
    | (.error error, s') => [.work s', .quit i v error]
    | (.ok _, s') => .work s' :: .arrive i v :: acquireAlone i v decl.migration s'

/-- The moves of a before-hook. -/
def beforeAlone (i : Nat) (v : Visit t) (s : State) : List (Move t) :=
  match (v.coordinator.ensureOpen v.node s).1 with
  | .error error => [.refuse i v error]
  | .ok _ =>
    if (t.bound? s v.number).isSome then [.ask i v, .pass i v]
    else .ask i v :: .enter i v :: openAlone i v s

/-- The moves of an after-hook that has the lock of the instance. -/
def releaseAlone (i : Nat) (v : Visit t) (policy : Migration.Policy) (s : State) : List (Move t) :=
  if 0 < (t.stored s).getD 0 - 1 then [.leave i v]
  else
    let (answer, s') := migrate .drop v.coordinator.migrationRoot t.handle policy (t.forget s)
    [.drop i v, .work s', .dropped i v answer]

/-- The moves of an after-hook. -/
def afterAlone (i : Nat) (v : Visit t) (policy : Migration.Policy) (s : State) : List (Move t) :=
  if (t.bound? s v.number).isSome then
    .mark i v :: .unbind i v :: .depart i v :: releaseAlone i v policy (v.close s)
  else [.mark i v, .skip i v]

/-- The moves can be made, and the call ends with them as a hook that runs in one go. -/
structure Performs (m : Tenancy t) (moves : List (Move t)) (i : Nat) (v : Visit t)
    (result : Except LifecycleError Unit × State) : Prop where
  legal : m.Legal moves
  state : (outcome next m moves).state = result.2
  phase : (outcome next m moves).phase i = .returned v result.1

theorem phase_next_of_turn {i : Nat} {p : Phase t} (h : move.turn = some (i, p)) :
    (m.next move).phase i = p :=
  taken_of_eq_some h

variable {i : Nat} {v : Visit t} {result : Except LifecycleError Unit × State}

theorem Performs.cons (henabled : move.Enabled m) (h : (m.next move).Performs moves i v result) :
    m.Performs (move :: moves) i v result :=
  ⟨.cons henabled h.legal, h.state, h.phase⟩

/-- The call ends with one more move. -/
theorem Performs.last (henabled : move.Enabled m)
    (hturn : move.turn = some (i, .returned v result.1)) (hstate : (m.next move).state = result.2) :
    m.Performs [move] i v result :=
  ⟨.cons henabled (legal_nil _), hstate, phase_next_of_turn hturn⟩

/-- What a before-hook does once it has the lock of the instance. -/
theorem acquire_performs (hphase : m.phase i = .acquiring v) (hhead : m.queue.head? = some i)
    {policy : Migration.Policy} (hset : migrationSet policy = t.set) :
    m.Performs (acquireAlone i v policy m.state) i v
      (match acquire v.coordinator.migrationRoot t.handle policy m.state with
        | (.ok (), s) => (.ok (), v.bind s)
        | (.error error, s) => (.error error, s)) := by
  unfold acquireAlone
  cases hstored : t.stored m.state with
  | some count =>
      have hsome : (t.stored m.state).isSome := by rw [hstored]; rfl
      rw [acquire_of_some hset hstored]
      refine .cons ⟨hphase, hhead, hsome⟩ (.last ?_ rfl rfl)
      exact phase_next_of_turn rfl
  | none =>
      rw [acquire_of_none hset hstored]
      have hspares := migrate_spares t .apply v.coordinator.migrationRoot policy m.state
      have happlying : (m.next (.apply i v)).phase i = .applying v := phase_next_of_turn rfl
      rcases hrun : migrate .apply v.coordinator.migrationRoot t.handle policy m.state with
        ⟨error | _, s'⟩
      · rw [hrun] at hspares
        refine .cons ⟨hphase, hhead, hstored⟩ (.cons hspares (.last ?_ rfl rfl))
        exact happlying
      · rw [hrun] at hspares
        refine .cons ⟨hphase, hhead, hstored⟩ (.cons hspares (.cons happlying (.last ?_ rfl rfl)))
        exact phase_next_of_turn rfl

/-- What an after-hook does once it has the lock of the instance. -/
theorem release_performs (hphase : m.phase i = .releasing v) (hhead : m.queue.head? = some i)
    {policy : Migration.Policy} (hset : migrationSet policy = t.set) :
    m.Performs (releaseAlone i v policy m.state) i v
      (release v.coordinator.migrationRoot t.handle policy m.state) := by
  unfold releaseAlone
  rw [release_eq hset]
  by_cases hothers : 0 < (t.stored m.state).getD 0 - 1
  · rw [if_pos hothers, if_pos hothers]
    exact .last ⟨hphase, hhead, hothers⟩ rfl rfl
  · rw [if_neg hothers, if_neg hothers]
    have hspares := migrate_spares t .drop v.coordinator.migrationRoot policy (t.forget m.state)
    have hdropping : (m.next (.drop i v)).phase i = .dropping v := phase_next_of_turn rfl
    refine .cons ⟨hphase, hhead, Nat.eq_zero_of_not_pos hothers⟩ (.cons hspares (.last ?_ rfl rfl))
    exact hdropping

/-- What a before-hook does once it has entered a class that is not bound. -/
theorem openClass_performs (hentered : m.phase i = .entered v) (hqueue : m.queue = [])
    (hpledged : ∀ decl, v.coordinator.declarationAt m.state v.node = .ok decl → t.Pledged decl)
    (htaken : ∀ binding, (v.coordinator.takeUp v.node m.state).1 = .ok binding →
      binding = ⟨t.handle, .shared⟩ ∧
        t.handle < (v.coordinator.takeUp v.node m.state).2.handles.size) :
    m.Performs (openAlone i v m.state) i v (v.coordinator.openClass v.node m.state) := by
  unfold openAlone
  cases hdecl : v.coordinator.declarationAt m.state v.node with
  | error error =>
      rw [(v.coordinator.openClass_of_error hdecl).1]
      exact .last hentered rfl rfl
  | ok decl =>
      have hspares := v.takeUp_spares m.state
      have hdecl' := hpledged decl hdecl
      rcases htake : v.coordinator.takeUp v.node m.state with ⟨error | binding, s'⟩
      · rw [htake] at hspares
        rw [openClass_of_takeUp_error hpledged htake]
        exact .cons hspares (.last hentered rfl rfl)
      · have hsame := v.coordinator.takeUp_undisturbed v.node m.state
        unfold Action.Yields at hsame
        rw [htake] at hspares htaken hsame
        obtain ⟨rfl, hsize⟩ := htaken binding rfl
        rw [openClass_of_takeUp hdecl hdecl' htake]
        have harrive : (Move.arrive i v).Enabled (m.next (.work s')) := by
          refine ⟨hentered, hsize, decl, ?_, hdecl'⟩
          rw [← hdecl]
          exact v.coordinator.declarationAt_of_declarations hsame.declarations v.node
        have hhead : ((m.next (.work s')).next (.arrive i v)).queue.head? = some i := by
          change (m.queue ++ [i]).head? = some i
          rw [hqueue]
          rfl
        exact .cons hspares (.cons harrive
          (acquire_performs (phase_next_of_turn rfl) hhead hdecl'.2.1))

/-- If nobody is in its way, a before-hook that is left alone does what it does in one go. -/
theorem beforeAll_performs (v : Visit t) (hidle : m.phase i = .idle) (hfree : m.Free v.number)
    (hqueue : m.queue = [])
    (hpledged : ∀ decl, v.coordinator.declarationAt m.state v.node = .ok decl → t.Pledged decl)
    (htaken : ∀ binding, (v.coordinator.takeUp v.node m.state).1 = .ok binding →
      binding = ⟨t.handle, .shared⟩ ∧
        t.handle < (v.coordinator.takeUp v.node m.state).2.handles.size) :
    m.Performs (beforeAlone i v m.state) i v (v.coordinator.beforeAll v.node m.state) := by
  unfold beforeAlone
  rw [beforeAll_eq]
  cases hopen : (v.coordinator.ensureOpen v.node m.state).1 with
  | error error => exact .last ⟨hidle, hopen⟩ rfl rfl
  | ok _ =>
      have hopening : (m.next (.ask i v)).phase i = .opening v := phase_next_of_turn rfl
      have hfree' : (m.next (.ask i v)).Free v.number := by
        intro j
        change (Function.update m.phase i (.opening v) j).inside? ≠ some v.number
        rw [Function.update_apply]
        split
        next => exact (Option.some_ne_none _).symm
        next => exact hfree j
      dsimp only
      by_cases hbound : (t.bound? m.state v.number).isSome
      · rw [if_pos hbound, if_pos hbound]
        exact .cons ⟨hidle, hopen⟩ (.last ⟨hopening, hfree', hbound⟩ rfl rfl)
      · rw [if_neg hbound, if_neg hbound]
        have hnone := Option.not_isSome_iff_eq_none.mp hbound
        exact .cons ⟨hidle, hopen⟩ (.cons ⟨hopening, hfree', hnone⟩
          (openClass_performs (phase_next_of_turn rfl) hqueue hpledged htaken))

/-- If nobody waits for the lock of the instance, an after-hook that is left alone does what it does
in one go. -/
theorem afterAll_performs {held : List Nat} (hsound : m.Sound held) (v : Visit t)
    (hidle : m.phase i = .idle) (hqueue : m.queue = []) {decl : Declaration}
    (hdecl : v.coordinator.declarationAt m.state v.node = .ok decl) (hpledged : t.Pledged decl) :
    m.Performs (afterAlone i v decl.migration m.state) i v
      (v.coordinator.afterAll v.node m.state) := by
  unfold afterAlone
  have hclosing : (m.next (.mark i v)).phase i = .closing v := phase_next_of_turn rfl
  cases hbound : t.bound? m.state v.number with
  | none =>
      rw [afterAll_of_unbound hbound, Option.isSome_none, if_neg Bool.false_ne_true]
      exact .cons hidle (.last ⟨hclosing, hbound⟩ rfl rfl)
  | some binding =>
      obtain rfl := hsound.lease v.tenant hbound
      rw [afterAll_of_bound hbound hdecl hpledged, Option.isSome_some, if_pos rfl]
      have hsome : (t.bound? (m.next (.mark i v)).state v.number).isSome :=
        Option.isSome_iff_exists.mpr ⟨_, hbound⟩
      have hunbound : ((m.next (.mark i v)).next (.unbind i v)).phase i = .unbound v :=
        phase_next_of_turn rfl
      have hhead : (((m.next (.mark i v)).next (.unbind i v)).next (.depart i v)).queue.head? =
          some i := by
        change (m.queue ++ [i]).head? = some i
        rw [hqueue]
        rfl
      exact .cons hidle (.cons ⟨hclosing, hsome⟩ (.cons ⟨hunbound, decl, hdecl, hpledged⟩
        (release_performs (phase_next_of_turn rfl) hhead hpledged.2.1)))

end Tenancy

end ScopedResources.Lifecycle
