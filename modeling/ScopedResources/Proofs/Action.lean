import ScopedResources.Lifecycle.State

/-!
# Running actions

An action is a function from the state before it to a result and the state after it. The equations
say what the combinators do to that function; `Yields` carries a property of result and final state
through a sequence of actions.
-/

namespace ScopedResources.Lifecycle

variable {ε α β σ : Type}

namespace Action

@[simp] theorem run_pure (a : α) (s : σ) : (pure a : ExceptT ε (StateM σ) α) s = (.ok a, s) := rfl

@[simp] theorem run_throw (e : ε) (s : σ) :
    (throw e : ExceptT ε (StateM σ) α) s = (.error e, s) := rfl

@[simp] theorem run_get (s : σ) : (get : ExceptT ε (StateM σ) σ) s = (.ok s, s) := rfl

@[simp] theorem run_lift (x : StateM σ α) (s : σ) :
    (liftM x : ExceptT ε (StateM σ) α) s = (.ok (x s).1, (x s).2) := rfl

@[simp] theorem run_except (x : Except ε α) (s : σ) :
    (liftM x : ExceptT ε (StateM σ) α) s = (x, s) := rfl

theorem run_bind (x : ExceptT ε (StateM σ) α) (f : α → ExceptT ε (StateM σ) β) (s : σ) :
    (x >>= f) s = match x s with
      | (.ok a, s') => f a s'
      | (.error e, s') => (.error e, s') := by
  change (match x s with | (r, s') => ExceptT.bindCont f r s') = _
  rcases x s with ⟨_ | _, s'⟩ <;> rfl

theorem run_tryCatch (x : ExceptT ε (StateM σ) α) (handler : ε → ExceptT ε (StateM σ) α) (s : σ) :
    (tryCatch x handler : ExceptT ε (StateM σ) α) s = match x s with
      | (.ok a, s') => (.ok a, s')
      | (.error e, s') => handler e s' := by
  change (match x s with
    | (r, s') => (match r with
      | .ok a => pure (.ok a)
      | .error e => handler e : StateM σ (Except ε α)) s') = _
  rcases x s with ⟨_ | _, s'⟩ <;> rfl

theorem step_bind (x : StateM σ α) (f : α → StateM σ β) (s : σ) :
    (x >>= f) s = f (x s).1 (x s).2 := rfl

@[simp] theorem step_get (s : σ) : (get : StateM σ σ) s = (s, s) := rfl

/-- Every run leads to a state that is related to the one before it. -/
def Leaves (rel : σ → σ → Prop) (x : ExceptT ε (StateM σ) α) : Prop :=
  ∀ s, rel s (x s).2

theorem Leaves.bind {rel : σ → σ → Prop} (htrans : ∀ {a b c}, rel a b → rel b c → rel a c)
    {x : ExceptT ε (StateM σ) α} {f : α → ExceptT ε (StateM σ) β} (hx : Leaves rel x)
    (hf : ∀ a, Leaves rel (f a)) : Leaves rel (x >>= f) := by
  intro s
  have hfirst := hx s
  rw [run_bind]
  rcases hrun : x s with ⟨_ | a, s'⟩
  · rwa [hrun] at hfirst
  · rw [hrun] at hfirst
    exact htrans hfirst (hf a s')

theorem Leaves.of_run {rel : σ → σ → Prop} {x : ExceptT ε (StateM σ) α} {r : Except ε α} {s s' : σ}
    (hx : Leaves rel x) (hrun : x s = (r, s')) : rel s s' := by
  have hlast := hx s
  rwa [hrun] at hlast

/-- The result of an action and the state after it satisfy a property. -/
def Yields (x : Action ε α) (s : State) (Q : Except ε α → State → Prop) : Prop :=
  Q (x s).1 (x s).2

variable {x : Action ε α} {f : α → Action ε β} {s : State}
variable {P : Except ε α → State → Prop} {Q : Except ε β → State → Prop}

theorem Yields.of_run {r : Except ε α} {s' : State} (hx : x.Yields s P) (hrun : x s = (r, s')) :
    P r s' := by
  unfold Yields at hx
  rwa [hrun] at hx

theorem Yields.mono {Q' : Except ε α → State → Prop} (hx : x.Yields s P)
    (himp : ∀ r s', P r s' → Q' r s') : x.Yields s Q' :=
  himp _ _ hx

theorem Yields.bind (hx : x.Yields s P) (hok : ∀ a s', P (.ok a) s' → (f a).Yields s' Q)
    (herror : ∀ e s', P (.error e) s' → Q (.error e) s') : (x >>= f).Yields s Q := by
  unfold Yields at *
  rw [run_bind]
  rcases hrun : x s with ⟨_ | a, s'⟩
  · rw [hrun] at hx
    exact herror _ _ hx
  · rw [hrun] at hx
    exact hok _ _ hx

theorem Yields.get_bind {f : State → Action ε β} (h : (f s).Yields s Q) :
    (get >>= f).Yields s Q :=
  h

theorem Yields.lift_bind {x : StateM State α} (h : (f (x s).1).Yields (x s).2 Q) :
    (liftM x >>= f).Yields s Q :=
  h

theorem Yields.except_bind {x : Except ε α} (hok : ∀ a, x = .ok a → (f a).Yields s Q)
    (herror : ∀ e, x = .error e → Q (.error e) s) : (liftM x >>= f).Yields s Q := by
  cases x with
  | ok a => exact hok a rfl
  | error e => exact herror e rfl

theorem Yields.tryCatch {handler : ε → Action ε α} {Q' : Except ε α → State → Prop}
    (hx : x.Yields s P) (hok : ∀ a s', P (.ok a) s' → Q' (.ok a) s')
    (herror : ∀ e s', P (.error e) s' → (handler e).Yields s' Q') :
    (tryCatch x handler : Action ε α).Yields s Q' := by
  unfold Yields at *
  rw [run_tryCatch]
  rcases hrun : x s with ⟨_ | a, s'⟩
  · rw [hrun] at hx
    exact herror _ _ hx
  · rw [hrun] at hx
    exact hok _ _ hx

end Action

end ScopedResources.Lifecycle
