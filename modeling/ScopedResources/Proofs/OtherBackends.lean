import ScopedResources.Proofs.Confined
import ScopedResources.Proofs.Entering

/-!
# Requests for other backends

A request for one backend leaves alone what is registered and bound for another one. The handles
that were there stay what they are, except that some may be counted for more or fewer classes and
that some may be stopped; of those that are registered none is. -/

namespace ScopedResources.Lifecycle

/-- What is registered and bound for a backend is the same in both states, and a handle that is live
in the second one has been the same all along. -/
structure Aside (name : String) (s s' : State) : Prop where
  size : s.handles.size ≤ s'.handles.size
  bare : ∀ id < s.handles.size, (s'.handle id).stopped = false →
    (s'.handle id).bare = (s.handle id).bare
  registered : ∀ key, Assoc.find? (name, key) s'.registry = Assoc.find? (name, key) s.registry
  bound : ∀ number connectionType,
    Assoc.find? (number, (name, connectionType)) s'.bindings.entries =
      Assoc.find? (number, (name, connectionType)) s.bindings.entries

variable {tree : ScopeTree} {strict : Prop} {name : String} {s s' s'' : State} {node : ScopeNode}
variable {id : HandleId}

namespace Aside

theorem refl (name : String) (s : State) : Aside name s s :=
  ⟨Nat.le_refl _, fun _ _ _ => rfl, fun _ => rfl, fun _ _ => rfl⟩

theorem trans (h : Aside name s s') (h' : Aside name s' s'') : Aside name s s'' where
  size := Nat.le_trans h.size h'.size
  bare id hid hlive := by
    have hlast := h'.bare id (Nat.lt_of_lt_of_le hid h.size) hlive
    have hstopped := congrArg Handle.stopped hlast
    exact hlast.trans (h.bare id hid (Eq.trans hstopped.symm hlive))
  registered key := (h'.registered key).trans (h.registered key)
  bound number connectionType :=
    (h'.bound number connectionType).trans (h.bound number connectionType)

theorem of_handles (hsize : s.handles.size ≤ s'.handles.size)
    (hbare : ∀ id < s.handles.size, (s'.handle id).stopped = false →
      (s'.handle id).bare = (s.handle id).bare)
    (hregistry : s'.registry = s.registry) (hbindings : s'.bindings = s.bindings) :
    Aside name s s' :=
  ⟨hsize, hbare, fun _ => by rw [hregistry], fun _ _ => by rw [hbindings]⟩

end Aside

theorem closeHandle_aside (name : String) (s : State) (id : HandleId) :
    Aside name s (s.closeHandle id) := by
  refine .of_handles (Nat.le_of_eq (s.size_modifyHandle id _).symm) ?_ rfl rfl
  intro other _ hlive
  rw [State.handle_closeHandle] at hlive ⊢
  split at hlive
  next => cases hlive
  next hne => rw [if_neg hne]

namespace Coordinator

variable {c : Coordinator}

/-- Every step of a request for another backend stays aside. -/
theorem aside_respects (hother : c.backend.name ≠ name) : c.Respects (Aside name) where
  refl := .refl name
  trans := .trans
  working hwork :=
    .of_handles (Nat.le_of_eq (by rw [hwork.handles])) (fun id _ _ => by rw [hwork.handle])
      hwork.registry hwork.bindings
  pushed _ s := by
    refine .of_handles (by simp) (fun id hid _ => ?_) rfl rfl
    rw [State.handle_push, if_neg (Nat.ne_of_lt hid)]
  registered s key id := by
    refine ⟨Nat.le_refl _, fun _ _ _ => rfl, fun key' => ?_, fun _ _ => rfl⟩
    refine (Assoc.find?_insert ..).trans (if_neg ?_)
    rintro ⟨⟩
    exact hother rfl
  counted s id change := by
    have hquiet := modifyHolders_quiet s id change
    exact .of_handles (Nat.le_of_eq hquiet.size.symm) (fun id _ _ => hquiet.bare id) rfl rfl
  halted := closeHandle_aside name
  recalled s _ := .of_handles (Nat.le_refl _) (fun _ _ _ => rfl) rfl rfl
  bound s node binding := by
    refine ⟨Nat.le_refl _, fun _ _ _ => rfl, fun _ => rfl, fun number connectionType => ?_⟩
    refine (find?_bind c s number _).trans (if_neg ?_)
    rintro ⟨⟩
    exact hother rfl
  closed s node := by
    refine ⟨Nat.le_refl _, fun _ _ _ => rfl, fun _ => rfl, fun number connectionType => ?_⟩
    refine (find?_close c s number _).trans (if_neg ?_)
    rintro ⟨⟩
    exact hother rfl
  declared s _ _ := .of_handles (Nat.le_refl _) (fun _ _ _ => rfl) rfl rfl
  overridden s _ _ := .of_handles (Nat.le_refl _) (fun _ _ _ => rfl) rfl rfl

end Coordinator

/-! ## Registered handles -/

/-- Only what a node owns is stopped at its end, and no node owns what is registered. -/
theorem Orderly.not_mem_hand (h : Orderly tree strict [] s) {backend : String} {key : ResourceKey}
    (hregistered : Assoc.find? (backend, key) s.registry = some id) (c : Coordinator)
    (node : ScopeNode) : id ∉ (c.binding? s node).elim [] Binding.hand := by
  have hkeep : s.kept? (.registry backend key) = some id := hregistered
  cases hbinding : c.binding? s node with
  | none => exact List.not_mem_nil
  | some binding =>
      obtain ⟨handle, ownership⟩ := binding
      change id ∉ Binding.hand ⟨handle, ownership⟩
      cases ownership with
      | shared => exact List.not_mem_nil
      | borrowed => exact List.not_mem_nil
      | owned =>
          intro hhand
          obtain rfl : id = handle := List.mem_singleton.mp hhand
          cases h.kept.unique hkeep (State.kept?_node_iff.mpr hbinding)

/-- No request stops a registered handle. -/
theorem request_spares (h : Orderly tree strict [] s) (hmem : node ∈ tree) (c : Coordinator)
    (asked : Request) {backend : String} {key : ResourceKey}
    (hregistered : Assoc.find? (backend, key) s.registry = some id) :
    ((asked.perform c node s).handle id).stopped = (s.handle id).stopped := by
  have hkeep : s.kept? (.registry backend key) = some id := hregistered
  have hentering : ∀ {s'}, Entering c node s s' → (s'.handle id).stopped = (s.handle id).stopped :=
    fun hs => hs.alive id (h.kept.known hkeep)
  have hclosing : ∀ {s'},
      Confined ((c.binding? s node).elim [] Binding.hand) (c.close node s).2 s' →
      (s'.handle id).stopped = (s.handle id).stopped :=
    fun hs => hs.stopped (h.not_mem_hand hregistered c node)
  exact Coordinator.request_cases (Q := fun s' => (s'.handle id).stopped = (s.handle id).stopped)
    (fun _ => rfl) (fun _ => rfl) rfl
    (fun _ => hentering (c.beforeAll_entering node s))
    (fun _ => hentering (c.beforeEach_entering hmem s))
    (fun _ => hentering (c.prepare_entering hmem s))
    (fun _ => hclosing (c.closeDown_confined (fun _ _ => c.dropForMethod_confined _ _) node s))
    (fun _ => hclosing (c.closeDown_confined (fun _ _ => c.dropForClass_confined _ _) node s))

end ScopedResources.Lifecycle
