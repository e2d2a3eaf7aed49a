import ScopedResources.Proofs.Orderly
import Mathlib.Data.Option.Basic

/-!
# Two runs side by side

A coordinator works alone in one run and in company in another one. The runs are abreast as long as
all that the coordinator looks after is the same in both, up to the numbers of handles. Steps of the
coordinator keep the runs abreast, are told alike in both journals, and leave alone what others look
after in the run in company. -/

namespace ScopedResources.Lifecycle

/-! ## Renumbering -/

/-- The numbers in company of the handles that a coordinator has alone, one after another. -/
abbrev Renumbering := List HandleId

/-- A handle alone is this handle in company. -/
def Renumbering.Names (own : Renumbering) (id id' : HandleId) : Prop :=
  own[id]? = some id'

/-- The same value in both runs. -/
def Agree {α : Type} (_ : Renumbering) (a a' : α) : Prop :=
  a' = a

/-- The same handle in both runs, owned in the same way. -/
def Binding.Same (own : Renumbering) (binding binding' : Binding) : Prop :=
  own.Names binding.handle binding'.handle ∧ binding'.ownership = binding.ownership

/-- The handle that an event is about. -/
def Event.handle? : Event → Option HandleId
  | .closed id | .sent id _ => some id
  | _ => none

/-- The same event in both runs. -/
inductive Event.Same (own : Renumbering) : Event → Event → Prop
  | plain {event : Event} (hevent : event.handle? = none) : Event.Same own event event
  | closed {id id' : HandleId} (hid : own.Names id id') : Event.Same own (.closed id) (.closed id')
  | sent {id id' : HandleId} (hid : own.Names id id') (statement : String) :
      Event.Same own (.sent id statement) (.sent id' statement)

/-- Results that correspond, or one and the same error. -/
inductive Outcome {ε α : Type} (R : α → α → Prop) : Except ε α → Except ε α → Prop
  | ok {a a' : α} (h : R a a') : Outcome R (.ok a) (.ok a')
  | error (e : ε) : Outcome R (.error e) (.error e)

theorem rel_mono {α : Type} {r r' : α → α → Prop} {a a' : Option α} (h : Option.Rel r a a')
    (himp : ∀ a a', r a a' → r' a a') : Option.Rel r' a a' := by
  cases h with
  | some ha => exact .some (himp _ _ ha)
  | none => exact .none

theorem rel_cases {α : Type} {r : α → α → Prop} {x x' : Option α} (h : Option.Rel r x x') :
    x = none ∧ x' = none ∨ ∃ a a', x = some a ∧ x' = some a' ∧ r a a' := by
  cases h with
  | some ha => exact .inr ⟨_, _, rfl, rfl, ha⟩
  | none => exact .inl ⟨rfl, rfl⟩

variable {own own' own'' : Renumbering} {id id' : HandleId}

namespace Renumbering

theorem Names.lt (h : own.Names id id') : id < own.length :=
  (List.getElem?_eq_some_iff.mp h).1

theorem Names.mem (h : own.Names id id') : id' ∈ own :=
  List.mem_of_getElem? h

theorem Names.mono (h : own.Names id id') (hgrown : own <+: own') : own'.Names id id' := by
  obtain ⟨fresh, rfl⟩ := hgrown
  exact (List.getElem?_append_left h.lt).trans h

theorem Names.inj (hnodup : own.Nodup) {other other' : HandleId} (h : own.Names id id')
    (hother : own.Names other other') : id = other ↔ id' = other' := by
  constructor
  · rintro rfl
    exact Option.some.inj (h.symm.trans hother)
  · rintro rfl
    exact (List.getElem?_inj h.lt hnodup).mp (h.trans hother.symm)

/-- A new handle comes behind those that are there. -/
theorem names_concat_iff {fresh : HandleId} :
    Renumbering.Names (own ++ [fresh]) id id' ↔
      own.Names id id' ∨ id = own.length ∧ id' = fresh := by
  unfold Names
  rcases Nat.lt_trichotomy id own.length with hlt | rfl | hgt
  · rw [List.getElem?_append_left hlt, or_iff_left fun h => Nat.ne_of_lt hlt h.1]
  · rw [List.getElem?_concat_length, List.getElem?_eq_none (Nat.le_refl _)]
    simp [eq_comm]
  · have hlen : (own ++ [fresh]).length ≤ id := by
      rw [List.length_append]
      exact hgt
    rw [List.getElem?_eq_none hlen, List.getElem?_eq_none (Nat.le_of_lt hgt)]
    simp [Nat.ne_of_gt hgt]

end Renumbering

theorem Binding.Same.mono {binding binding' : Binding} (h : binding.Same own binding')
    (hgrown : own <+: own') : binding.Same own' binding' :=
  ⟨h.1.mono hgrown, h.2⟩

theorem Event.Same.mono {event event' : Event} (h : event.Same own event') (hgrown : own <+: own') :
    event.Same own' event' := by
  cases h with
  | plain hevent => exact .plain hevent
  | closed hid => exact .closed (hid.mono hgrown)
  | sent hid statement => exact .sent (hid.mono hgrown) statement

/-! ## States -/

/-- All that the coordinator looks after is the same in both states, up to the numbers of handles.
-/
structure Abreast (c : Coordinator) (own : Renumbering) (s t : State) : Prop where
  environment : t.environment = s.environment
  files : t.files = s.files
  server : t.server c.backend.server = s.server c.backend.server
  size : s.handles.size = own.length
  nodup : own.Nodup
  below : ∀ id ∈ own, id < t.handles.size
  handle : ∀ {id id'}, own.Names id id' → t.handle id' = s.handle id
  home : ∀ {id}, id < own.length → (s.handle id).server = c.backend.server
  registry : ∀ key, Option.Rel own.Names (Assoc.find? (c.backend.name, key) s.registry)
    (Assoc.find? (c.backend.name, key) t.registry)
  declarations : ∀ number, Assoc.find? (number, c.backend.name) t.declarations.entries =
    Assoc.find? (number, c.backend.name) s.declarations.entries
  overrides : ∀ number, Assoc.find? (number, c.backend.name) t.overrides.entries =
    Assoc.find? (number, c.backend.name) s.overrides.entries
  bindings : ∀ number, Option.Rel (Binding.Same own)
    (Assoc.find? (number, c.bindingKey) s.bindings.entries)
    (Assoc.find? (number, c.bindingKey) t.bindings.entries)
  finished : ∀ number, Assoc.find? (number, c.backend.name) t.finished.entries =
    Assoc.find? (number, c.backend.name) s.finished.entries
  warnedKeys : ∀ key, (c.name, key) ∈ t.warnedKeys ↔ (c.name, key) ∈ s.warnedKeys

/-- What the coordinator does not look after is the same in both states. -/
structure Apart (c : Coordinator) (own : Renumbering) (t t' : State) : Prop where
  environment : t'.environment = t.environment
  files : t'.files = t.files
  server : ∀ name ≠ c.backend.server, t'.server name = t.server name
  size : t.handles.size ≤ t'.handles.size
  handle : ∀ id < t.handles.size, id ∉ own → t'.handle id = t.handle id
  registry : ∀ name ≠ c.backend.name, ∀ key,
    Assoc.find? (name, key) t'.registry = Assoc.find? (name, key) t.registry
  declarations : ∀ name ≠ c.backend.name, ∀ number,
    Assoc.find? (number, name) t'.declarations.entries =
      Assoc.find? (number, name) t.declarations.entries
  overrides : ∀ name ≠ c.backend.name, ∀ number,
    Assoc.find? (number, name) t'.overrides.entries = Assoc.find? (number, name) t.overrides.entries
  bindings : ∀ name ≠ c.backend.name, ∀ number connectionType,
    Assoc.find? (number, (name, connectionType)) t'.bindings.entries =
      Assoc.find? (number, (name, connectionType)) t.bindings.entries
  finished : ∀ name ≠ c.backend.name, ∀ number,
    Assoc.find? (number, name) t'.finished.entries = Assoc.find? (number, name) t.finished.entries
  warnedKeys : ∀ name ≠ c.name, ∀ key, (name, key) ∈ t'.warnedKeys ↔ (name, key) ∈ t.warnedKeys

/-- The events that were added to the two journals are the same. -/
def Told (own : Renumbering) (s s' t t' : State) : Prop :=
  ∃ told told', s'.journal = s.journal ++ told ∧ t'.journal = t.journal ++ told' ∧
    List.Forall₂ (Event.Same own) told told'

/-- Two runs that were abreast have come to where they are abreast again. -/
structure Paced (c : Coordinator) (own : Renumbering) (s t : State) (own' : Renumbering)
    (s' t' : State) : Prop where
  abreast : Abreast c own' s' t'
  grown : ∃ fresh, own' = own ++ fresh ∧ ∀ id ∈ fresh, t.handles.size ≤ id
  apart : Apart c own' t t'
  told : Told own' s s' t t'

variable {c d : Coordinator} {s s' s'' t t' t'' : State}

namespace Apart

theorem refl (c : Coordinator) (own : Renumbering) (t : State) : Apart c own t t where
  environment := rfl
  files := rfl
  server _ _ := rfl
  size := Nat.le_refl _
  handle _ _ _ := rfl
  registry _ _ _ := rfl
  declarations _ _ _ := rfl
  overrides _ _ _ := rfl
  bindings _ _ _ _ := rfl
  finished _ _ _ := rfl
  warnedKeys _ _ _ := Iff.rfl

theorem trans (h : Apart c own t t') (h' : Apart c own' t' t'') (hgrown : own <+: own') :
    Apart c own' t t'' where
  environment := h'.environment.trans h.environment
  files := h'.files.trans h.files
  server name hname := (h'.server name hname).trans (h.server name hname)
  size := Nat.le_trans h.size h'.size
  handle id hid hnot := (h'.handle id (Nat.lt_of_lt_of_le hid h.size) hnot).trans
    (h.handle id hid fun hmem => hnot (hgrown.subset hmem))
  registry name hname key := (h'.registry name hname key).trans (h.registry name hname key)
  declarations name hname number :=
    (h'.declarations name hname number).trans (h.declarations name hname number)
  overrides name hname number :=
    (h'.overrides name hname number).trans (h.overrides name hname number)
  bindings name hname number connectionType :=
    (h'.bindings name hname number connectionType).trans
      (h.bindings name hname number connectionType)
  finished name hname number := (h'.finished name hname number).trans (h.finished name hname number)
  warnedKeys name hname key := (h'.warnedKeys name hname key).trans (h.warnedKeys name hname key)

end Apart

namespace Told

theorem of_journal (hs : s'.journal = s.journal) (ht : t'.journal = t.journal) :
    Told own s s' t t' :=
  ⟨[], [], by rw [hs, List.append_nil], by rw [ht, List.append_nil], .nil⟩

theorem trans (h : Told own s s' t t') (h' : Told own' s' s'' t' t'') (hgrown : own <+: own') :
    Told own' s s'' t t'' := by
  obtain ⟨told, told', hs, ht, hsame⟩ := h
  obtain ⟨more, more', hs', ht', hmore⟩ := h'
  refine ⟨told ++ more, told' ++ more', ?_, ?_, ?_⟩
  · rw [hs', hs, List.append_assoc]
  · rw [ht', ht, List.append_assoc]
  · exact List.rel_append (hsame.imp fun _ _ he => he.mono hgrown) hmore

end Told

namespace Paced

theorem refl (h : Abreast c own s t) : Paced c own s t own s t :=
  ⟨h, ⟨[], (List.append_nil own).symm, fun _ hid => absurd hid List.not_mem_nil⟩, .refl c own t,
    .of_journal rfl rfl⟩

theorem isPrefix (h : Paced c own s t own' s' t') : own <+: own' := by
  obtain ⟨fresh, rfl, -⟩ := h.grown
  exact List.prefix_append own fresh

theorem trans (h : Paced c own s t own' s' t') (h' : Paced c own' s' t' own'' s'' t'') :
    Paced c own s t own'' s'' t'' := by
  refine ⟨h'.abreast, ?_, h.apart.trans h'.apart h'.isPrefix, h.told.trans h'.told h'.isPrefix⟩
  obtain ⟨fresh, rfl, hfresh⟩ := h.grown
  obtain ⟨more, rfl, hmore⟩ := h'.grown
  refine ⟨fresh ++ more, List.append_assoc .., fun id hid => ?_⟩
  rcases List.mem_append.mp hid with hid | hid
  · exact hfresh id hid
  · exact Nat.le_trans h.apart.size (hmore id hid)

/-- A step that makes no handle and tells nothing. -/
theorem of_abreast (h : Abreast c own s' t') (hapart : Apart c own t t')
    (hs : s'.journal = s.journal) (ht : t'.journal = t.journal) : Paced c own s t own s' t' :=
  ⟨h, ⟨[], (List.append_nil own).symm, fun _ hid => absurd hid List.not_mem_nil⟩, hapart,
    .of_journal hs ht⟩

end Paced

/-! ## Doing the same in both runs -/

/-- What is done alone and in company keeps the runs abreast, and its results correspond. -/
def Follows {α : Type} (c : Coordinator) (own : Renumbering) (s t : State) (x y : State → α × State)
    (R : Renumbering → α → α → Prop) : Prop :=
  ∃ own', Paced c own s t own' (x s).2 (y t).2 ∧ R own' (x s).1 (y t).1

/-- The same for what may fail. -/
def Tracks {ε α : Type} (c : Coordinator) (own : Renumbering) (s t : State) (x y : Action ε α)
    (R : Renumbering → α → α → Prop) : Prop :=
  Follows c own s t x y fun own' => Outcome (R own')

variable {α β ε : Type} {R : Renumbering → α → α → Prop} {Q : Renumbering → β → β → Prop}

theorem Follows.of_same {x y : State → α × State} {s' t' : State} {a a' : α}
    (hpaced : Paced c own s t own' s' t') (ha : R own' a a') (hx : x s = (a, s'))
    (hy : y t = (a', t')) : Follows c own s t x y R := by
  refine ⟨own', ?_⟩
  rw [hx, hy]
  exact ⟨hpaced, ha⟩

theorem Follows.pure {a a' : α} (h : Abreast c own s t) (ha : R own a a') :
    Follows c own s t (pure a : StateM State α) (pure a' : StateM State α) R :=
  ⟨own, .refl h, ha⟩

theorem Follows.bind {x y : StateM State α} {f g : α → StateM State β}
    (hx : Follows c own s t x y R)
    (hf : ∀ {own' s' t' a a'}, own <+: own' → Abreast c own' s' t' → R own' a a' →
      Follows c own' s' t' (f a) (g a') Q) : Follows c own s t (x >>= f) (y >>= g) Q := by
  obtain ⟨own', hpaced, ha⟩ := hx
  obtain ⟨own'', hpaced', hb⟩ := hf hpaced.isPrefix hpaced.abreast ha
  exact ⟨own'', hpaced.trans hpaced', hb⟩

theorem Follows.get_bind {f g : State → StateM State β} (h : Follows c own s t (f s) (g t) Q) :
    Follows c own s t (get >>= f : StateM State β) (get >>= g : StateM State β) Q :=
  h

namespace Tracks

theorem pure {a a' : α} (h : Abreast c own s t) (ha : R own a a') :
    Tracks c own s t (pure a : Action ε α) (pure a') R :=
  ⟨own, .refl h, .ok ha⟩

theorem throw (h : Abreast c own s t) (e : ε) :
    Tracks c own s t (throw e : Action ε α) (throw e) R :=
  ⟨own, .refl h, .error e⟩

theorem bind {x y : Action ε α} {f g : α → Action ε β} (hx : Tracks c own s t x y R)
    (hf : ∀ {own' s' t' a a'}, own <+: own' → Abreast c own' s' t' → R own' a a' →
      Tracks c own' s' t' (f a) (g a') Q) : Tracks c own s t (x >>= f) (y >>= g) Q := by
  obtain ⟨own', hpaced, hr⟩ := hx
  unfold Tracks Follows
  rw [Action.run_bind, Action.run_bind]
  generalize x s = p at *
  generalize y t = q at *
  obtain ⟨r, s'⟩ := p
  obtain ⟨r', t'⟩ := q
  cases hr with
  | ok ha =>
      obtain ⟨own'', hpaced', hb⟩ := hf hpaced.isPrefix hpaced.abreast ha
      exact ⟨own'', hpaced.trans hpaced', hb⟩
  | error e => exact ⟨own', hpaced, .error e⟩

theorem get_bind {f g : State → Action ε β} (h : Tracks c own s t (f s) (g t) Q) :
    Tracks c own s t (get >>= f) (get >>= g) Q :=
  h

theorem lift {x y : StateM State α} (h : Follows c own s t x y R) :
    Tracks c own s t (liftM x : Action ε α) (liftM y) R := by
  obtain ⟨own', hpaced, ha⟩ := h
  exact ⟨own', hpaced, .ok ha⟩

/-- What only reads the state gives the same in both. -/
theorem except_bind {x y : Except ε α} {f g : α → Action ε β} (h : Abreast c own s t) (hxy : y = x)
    (hf : ∀ a, x = .ok a → Tracks c own s t (f a) (g a) Q) :
    Tracks c own s t (liftM x >>= f) (liftM y >>= g) Q := by
  subst hxy
  cases y with
  | ok a => exact hf a rfl
  | error e => exact throw h e

theorem tryCatch {x y : Action ε α} {f g : ε → Action ε α} (hx : Tracks c own s t x y R)
    (hf : ∀ {own' s' t'} e, own <+: own' → Abreast c own' s' t' →
      Tracks c own' s' t' (f e) (g e) R) :
    Tracks c own s t (tryCatch x f) (tryCatch y g) R := by
  obtain ⟨own', hpaced, hr⟩ := hx
  unfold Tracks Follows
  rw [Action.run_tryCatch, Action.run_tryCatch]
  generalize x s = p at *
  generalize y t = q at *
  obtain ⟨r, s'⟩ := p
  obtain ⟨r', t'⟩ := q
  cases hr with
  | ok ha => exact ⟨own', hpaced, .ok ha⟩
  | error e =>
      obtain ⟨own'', hpaced', hb⟩ := hf e hpaced.isPrefix hpaced.abreast
      exact ⟨own'', hpaced.trans hpaced', hb⟩

theorem adapt {ε' : Type} {x y : Action ε α} (f : ε → ε') (hx : Tracks c own s t x y R) :
    Tracks c own s t (ExceptT.adapt f x) (ExceptT.adapt f y) R := by
  obtain ⟨own', hpaced, hr⟩ := hx
  refine ⟨own', hpaced, ?_⟩
  change Outcome (R own') ((x s).1.mapError f) ((y t).1.mapError f)
  generalize x s = p at *
  generalize y t = q at *
  obtain ⟨r, s'⟩ := p
  obtain ⟨r', t'⟩ := q
  cases hr with
  | ok ha => exact .ok ha
  | error e => exact .error (f e)

end Tracks

/-! ## Single steps -/

theorem Outcome.same (r : Except ε α) : Outcome (Agree own) r r := by
  cases r with
  | ok a => exact .ok rfl
  | error e => exact .error e

theorem note_follows (h : Abreast c own s t) {event event' : Event}
    (hevent : event.Same own event') : Follows c own s t (note event) (note event') Agree :=
  ⟨own, ⟨{ h with }, ⟨[], (List.append_nil own).symm, fun _ hid => absurd hid List.not_mem_nil⟩,
    { Apart.refl c own t with }, [event], [event'], rfl, rfl, .cons hevent .nil⟩, rfl⟩

theorem setServer_paced (h : Abreast c own s t) (server : Memory.Server) :
    Paced c own s t own (s.setServer c.backend.server server)
      (t.setServer c.backend.server server) := by
  refine .of_abreast { h with server := ?_ } { Apart.refl c own t with server := ?_ } rfl rfl
  · rw [State.server_setServer, State.server_setServer, if_pos rfl, if_pos rfl]
  · intro name hname
    rw [State.server_setServer, if_neg hname.symm]

theorem onServer_tracks (h : Abreast c own s t) (task : Memory.Task α) :
    Tracks c own s t (onServer c.backend.server task) (onServer c.backend.server task) Agree := by
  rcases hrun : task (s.server c.backend.server) with ⟨r, server⟩
  refine Follows.of_same (setServer_paced h server) (.same r) ?_ ?_
  · unfold onServer
    rw [hrun]
  · unfold onServer
    rw [h.server, hrun]

theorem addHandle_follows (h : Abreast c own s t) {handle : Handle}
    (hhome : handle.server = c.backend.server) :
    Follows c own s t (addHandle handle) (addHandle handle) Renumbering.Names := by
  have hnew : t.handles.size ∉ own := fun hmem => Nat.lt_irrefl _ (h.below _ hmem)
  have hgrown : own <+: own ++ [t.handles.size] := List.prefix_append ..
  have hlast : (own ++ [t.handles.size]).Names s.handles.size t.handles.size :=
    Renumbering.names_concat_iff.mpr (.inr ⟨h.size, rfl⟩)
  refine ⟨own ++ [t.handles.size],
    ⟨?_, ⟨[t.handles.size], rfl, ?_⟩, ?_, .of_journal rfl rfl⟩, hlast⟩
  · refine { h with
      size := ?_, nodup := ?_, below := ?_, handle := ?_, home := ?_, registry := ?_,
      bindings := ?_ }
    · exact (Array.size_push handle).trans (by rw [h.size, List.length_append,
        List.length_singleton])
    · exact List.nodup_append.mpr ⟨h.nodup, List.nodup_singleton _, fun a ha b hb heq =>
        hnew (List.mem_singleton.mp hb ▸ heq ▸ ha)⟩
    · intro id hid
      refine Nat.lt_of_lt_of_eq ?_ (Array.size_push handle).symm
      rcases List.mem_append.mp hid with hid | hid
      · exact Nat.lt_succ_of_lt (h.below id hid)
      · rw [List.mem_singleton.mp hid]
        exact Nat.lt_succ_self _
    · intro id id' hid
      refine (State.handle_push t handle id').trans
        (Eq.trans ?_ (State.handle_push s handle id).symm)
      rcases Renumbering.names_concat_iff.mp hid with hold | ⟨rfl, rfl⟩
      · rw [if_neg (Nat.ne_of_lt (h.below id' hold.mem)), if_neg (Nat.ne_of_lt (h.size ▸ hold.lt)),
          h.handle hold]
      · rw [if_pos rfl, if_pos h.size.symm]
    · intro id hid
      refine (congrArg Handle.server (State.handle_push s handle id)).trans ?_
      split
      · exact hhome
      · rename_i hne
        refine h.home ?_
        rw [List.length_append, List.length_singleton] at hid
        rw [h.size] at hne
        exact Nat.lt_of_le_of_ne (Nat.le_of_lt_succ hid) hne
    · exact fun key => rel_mono (h.registry key) fun _ _ hid => hid.mono hgrown
    · exact fun number => rel_mono (h.bindings number) fun _ _ hbinding => hbinding.mono hgrown
  · intro id hid
    exact Nat.le_of_eq (List.mem_singleton.mp hid).symm
  · refine { Apart.refl c (own ++ [t.handles.size]) t with size := ?_, handle := ?_ }
    · exact Nat.le_of_lt (Nat.lt_of_lt_of_eq (Nat.lt_succ_self _) (Array.size_push handle).symm)
    · intro id hid _
      exact (State.handle_push t handle id).trans (if_neg (Nat.ne_of_lt hid))

theorem modifyHandle_paced (h : Abreast c own s t) (hid : own.Names id id')
    {change : Handle → Handle} (hserver : ∀ handle, (change handle).server = handle.server) :
    Paced c own s t own (s.modifyHandle id change) (t.modifyHandle id' change) := by
  have hsize : (t.modifyHandle id' change).handles.size = t.handles.size :=
    t.size_modifyHandle id' change
  refine .of_abreast { h with size := ?_, below := ?_, handle := ?_, home := ?_ }
    { Apart.refl c own t with size := ?_, handle := ?_ } rfl rfl
  · exact (s.size_modifyHandle id change).trans h.size
  · exact fun other hother => Nat.lt_of_lt_of_eq (h.below other hother) hsize.symm
  · intro other other' hother
    rw [State.handle_modifyHandle, State.handle_modifyHandle, h.handle hother]
    -- both changes meet the same handle, or both miss it
    have hiff : id' = other' ∧ other' < t.handles.size ↔ id = other ∧ other < s.handles.size := by
      rw [hid.inj h.nodup hother, h.size]
      exact and_congr_right fun _ => ⟨fun _ => hother.lt, fun _ => h.below other' hother.mem⟩
    simp only [hiff]
  · intro other hother
    rw [State.handle_modifyHandle]
    split
    · rw [hserver, h.home hother]
    · exact h.home hother
  · exact Nat.le_of_eq hsize.symm
  · intro other _ hnot
    rw [State.handle_modifyHandle, if_neg]
    rintro ⟨rfl, -⟩
    exact hnot hid.mem

theorem register_paced (h : Abreast c own s t) (hid : own.Names id id') (key : ResourceKey) :
    Paced c own s t own (s.register c.backend.name key id) (t.register c.backend.name key id') := by
  refine .of_abreast { h with registry := fun other => ?_ }
    { Apart.refl c own t with registry := fun name hname other => ?_ } rfl rfl
  · unfold State.register
    rw [Assoc.find?_insert, Assoc.find?_insert]
    split
    · exact .some hid
    · exact h.registry other
  · unfold State.register
    rw [Assoc.find?_insert, if_neg]
    rintro ⟨rfl, -⟩
    exact hname rfl

theorem recall_paced (h : Abreast c own s t) (key : ResourceKey) :
    Paced c own s t own { s with warnedKeys := (c.name, key) :: s.warnedKeys }
      { t with warnedKeys := (c.name, key) :: t.warnedKeys } := by
  refine .of_abreast { h with warnedKeys := fun other => ?_ }
    { Apart.refl c own t with warnedKeys := fun name hname other => ?_ } rfl rfl
  · rw [List.mem_cons, List.mem_cons, h.warnedKeys]
  · rw [List.mem_cons, or_iff_right]
    rintro ⟨rfl, -⟩
    exact hname rfl

theorem modifyHandle_follows (h : Abreast c own s t) (hid : own.Names id id')
    {change : Handle → Handle} (hserver : ∀ handle, (change handle).server = handle.server) :
    Follows c own s t (modify (·.modifyHandle id change) : StateM State Unit)
      (modify (·.modifyHandle id' change) : StateM State Unit) Agree :=
  ⟨own, modifyHandle_paced h hid hserver, rfl⟩

/-! ## Nodes -/

section Nodes

variable {κ : Type} [DecidableEq κ]

theorem find?_put (store : Store κ α) (node : ScopeNode) (key key' : κ) (value : α) (number : Nat) :
    Assoc.find? (number, key') (store.put node key value).entries =
      if (node.number, key) = (number, key') then some value
      else Assoc.find? (number, key') store.entries :=
  Assoc.find?_insert ..

theorem find?_put_of_ne (store : Store κ α) (node : ScopeNode) {key key' : κ} (hne : key' ≠ key)
    (value : α) (number : Nat) : Assoc.find? (number, key') (store.put node key value).entries =
      Assoc.find? (number, key') store.entries := by
  rw [find?_put, if_neg]
  rintro ⟨⟩
  exact hne rfl

/-- What is put on the same node of two stores is seen in both. -/
theorem find?_put_congr {store store' : Store κ α} {key : κ}
    (h : ∀ number, Assoc.find? (number, key) store'.entries =
      Assoc.find? (number, key) store.entries)
    (node : ScopeNode) (value : α) (number : Nat) :
    Assoc.find? (number, key) (store'.put node key value).entries =
      Assoc.find? (number, key) (store.put node key value).entries := by
  rw [find?_put, find?_put, h]

/-- A node sees the same as long as all nodes hold the same. -/
theorem find?_congr {store store' : Store κ α} {key : κ}
    (h : ∀ number, Assoc.find? (number, key) store'.entries =
      Assoc.find? (number, key) store.entries)
    (node : ScopeNode) : store'.find? node key = store.find? node key := by
  unfold Store.find? Store.get?
  simp only [h]

end Nodes

namespace Coordinator

theorem bindingKey_ne {name connectionType : String} (hname : name ≠ c.backend.name) :
    (name, connectionType) ≠ c.bindingKey := by
  rintro ⟨⟩
  exact hname rfl

theorem bind_follows (h : Abreast c own s t) {binding binding' : Binding}
    (hbinding : binding.Same own binding') (node : ScopeNode) :
    Follows c own s t (c.bind node binding) (c.bind node binding') Agree := by
  refine ⟨own, .of_abreast { h with bindings := fun number => ?_ }
    { Apart.refl c own t with bindings := fun name hname number connectionType => ?_ } rfl rfl, rfl⟩
  · refine (find?_bind c s number _) ▸ (find?_bind c t number _) ▸ ?_
    split
    · exact .some hbinding
    · exact h.bindings number
  · exact find?_put_of_ne t.bindings node (bindingKey_ne hname) binding' number

theorem close_follows (h : Abreast c own s t) (node : ScopeNode) :
    Follows c own s t (c.close node) (c.close node) fun own' => Option.Rel (Binding.Same own') := by
  refine ⟨own, .of_abreast { h with bindings := fun number => ?_, finished := ?_ }
    { Apart.refl c own t with
      bindings := fun name hname number connectionType => ?_, finished := ?_ }
    rfl rfl, h.bindings node.number⟩
  · refine (find?_close c s number _) ▸ (find?_close c t number _) ▸ ?_
    split
    · exact .none
    · exact h.bindings number
  · exact find?_put_congr h.finished node ()
  · refine (find?_close c t number _).trans (if_neg ?_)
    rintro ⟨⟩
    exact hname rfl
  · exact fun name hname => find?_put_of_ne t.finished node hname ()

theorem declare_follows (h : Abreast c own s t) (node : ScopeNode) (decl : Declaration) :
    Follows c own s t (c.declare node decl) (c.declare node decl) Agree :=
  ⟨own, .of_abreast { h with declarations := find?_put_congr h.declarations node decl }
    { Apart.refl c own t with
      declarations := fun _ hname => find?_put_of_ne t.declarations node hname decl } rfl rfl, rfl⟩

theorem overrideContainer_follows (h : Abreast c own s t) (node : ScopeNode)
    (override : ContainerOverride) :
    Follows c own s t (c.overrideContainer node override)
      (c.overrideContainer node override) Agree :=
  ⟨own, .of_abreast { h with overrides := find?_put_congr h.overrides node override }
    { Apart.refl c own t with
      overrides := fun _ hname => find?_put_of_ne t.overrides node hname override } rfl rfl, rfl⟩

end Coordinator

end ScopedResources.Lifecycle
