import ScopedResources.Proofs.Instance
import ScopedResources.Proofs.Trace

/-!
# Sharing under concurrency

Any number of calls ask the registry for shared handles at the same time. A call looks for a live
handle at once, waits for the lock of its key if there is none, looks again when it has the lock,
and only then runs its factory, which makes a handle of the type that is asked for, and publishes
it. The moves of all calls interleave in any order. Between them factories, tests and servers change
the state as they like, as long as nothing but a call publishes, no handle comes back to life and
none changes its type. -/

namespace ScopedResources.Lifecycle

open Trace

/-- What a handle is asked for by: a backend, a key and a type of connections. -/
structure SharedRequest where
  backend : String
  key : ResourceKey
  connectionType : String

namespace SharedRequest

/-- The place in the registry that a request is about. -/
def slot (r : SharedRequest) : String × ResourceKey :=
  (r.backend, r.key)

/-- What a request is answered with a handle that was there already. -/
def found (r : SharedRequest) (s : State) (id : HandleId) :
    Except LifecycleError (HandleId × Bool) :=
  (ofType r.backend r.connectionType id s).1.map fun id => (id, false)

end SharedRequest

/-- A handle is there, and has the type of connections that a request is about. -/
def State.Fits (s : State) (r : SharedRequest) (id : HandleId) : Prop :=
  id < s.handles.size ∧ (s.handle id).connectionType = r.connectionType

/-- The live handle in a place of the registry. -/
def State.liveAt (s : State) (slot : String × ResourceKey) : Option HandleId :=
  s.live? slot.1 slot.2

/-- How far a call has come. -/
inductive Phase where
  | idle
  | asked (r : SharedRequest)
  | waiting (r : SharedRequest)
  | checking (r : SharedRequest)
  | making (r : SharedRequest)
  | made (r : SharedRequest) (id : HandleId)
  | published (r : SharedRequest) (id : HandleId)
  | returned (r : SharedRequest) (answer : Except LifecycleError (HandleId × Bool))
  /-- The call only looked for a handle. -/
  | looked (r : SharedRequest) (answer : Except LifecycleError (Option HandleId))

/-- A call in this phase has the lock of a place. -/
def Phase.Holds (slot : String × ResourceKey) : Phase → Prop
  | checking r => r.slot = slot
  | making r => r.slot = slot
  | made r _ => r.slot = slot
  | published r _ => r.slot = slot
  | _ => False

/-- The factory of a call runs for a place, or its handle is not published yet. -/
def Phase.Creates (slot : String × ResourceKey) : Phase → Prop
  | making r => r.slot = slot
  | made r _ => r.slot = slot
  | _ => False

theorem holds_of_creates {slot : String × ResourceKey} {phase : Phase} (h : phase.Creates slot) :
    phase.Holds slot := by
  cases phase with
  | making r => exact h
  | made r id => exact h
  | idle | asked _ | waiting _ | checking _ | published _ _ | returned _ _ | looked _ _ =>
      exact h.elim

/-- The state that calls share, and the phase of every call. -/
structure Sharing where
  state : State
  phase : Nat → Phase := fun _ => .idle

/-- A step of one call, or of something else that changes the state. -/
inductive Move where
  | ask (i : Nat) (r : SharedRequest)
  /-- The first check finds a live handle. -/
  | hit (i : Nat) (r : SharedRequest) (id : HandleId)
  | miss (i : Nat) (r : SharedRequest)
  | lock (i : Nat) (r : SharedRequest)
  /-- The check under the lock finds a live handle. -/
  | find (i : Nat) (r : SharedRequest) (id : HandleId)
  /-- The factory of a call starts. -/
  | start (i : Nat) (r : SharedRequest)
  | fail (i : Nat) (r : SharedRequest) (error : LifecycleError)
  /-- The factory of a call ends with a handle, which is of the type that the call asks for. -/
  | make (i : Nat) (r : SharedRequest) (id : HandleId)
  | publish (i : Nat) (r : SharedRequest) (id : HandleId)
  | leave (i : Nat) (r : SharedRequest) (id : HandleId)
  | look (i : Nat) (r : SharedRequest)
  | stop (id : HandleId)
  /-- A factory or anything else does some work. -/
  | work (s : State)

/-- Work publishes nothing, no handle comes back to life, and handles that are there stay there with
the type of their connections. -/
structure Harmless (s s' : State) : Prop where
  size : s.handles.size ≤ s'.handles.size
  connectionType : ∀ {id}, id < s.handles.size →
    (s'.handle id).connectionType = (s.handle id).connectionType
  stopped : ∀ id, (s.handle id).stopped = true → (s'.handle id).stopped = true
  registry : s'.registry = s.registry

namespace Move

/-- What must hold for a move to be made. -/
def Enabled (m : Sharing) : Move → Prop
  | ask i _ => m.phase i = .idle
  | hit i r id => m.phase i = .asked r ∧ m.state.liveAt r.slot = some id
  | miss i r => m.phase i = .asked r ∧ m.state.liveAt r.slot = none
  | lock i r => m.phase i = .waiting r ∧ ∀ j, ¬ (m.phase j).Holds r.slot
  | find i r id => m.phase i = .checking r ∧ m.state.liveAt r.slot = some id
  | start i r => m.phase i = .checking r ∧ m.state.liveAt r.slot = none
  | fail i r _ => m.phase i = .making r
  | make i r id => m.phase i = .making r ∧ m.state.Fits r id
  | publish i r id => m.phase i = .made r id
  | leave i r id => m.phase i = .published r id
  | look i _ => m.phase i = .idle
  | stop id => id < m.state.handles.size
  | work s => Harmless m.state s

/-- The call that makes a move, and the phase that it comes to. -/
def turn (s : State) : Move → Option (Nat × Phase)
  | ask i r => some (i, .asked r)
  | hit i r id => some (i, .returned r (r.found s id))
  | miss i r => some (i, .waiting r)
  | lock i r => some (i, .checking r)
  | find i r id => some (i, .returned r (r.found s id))
  | start i r => some (i, .making r)
  | fail i r error => some (i, .returned r (.error error))
  | make i r id => some (i, .made r id)
  | publish i r id => some (i, .published r id)
  | leave i r id => some (i, .returned r (.ok (id, true)))
  | look i r => some (i, .looked r (getShared r.backend r.connectionType r.key s).1)
  | stop _ => none
  | work _ => none

/-- The state after a move. -/
def effect (s : State) : Move → State
  | publish _ r id => { s with registry := Assoc.insert r.slot id s.registry }
  | stop id => (stopHandle id s).2
  | work s' => s'
  | _ => s

end Move

namespace Sharing

/-- What a move leads to. -/
def next (m : Sharing) (move : Move) : Sharing where
  state := move.effect m.state
  phase := taken m.phase (move.turn m.state)

/-- Every move could be made when its turn came. -/
abbrev Legal (m : Sharing) (moves : List Move) : Prop :=
  Trace.Legal Move.Enabled next m moves

variable {m : Sharing} {moves : List Move} {move : Move}

/-! ## One move -/

theorem phase_next_cases (m : Sharing) (move : Move) (i : Nat) :
    (m.next move).phase i = m.phase i ∨
      move.turn m.state = some (i, (m.next move).phase i) :=
  taken_cases ..

theorem phase_next_of_turn {i : Nat} {phase : Phase} (h : move.turn m.state = some (i, phase)) :
    (m.next move).phase i = phase :=
  taken_of_eq_some h

theorem phase_next_of_ne {i : Nat} (h : ∀ phase, move.turn m.state ≠ some (i, phase)) :
    (m.next move).phase i = m.phase i :=
  (phase_next_cases m move i).resolve_right (h _)

/-- Whoever has the lock of a place had it before, or took it when nobody had it. -/
theorem holds_next {slot : String × ResourceKey} {i : Nat} (henabled : move.Enabled m)
    (h : ((m.next move).phase i).Holds slot) :
    (m.phase i).Holds slot ∨
      ∃ r, move = .lock i r ∧ r.slot = slot ∧ ∀ j, ¬ (m.phase j).Holds slot := by
  rcases phase_next_cases m move i with hsame | hturn
  · exact .inl (hsame ▸ h)
  · generalize (m.next move).phase i = phase at h hturn
    cases move with
    | lock j r =>
        cases hturn
        have hslot : r.slot = slot := h
        subst hslot
        exact .inr ⟨r, rfl, rfl, henabled.2⟩
    | start j r =>
        cases hturn
        refine .inl ?_
        rw [henabled.1]
        exact h
    | make j r id =>
        cases hturn
        refine .inl ?_
        rw [henabled.1]
        exact h
    | publish j r id =>
        cases hturn
        refine .inl ?_
        rw [show m.phase i = .made r id from henabled]
        exact h
    | ask | hit | miss | find | fail | leave | look =>
        cases hturn
        exact h.elim
    | stop | work => cases hturn

/-- At most one call has the lock of a place. -/
def Exclusive (m : Sharing) : Prop :=
  ∀ ⦃slot i j⦄, (m.phase i).Holds slot → (m.phase j).Holds slot → i = j

theorem Exclusive.step (h : m.Exclusive) (henabled : move.Enabled m) :
    (m.next move).Exclusive := by
  intro slot i j hi hj
  rcases holds_next henabled hi with hbefore | ⟨r, hlock, -, hfree⟩
  · rcases holds_next henabled hj with hbefore' | ⟨r, -, -, hfree⟩
    · exact h hbefore hbefore'
    · exact absurd hbefore (hfree i)
  · rcases holds_next henabled hj with hbefore' | ⟨r', hlock', -, -⟩
    · exact absurd hbefore' (hfree j)
    · cases hlock.symm.trans hlock'
      rfl

theorem liveAt_eq_some_iff {s : State} {slot : String × ResourceKey} {id : HandleId} :
    s.liveAt slot = some id ↔
      Assoc.find? slot s.registry = some id ∧ (s.handle id).stopped = false := by
  rw [State.liveAt, State.live?, Option.filter_eq_some_iff]
  simp

/-- The registry changes by publishing only, and no handle comes back to life. -/
theorem registry_effect (henabled : move.Enabled m) :
    (move.effect m.state).registry = m.state.registry ∨
      ∃ i r id, move = .publish i r id ∧
        (move.effect m.state).registry = Assoc.insert r.slot id m.state.registry := by
  cases move with
  | publish i r id => exact .inr ⟨i, r, id, rfl, rfl⟩
  | work s => exact .inl henabled.registry
  | stop id =>
      refine .inl ?_
      cases hlive : (m.state.handle id).stopped with
      | true =>
          change (stopHandle id m.state).2.registry = _
          rw [stopHandle_of_stopped hlive]
      | false => exact (stopHandle_stopping henabled hlive).registry
  | ask | hit | miss | lock | find | start | fail | make | leave | look => exact .inl rfl

theorem stopped_effect (henabled : move.Enabled m) {id : HandleId}
    (hstopped : (m.state.handle id).stopped = true) :
    ((move.effect m.state).handle id).stopped = true := by
  cases move with
  | work s => exact henabled.stopped id hstopped
  | stop other =>
      change ((stopHandle other m.state).2.handle id).stopped = true
      cases hlive : (m.state.handle other).stopped with
      | true => rwa [stopHandle_of_stopped hlive]
      | false =>
          have hs := stopHandle_stopping henabled hlive
          by_cases hother : id = other
          · rw [hother, hs.stopped]
          · rwa [hs.other hother]
  | ask | hit | miss | lock | find | start | fail | make | publish | leave | look =>
      exact hstopped

/-- No move takes a handle away or gives it another type of connections. -/
theorem fits_next {r : SharedRequest} {id : HandleId} (henabled : move.Enabled m)
    (h : m.state.Fits r id) : (m.next move).state.Fits r id := by
  obtain ⟨hid, htype⟩ := h
  cases move with
  | work s =>
      exact ⟨Nat.lt_of_lt_of_le hid henabled.size, (henabled.connectionType hid).trans htype⟩
  | stop other =>
      refine ⟨?_, (connectionType_stopHandle other id m.state).trans htype⟩
      exact Nat.lt_of_lt_of_eq hid (size_stopHandle other m.state).symm
  | ask | hit | miss | lock | find | start | fail | make | publish | leave | look =>
      exact ⟨hid, htype⟩

theorem live_of_live_next (henabled : move.Enabled m) {id : HandleId}
    (hlive : ((m.next move).state.handle id).stopped = false) :
    (m.state.handle id).stopped = false := by
  cases hstopped : (m.state.handle id).stopped with
  | false => rfl
  | true => exact (stopped_effect henabled hstopped).symm.trans hlive

/-- A place without a live handle gets one by publishing only. -/
theorem liveAt_next {slot : String × ResourceKey} (henabled : move.Enabled m)
    (hnone : m.state.liveAt slot = none) :
    (m.next move).state.liveAt slot = none ∨ ∃ i r id, move = .publish i r id ∧ r.slot = slot := by
  cases hlive : (m.next move).state.liveAt slot with
  | none => exact .inl rfl
  | some id =>
      obtain ⟨hfound, hid⟩ := liveAt_eq_some_iff.mp hlive
      have hnew : Assoc.find? slot m.state.registry ≠ some id := by
        intro hold
        cases hstopped : (m.state.handle id).stopped with
        | true =>
            have hstill : ((m.next move).state.handle id).stopped = true :=
              stopped_effect henabled hstopped
            rw [hstill] at hid
            cases hid
        | false =>
            rw [liveAt_eq_some_iff.mpr ⟨hold, hstopped⟩] at hnone
            cases hnone
      rcases registry_effect henabled with hsame | ⟨i, r, other, rfl, hinsert⟩
      · exact absurd (hsame ▸ hfound) hnew
      · refine .inr ⟨i, r, other, rfl, ?_⟩
        have hfound' : Assoc.find? slot (Assoc.insert r.slot other m.state.registry) = some id :=
          hinsert ▸ hfound
        rw [Assoc.find?_insert] at hfound'
        split at hfound'
        next hslot => exact hslot
        next => exact absurd hfound' hnew

/-! ## Sequences of moves -/

theorem Exclusive.after (h : m.Exclusive) (hlegal : m.Legal moves) :
    (outcome next m moves).Exclusive := by
  induction moves using List.reverseRecOn with
  | nil => exact h
  | append_singleton moves move ih =>
      obtain ⟨hbefore, henabled⟩ := hlegal.of_concat
      rw [outcome_concat]
      exact (ih hbefore).step henabled

/-- The sharing of a state before the first call. -/
def start (s : State) : Sharing :=
  { state := s }

theorem exclusive_start (s : State) : (start s).Exclusive :=
  fun _ _ _ h => h.elim

variable {s : State}

theorem exclusive_after (hlegal : (start s).Legal moves) :
    (outcome next (start s) moves).Exclusive :=
  (exclusive_start s).after hlegal

theorem creates_next {slot : String × ResourceKey} {i : Nat} (henabled : move.Enabled m)
    (h : ((m.next move).phase i).Creates slot) :
    (m.phase i).Creates slot ∨
      m.state.liveAt slot = none ∧ ∃ r, move = .start i r ∧ r.slot = slot := by
  rcases phase_next_cases m move i with hsame | hturn
  · exact .inl (hsame ▸ h)
  · generalize (m.next move).phase i = phase at h hturn
    cases move with
    | start j r =>
        cases hturn
        have hslot : r.slot = slot := h
        subst hslot
        exact .inr ⟨henabled.2, r, rfl, rfl⟩
    | make j r id =>
        cases hturn
        refine .inl ?_
        rw [henabled.1]
        exact h
    | ask | hit | miss | lock | find | fail | publish | leave | look =>
        cases hturn
        exact h.elim
    | stop | work => cases hturn

/-- Nothing live is registered in a place while a handle is created for it. -/
theorem liveAt_of_creates (hlegal : (start s).Legal moves) {slot : String × ResourceKey} {i : Nat}
    (h : ((outcome next (start s) moves).phase i).Creates slot) :
    (outcome next (start s) moves).state.liveAt slot = none := by
  induction moves using List.reverseRecOn with
  | nil => exact h.elim
  | append_singleton moves move ih =>
      obtain ⟨hbefore, henabled⟩ := hlegal.of_concat
      rw [outcome_concat] at h ⊢
      rcases creates_next henabled h with hcreates | ⟨hnone, r, rfl, -⟩
      · rcases liveAt_next henabled (ih hbefore hcreates) with hnone | ⟨j, r, id, rfl, hslot⟩
        · exact hnone
        · -- the call that publishes has the lock, so it is this one, which creates nothing any more
          have hmade : (outcome next (start s) moves).phase j = .made r id := henabled
          have hholds : ((outcome next (start s) moves).phase j).Holds slot := by
            rw [hmade]
            exact hslot
          obtain rfl : i = j := exclusive_after hbefore (holds_of_creates hcreates) hholds
          rw [phase_next_of_turn rfl] at h
          exact h.elim
      · exact hnone

theorem fits_of_made (hlegal : (start s).Legal moves) {i : Nat} {r : SharedRequest} {id : HandleId}
    (h : (outcome next (start s) moves).phase i = .made r id) :
    (outcome next (start s) moves).state.Fits r id := by
  induction moves using List.reverseRecOn with
  | nil => cases h
  | append_singleton moves move ih =>
      obtain ⟨hbefore, henabled⟩ := hlegal.of_concat
      rw [outcome_concat] at h ⊢
      refine fits_next henabled ?_
      rcases phase_next_cases (outcome next (start s) moves) move i with hsame | hturn
      · exact ih hbefore (hsame ▸ h)
      · rw [h] at hturn
        cases move with
        | make j r' id' =>
            cases hturn
            exact henabled.2
        | ask | hit | miss | lock | find | start | fail | publish | leave | look | stop | work =>
            cases hturn

/-- What a call publishes is of the type that the call asks for, and stays so. -/
theorem fits_of_publish_mem (hlegal : (start s).Legal moves) {i : Nat} {r : SharedRequest}
    {id : HandleId} (hmem : .publish i r id ∈ moves) :
    (outcome next (start s) moves).state.Fits r id := by
  induction moves using List.reverseRecOn with
  | nil => cases hmem
  | append_singleton moves move ih =>
      obtain ⟨hbefore, henabled⟩ := hlegal.of_concat
      rw [outcome_concat]
      refine fits_next henabled ?_
      rcases List.mem_append.mp hmem with hmem | hmem
      · exact ih hbefore hmem
      · obtain rfl := List.mem_singleton.mp hmem
        exact fits_of_made hbefore henabled

/-- A handle that was in a place from the beginning, or that some call published there. -/
def Registered (s : State) (moves : List Move) (slot : String × ResourceKey)
    (id : HandleId) : Prop :=
  Assoc.find? slot s.registry = some id ∨ ∃ i r, .publish i r id ∈ moves ∧ r.slot = slot

theorem Registered.append {slot : String × ResourceKey} {id : HandleId}
    (h : Registered s moves slot id) (rest : List Move) : Registered s (moves ++ rest) slot id :=
  h.imp_right fun ⟨i, r, hmem, hslot⟩ => ⟨i, r, List.mem_append_left _ hmem, hslot⟩

theorem Registered.of_concat {slot : String × ResourceKey} {id : HandleId}
    (h : Registered s (moves ++ [move]) slot id) :
    Registered s moves slot id ∨ ∃ i r, move = .publish i r id ∧ r.slot = slot := by
  rcases h with hold | ⟨i, r, hmem, hslot⟩
  · exact .inl (.inl hold)
  · rcases List.mem_append.mp hmem with hmem | hmem
    · exact .inl (.inr ⟨i, r, hmem, hslot⟩)
    · exact .inr ⟨i, r, (List.mem_singleton.mp hmem).symm, hslot⟩

/-- What a place holds was registered there. -/
theorem registered_of_find? (hlegal : (start s).Legal moves) {slot : String × ResourceKey}
    {id : HandleId} (h : Assoc.find? slot (outcome next (start s) moves).state.registry = some id) :
    Registered s moves slot id := by
  induction moves using List.reverseRecOn with
  | nil => exact .inl h
  | append_singleton moves move ih =>
      obtain ⟨hbefore, henabled⟩ := hlegal.of_concat
      rw [outcome_concat] at h
      rcases registry_effect henabled with hsame | ⟨i, r, other, rfl, hinsert⟩
      · exact (ih hbefore (hsame ▸ h)).append [move]
      · have hfound : Assoc.find? slot
            (Assoc.insert r.slot other (outcome next (start s) moves).state.registry) = some id :=
          hinsert ▸ h
        rw [Assoc.find?_insert] at hfound
        split at hfound
        next hslot =>
          cases hfound
          exact .inr ⟨i, r, List.mem_append_right _ (List.mem_singleton_self _), hslot⟩
        next => exact (ih hbefore hfound).append _

/-- Of all handles that were ever registered in a place, only the one that is there now can be live.
-/
theorem find?_of_registered (hlegal : (start s).Legal moves) {slot : String × ResourceKey}
    {id : HandleId} (h : Registered s moves slot id)
    (hlive : ((outcome next (start s) moves).state.handle id).stopped = false) :
    Assoc.find? slot (outcome next (start s) moves).state.registry = some id := by
  induction moves using List.reverseRecOn with
  | nil => exact h.resolve_right fun ⟨_, _, hmem, _⟩ => absurd hmem List.not_mem_nil
  | append_singleton moves move ih =>
      obtain ⟨hbefore, henabled⟩ := hlegal.of_concat
      rw [outcome_concat] at hlive ⊢
      rcases h.of_concat with hold | ⟨i, r, rfl, hslot⟩
      · have hlived := live_of_live_next henabled hlive
        have hfound := ih hbefore hold hlived
        rcases registry_effect henabled with hsame | ⟨i, r, other, rfl, hinsert⟩
        · exact hsame ▸ hfound
        · have hmade : (outcome next (start s) moves).phase i = .made r other := henabled
          -- in this place nothing is published, since its handle is still live
          have hne : r.slot ≠ slot := by
            intro hslot
            have hcreates : ((outcome next (start s) moves).phase i).Creates slot := by
              rw [hmade]
              exact hslot
            have hnone := liveAt_of_creates hbefore hcreates
            rw [liveAt_eq_some_iff.mpr ⟨hfound, hlived⟩] at hnone
            cases hnone
          refine (congrArg (Assoc.find? slot) hinsert).trans ?_
          rw [Assoc.find?_insert, if_neg hne]
          exact hfound
      · refine (Assoc.find?_insert ..).trans ?_
        rw [if_pos hslot]

end Sharing

end ScopedResources.Lifecycle
