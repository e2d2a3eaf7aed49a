import ScopedResources.Proofs.Run
import ScopedResources.Proofs.Sharing
import Mathlib.Tactic.Common

/-!
# One live handle for every key

However the calls interleave, at most one handle that was ever registered under a key is live, at
most one factory runs for the key, and it starts only when there is no live handle. A handle that a
call did not make was live when the call looked; one that it made, it published. A factory that
fails leaves the place vacant for the next call that gets the lock. -/

namespace ScopedResources.Lifecycle

open Trace

namespace SharedRequest

/-- What a request is answered with if the live handle has another type of connections. -/
def mismatch (r : SharedRequest) : LifecycleError :=
  .injection r.connectionType
    ("shared " ++ r.backend ++ " resource was registered with a different connection type")

/-- A handle that was there already is the answer exactly if it has the type that is asked for. -/
theorem found_eq (r : SharedRequest) (s : State) (id : HandleId) :
    r.found s id = if (s.handle id).connectionType = r.connectionType then .ok (id, false)
      else .error r.mismatch := by
  unfold found ofType
  simp only [Action.run_bind, Action.run_get]
  split <;> rfl

theorem found_cases (r : SharedRequest) (s : State) (id : HandleId) :
    r.found s id = .ok (id, false) ∨
      r.found s id = .error r.mismatch ∧ (s.handle id).connectionType ≠ r.connectionType := by
  rw [found_eq]
  split
  next => exact .inl rfl
  next htype => exact .inr ⟨rfl, htype⟩

theorem getShared_eq_some {r : SharedRequest} {s : State} {id : HandleId}
    (h : (getShared r.backend r.connectionType r.key s).1 = .ok (some id)) :
    s.liveAt r.slot = some id := by
  unfold getShared at h
  simp only [Action.run_bind, Action.run_get] at h
  change s.live? r.backend r.key = some id
  cases hlive : s.live? r.backend r.key with
  | none =>
      rw [hlive] at h
      cases h
  | some live =>
      rw [hlive] at h
      unfold ofType at h
      simp only [Action.run_bind, Action.run_get] at h
      by_cases htype : (s.handle live).connectionType = r.connectionType
      · rw [if_pos htype] at h
        cases h
        rfl
      · rw [if_neg htype] at h
        cases h

end SharedRequest

/-- What a call in this phase has asked for. -/
def Phase.request? : Phase → Option SharedRequest
  | asked r => some r
  | waiting r => some r
  | checking r => some r
  | making r => some r
  | made r _ => some r
  | published r _ => some r
  | returned r _ => some r
  | idle => none
  | looked _ _ => none

/-- A call in this phase has its answer. -/
def Phase.Answered : Phase → Prop
  | returned _ _ => True
  | looked _ _ => True
  | _ => False

namespace Sharing

variable {s : State} {m : Sharing} {moves : List Move} {move : Move}

/-- Calls in a state lead to what is shared after their moves. -/
def Leads (s : State) (moves : List Move) (m : Sharing) : Prop :=
  (start s).Legal moves ∧ m = outcome next (start s) moves

/-- A call that has its answer makes no move any more. -/
theorem not_answered_of_turn {i : Nat} {phase : Phase} (henabled : move.Enabled m)
    (hturn : move.turn m.state = some (i, phase)) : ¬ (m.phase i).Answered := by
  have hphase : ∀ {phase : Phase}, m.phase i = phase → ¬ phase.Answered → ¬ (m.phase i).Answered :=
    fun heq hnot => heq ▸ hnot
  cases move with
  | ask | look =>
      cases hturn
      exact hphase henabled not_false
  | hit | miss | lock | find | start | make =>
      cases hturn
      exact hphase henabled.1 not_false
  | fail | publish | leave =>
      cases hturn
      exact hphase henabled not_false
  | stop | work => cases hturn

theorem phase_next_of_answered {i : Nat} (henabled : move.Enabled m)
    (h : (m.phase i).Answered) : (m.next move).phase i = m.phase i :=
  phase_next_of_ne fun _ hturn => not_answered_of_turn henabled hturn h

/-- A call that is about a request has asked for it. -/
theorem ask_mem_of_request? (hlegal : (start s).Legal moves) {i : Nat} {r : SharedRequest}
    (h : ((outcome next (start s) moves).phase i).request? = some r) : .ask i r ∈ moves := by
  induction moves using List.reverseRecOn with
  | nil => cases h
  | append_singleton moves move ih =>
      obtain ⟨hbefore, henabled⟩ := hlegal.of_concat
      rw [outcome_concat] at h
      rcases phase_next_cases (outcome next (start s) moves) move i with hsame | hturn
      · exact List.mem_append_left _ (ih hbefore (hsame ▸ h))
      · generalize ((outcome next (start s) moves).next move).phase i = phase at h hturn
        -- every other move goes on from a phase that is about the same request
        have hkept : ∀ {q : SharedRequest} {last : Phase},
            (outcome next (start s) moves).phase i = last → last.request? = some q → q = r →
              Move.ask i r ∈ moves ++ [move] := by
          rintro q last rfl hlast rfl
          exact List.mem_append_left _ (ih hbefore hlast)
        cases move with
        | ask j q =>
            cases hturn
            cases h
            exact List.mem_append_right _ (List.mem_singleton_self _)
        | hit | miss | lock | find | start | make =>
            cases hturn
            exact hkept henabled.1 rfl (Option.some.inj h)
        | fail | publish | leave =>
            cases hturn
            exact hkept henabled rfl (Option.some.inj h)
        | look =>
            cases hturn
            cases h
        | stop | work => cases hturn

/-! ## Where answers come from -/

/-- A call found a handle, at its first check or under the lock. -/
def Found (s : State) (moves : List Move) (i : Nat) (r : SharedRequest) (id : HandleId)
    (answer : Except LifecycleError (HandleId × Bool)) : Prop :=
  ∃ before, (Splits moves before (.hit i r id) ∨ Splits moves before (.find i r id)) ∧
    answer = r.found (outcome next (start s) before).state id

theorem publish_mem_of_published (hlegal : (start s).Legal moves) {i : Nat} {r : SharedRequest}
    {id : HandleId} (h : (outcome next (start s) moves).phase i = .published r id) :
    .publish i r id ∈ moves := by
  induction moves using List.reverseRecOn with
  | nil => cases h
  | append_singleton moves move ih =>
      have hbefore := hlegal.of_concat.1
      rw [outcome_concat] at h
      rcases phase_next_cases (outcome next (start s) moves) move i with hsame | hturn
      · exact List.mem_append_left _ (ih hbefore (hsame ▸ h))
      · rw [h] at hturn
        cases move with
        | publish j r' id' =>
            cases hturn
            exact List.mem_append_right _ (List.mem_singleton_self _)
        | ask | hit | miss | lock | find | start | fail | make | leave | look | stop | work =>
            cases hturn

/-- An answer is what the factory failed with, a handle that the call published, or what it found.
-/
theorem returned_cases (hlegal : (start s).Legal moves) {i : Nat} {r : SharedRequest}
    {answer : Except LifecycleError (HandleId × Bool)}
    (h : (outcome next (start s) moves).phase i = .returned r answer) :
    (∃ error, answer = .error error ∧ .fail i r error ∈ moves) ∨
      (∃ id, answer = .ok (id, true) ∧ .publish i r id ∈ moves) ∨
      ∃ id, Found s moves i r id answer := by
  induction moves using List.reverseRecOn with
  | nil => cases h
  | append_singleton moves move ih =>
      obtain ⟨hbefore, henabled⟩ := hlegal.of_concat
      rw [outcome_concat] at h
      rcases phase_next_cases (outcome next (start s) moves) move i with hsame | hturn
      · rcases ih hbefore (hsame ▸ h) with ⟨error, hanswer, hmem⟩ | ⟨id, hanswer, hmem⟩ |
          ⟨id, before, hsplit, hanswer⟩
        · exact .inl ⟨error, hanswer, List.mem_append_left _ hmem⟩
        · exact .inr (.inl ⟨id, hanswer, List.mem_append_left _ hmem⟩)
        · exact .inr (.inr ⟨id, before, hsplit.imp (·.concat move) (·.concat move), hanswer⟩)
      · rw [h] at hturn
        cases move with
        | hit j r' id =>
            cases hturn
            exact .inr (.inr ⟨id, moves, .inl (Splits.last ..), rfl⟩)
        | find j r' id =>
            cases hturn
            exact .inr (.inr ⟨id, moves, .inr (Splits.last ..), rfl⟩)
        | fail j r' error =>
            cases hturn
            exact .inl ⟨error, rfl, List.mem_append_right _ (List.mem_singleton_self _)⟩
        | leave j r' id =>
            cases hturn
            have hmem := publish_mem_of_published hbefore henabled
            exact .inr (.inl ⟨id, rfl, List.mem_append_left _ hmem⟩)
        | ask | miss | lock | start | make | publish | look | stop | work => cases hturn

/-- What a call found was registered and live when it looked. -/
theorem Found.live {i : Nat} {r : SharedRequest} {id : HandleId}
    {answer : Except LifecycleError (HandleId × Bool)} (h : Found s moves i r id answer)
    (hlegal : (start s).Legal moves) :
    ∃ before, (Splits moves before (.hit i r id) ∨ Splits moves before (.find i r id)) ∧
      (start s).Legal before ∧ (outcome next (start s) before).state.liveAt r.slot = some id ∧
      answer = r.found (outcome next (start s) before).state id := by
  obtain ⟨before, hsplit, hanswer⟩ := h
  rcases hsplit with hhit | hfind
  · obtain ⟨hbefore, -, hlive⟩ := hhit.enabled hlegal
    exact ⟨before, .inl hhit, hbefore, hlive, hanswer⟩
  · obtain ⟨hbefore, -, hlive⟩ := hfind.enabled hlegal
    exact ⟨before, .inr hfind, hbefore, hlive, hanswer⟩

theorem looked_live (hlegal : (start s).Legal moves) {i : Nat} {r : SharedRequest} {id : HandleId}
    (h : (outcome next (start s) moves).phase i = .looked r (.ok (some id))) :
    ∃ before, Splits moves before (.look i r) ∧
      (outcome next (start s) before).state.liveAt r.slot = some id := by
  induction moves using List.reverseRecOn with
  | nil => cases h
  | append_singleton moves move ih =>
      have hbefore := hlegal.of_concat.1
      rw [outcome_concat] at h
      rcases phase_next_cases (outcome next (start s) moves) move i with hsame | hturn
      · obtain ⟨before, hsplit, hlive⟩ := ih hbefore (hsame ▸ h)
        exact ⟨before, hsplit.concat move, hlive⟩
      · rw [h] at hturn
        cases move with
        | look j r' =>
            injection hturn with hturn
            injection hturn with hcall hphase
            injection hphase with hrequest hanswer
            subst hcall hrequest
            exact ⟨moves, Splits.last .., SharedRequest.getShared_eq_some hanswer⟩
        | ask | hit | miss | lock | find | start | fail | make | publish | leave | stop | work =>
            cases hturn

/-- The calls that publish a handle are those that return it as their own. -/
theorem publish_mem_iff (hlegal : (start s).Legal moves) {i : Nat} {r : SharedRequest}
    {id : HandleId} :
    .publish i r id ∈ moves ↔ (outcome next (start s) moves).phase i = .published r id ∨
      (outcome next (start s) moves).phase i = .returned r (.ok (id, true)) := by
  constructor
  · intro hmem
    induction moves using List.reverseRecOn with
    | nil => cases hmem
    | append_singleton moves move ih =>
        obtain ⟨hbefore, henabled⟩ := hlegal.of_concat
        rw [outcome_concat]
        rcases List.mem_append.mp hmem with hmem | hmem
        · rcases ih hbefore hmem with hpublished | hreturned
          · rcases phase_next_cases (outcome next (start s) moves) move i with hsame | hturn
            · exact .inl (hsame.trans hpublished)
            · right
              -- a call that has published can only leave
              generalize ((outcome next (start s) moves).next move).phase i = phase at hturn ⊢
              have hleave : move = .leave i r id := by
                cases move with
                | leave j r' id' =>
                    cases hturn
                    cases hpublished.symm.trans henabled
                    rfl
                | ask | fail | publish | look =>
                    cases hturn
                    cases hpublished.symm.trans henabled
                | hit | miss | lock | find | start | make =>
                    cases hturn
                    cases hpublished.symm.trans henabled.1
                | stop | work => cases hturn
              subst hleave
              cases hturn
              rfl
          · right
            rw [phase_next_of_answered henabled (by rw [hreturned]; trivial)]
            exact hreturned
        · obtain rfl := List.mem_singleton.mp hmem
          exact .inl (phase_next_of_turn rfl)
  · rintro (hpublished | hreturned)
    · exact publish_mem_of_published hlegal hpublished
    · rcases returned_cases hlegal hreturned with ⟨error, hanswer, -⟩ | ⟨id', hanswer, hmem⟩ |
        ⟨id', before, -, hanswer⟩
      · cases hanswer
      · cases hanswer
        exact hmem
      · rcases r.found_cases (outcome next (start s) before).state id' with hfound | ⟨hfound, -⟩
        · rw [hfound] at hanswer
          cases hanswer
        · rw [hfound] at hanswer
          cases hanswer

theorem ask_mem_of_publish_mem (hlegal : (start s).Legal moves) {i : Nat} {r : SharedRequest}
    {id : HandleId} (hmem : .publish i r id ∈ moves) : .ask i r ∈ moves := by
  refine ask_mem_of_request? hlegal ?_
  rcases (publish_mem_iff hlegal).mp hmem with hphase | hphase <;> rw [hphase] <;> rfl

theorem returned_of_fail_mem (hlegal : (start s).Legal moves) {i : Nat} {r : SharedRequest}
    {error : LifecycleError} (hmem : .fail i r error ∈ moves) :
    (outcome next (start s) moves).phase i = .returned r (.error error) := by
  induction moves using List.reverseRecOn with
  | nil => cases hmem
  | append_singleton moves move ih =>
      obtain ⟨hbefore, henabled⟩ := hlegal.of_concat
      rw [outcome_concat]
      rcases List.mem_append.mp hmem with hmem | hmem
      · have hreturned := ih hbefore hmem
        rw [phase_next_of_answered henabled (by rw [hreturned]; trivial)]
        exact hreturned
      · obtain rfl := List.mem_singleton.mp hmem
        exact phase_next_of_turn rfl

/-! ## After a failure -/

/-- A place has no live handle, and no call has its lock. -/
def Vacant (slot : String × ResourceKey) (m : Sharing) : Prop :=
  m.state.liveAt slot = none ∧ ∀ j, ¬ (m.phase j).Holds slot

/-- A factory that fails publishes nothing, and its call gives the lock back. -/
theorem vacant_of_fail (hlegal : (start s).Legal moves) {i : Nat} {r : SharedRequest}
    {error : LifecycleError}
    (henabled : (Move.fail i r error).Enabled (outcome next (start s) moves)) :
    Vacant r.slot ((outcome next (start s) moves).next (.fail i r error)) := by
  have hmaking : (outcome next (start s) moves).phase i = .making r := henabled
  have hcreates : ((outcome next (start s) moves).phase i).Creates r.slot := by
    rw [hmaking]
    rfl
  refine ⟨liveAt_of_creates hlegal hcreates, fun j hholds => ?_⟩
  rcases holds_next henabled hholds with hbefore | ⟨_, hlock, -⟩
  · obtain rfl := exclusive_after hlegal hbefore (holds_of_creates hcreates)
    rw [phase_next_of_turn rfl] at hholds
    exact hholds
  · cases hlock

theorem Vacant.step {slot : String × ResourceKey} (h : Vacant slot m) (henabled : move.Enabled m)
    (hlock : ∀ j r, move = .lock j r → r.slot ≠ slot) : Vacant slot (m.next move) := by
  constructor
  · rcases liveAt_next henabled h.1 with hnone | ⟨j, r, id, rfl, hslot⟩
    · exact hnone
    · have hmade : m.phase j = .made r id := henabled
      refine absurd ?_ (h.2 j)
      rw [hmade]
      exact hslot
  · intro j hholds
    rcases holds_next henabled hholds with hbefore | ⟨r, hmove, hslot, -⟩
    · exact h.2 j hbefore
    · exact hlock j r hmove hslot

theorem Vacant.after {slot : String × ResourceKey} (h : Vacant slot m) (hlegal : m.Legal moves)
    (hlock : ∀ j r, .lock j r ∈ moves → r.slot ≠ slot) : Vacant slot (outcome next m moves) := by
  induction moves using List.reverseRecOn with
  | nil => exact h
  | append_singleton moves move ih =>
      obtain ⟨hbefore, henabled⟩ := hlegal.of_concat
      rw [outcome_concat]
      refine (ih hbefore fun j r hmem => hlock j r (List.mem_append_left _ hmem)).step henabled ?_
      rintro j r rfl
      exact hlock j r (List.mem_append_right _ (List.mem_singleton_self _))

/-- A call that has the lock of a place without a live handle can only start its factory. -/
theorem checking_or_start (hexclusive : m.Exclusive) {j : Nat} {r : SharedRequest}
    (hchecking : m.phase j = .checking r) (hnone : m.state.liveAt r.slot = none)
    (hlegal : m.Legal moves) :
    ((outcome next m moves).phase j = .checking r ∧
        (outcome next m moves).state.liveAt r.slot = none) ∨
      .start j r ∈ moves := by
  induction moves using List.reverseRecOn with
  | nil => exact .inl ⟨hchecking, hnone⟩
  | append_singleton moves move ih =>
      obtain ⟨hbefore, henabled⟩ := hlegal.of_concat
      rcases ih hbefore with ⟨hstill, hempty⟩ | hmem
      · rw [outcome_concat]
        by_cases hstart : move = .start j r
        · exact .inr (List.mem_append_right _ (List.mem_singleton.mpr hstart.symm))
        · refine .inl ⟨?_, ?_⟩
          · -- another turn of this call would need a live handle
            refine (phase_next_of_ne fun phase hturn => ?_).trans hstill
            cases move with
            | start k r' =>
                cases hturn
                cases hstill.symm.trans henabled.1
                exact hstart rfl
            | find k r' id =>
                cases hturn
                cases hstill.symm.trans henabled.1
                rw [henabled.2] at hempty
                cases hempty
            | ask | fail | publish | leave | look =>
                cases hturn
                cases hstill.symm.trans henabled
            | hit | miss | lock | make =>
                cases hturn
                cases hstill.symm.trans henabled.1
            | stop | work => cases hturn
          · rcases liveAt_next henabled hempty with hnone | ⟨k, r', id, rfl, hslot⟩
            · exact hnone
            · have hmade : (outcome next m moves).phase k = .made r' id := henabled
              have hholds : ((outcome next m moves).phase k).Holds r.slot := by
                rw [hmade]
                exact hslot
              have hholds' : ((outcome next m moves).phase j).Holds r.slot := by
                rw [hstill]
                rfl
              -- whoever publishes has the lock, but this call has it
              obtain rfl := hexclusive.after hbefore hholds hholds'
              cases hmade.symm.trans hstill
      · exact .inr (List.mem_append_left _ hmem)

/-- After a failure the next call that gets the lock of the place starts its factory, unless it has
not made its check yet. -/
theorem start_of_fail {before waits rest : List Move} {i j : Nat} {r r' : SharedRequest}
    {error : LifecycleError}
    (hlegal : (start s).Legal (before ++ [.fail i r error] ++ waits ++ [.lock j r'] ++ rest))
    (hslot : r'.slot = r.slot) (hwaits : ∀ k q, .lock k q ∈ waits → q.slot ≠ r.slot) :
    (outcome next (start s)
      (before ++ [.fail i r error] ++ waits ++ [.lock j r'] ++ rest)).phase j =
      .checking r' ∨ .start j r' ∈ rest := by
  obtain ⟨hlocked, hrest⟩ := hlegal.of_append
  obtain ⟨hwaited, hlock⟩ := hlocked.of_concat
  obtain ⟨hfailed, hwaiting⟩ := hwaited.of_append
  obtain ⟨hbefore, hfail⟩ := hfailed.of_concat
  have hvacant := vacant_of_fail hbefore hfail
  rw [← outcome_concat next] at hvacant
  have hstill := hvacant.after hwaiting hwaits
  rw [← outcome_append] at hstill
  have hchecking :
      (outcome next (start s) (before ++ [.fail i r error] ++ waits ++ [.lock j r'])).phase j =
        .checking r' := by
    rw [outcome_concat]
    exact phase_next_of_turn rfl
  have hnone : (outcome next (start s) (before ++ [.fail i r error] ++ waits ++
      [.lock j r'])).state.liveAt r'.slot = none := by
    rw [outcome_concat, hslot]
    exact hstill.1
  rw [outcome_append]
  exact (checking_or_start (exclusive_after hlocked) hchecking hnone hrest).imp_left And.left

/-! ## Without failures and stops -/

/-- Whether a move starts a factory for a place. -/
def startsIn (slot : String × ResourceKey) : Move → Bool
  | .start _ r => r.slot = slot
  | _ => false

/-- A factory that runs goes on running until it fails or its handle is published. -/
theorem creates_after {slot : String × ResourceKey} {i : Nat} (henabled : move.Enabled m)
    (h : (m.phase i).Creates slot) :
    ((m.next move).phase i).Creates slot ∨ (∃ r error, move = .fail i r error ∧ r.slot = slot) ∨
      ∃ r id, move = .publish i r id ∧ r.slot = slot := by
  rcases phase_next_cases m move i with hsame | hturn
  · exact .inl (hsame ▸ h)
  · generalize (m.next move).phase i = phase at hturn ⊢
    cases move with
    | fail j r error =>
        cases hturn
        rw [show m.phase i = .making r from henabled] at h
        exact .inr (.inl ⟨r, error, rfl, h⟩)
    | publish j r id =>
        cases hturn
        rw [show m.phase i = .made r id from henabled] at h
        exact .inr (.inr ⟨r, id, rfl, h⟩)
    | make j r id =>
        cases hturn
        rw [henabled.1] at h
        exact .inl h
    | ask | leave | look =>
        cases hturn
        rw [henabled] at h
        exact h.elim
    | hit | miss | lock | find | start =>
        cases hturn
        rw [henabled.1] at h
        exact h.elim
    | stop | work => cases hturn

/-- A place is empty at first, no factory for it fails, and nothing that is registered there is
stopped. -/
structure Smooth (s : State) (moves : List Move) (slot : String × ResourceKey) (m : Sharing) :
    Prop where
  empty : Assoc.find? slot s.registry = none
  succeeds : ∀ i r error, .fail i r error ∈ moves → r.slot ≠ slot
  live : ∀ id, Registered s moves slot id → (m.state.handle id).stopped = false

/-- How far the one creation of a place has come: no factory has started; or one has, and it is
still running or its handle is registered. -/
def Progress (s : State) (moves : List Move) (slot : String × ResourceKey) (m : Sharing) : Prop :=
  (moves.countP (startsIn slot) = 0 ∧ (∀ j, ¬ (m.phase j).Creates slot) ∧
      ∀ id, ¬ Registered s moves slot id) ∨
    moves.countP (startsIn slot) = 1 ∧
      ((∃ j, (m.phase j).Creates slot) ∨ ∃ id, Registered s moves slot id)

/-- A factory starts when no other one runs for the place and nothing is registered there yet. -/
theorem Progress.first {i : Nat} {r : SharedRequest} (hlegal : (start s).Legal moves)
    (henabled : (Move.start i r).Enabled (outcome next (start s) moves))
    (hlive : ∀ id, Registered s moves r.slot id →
      ((outcome next (start s) moves).state.handle id).stopped = false)
    (h : Progress s moves r.slot (outcome next (start s) moves)) :
    Progress s (moves ++ [.start i r]) r.slot
      ((outcome next (start s) moves).next (.start i r)) := by
  have hstart : startsIn r.slot (.start i r) = true := decide_eq_true rfl
  have hcount : (moves ++ [Move.start i r]).countP (startsIn r.slot) =
      moves.countP (startsIn r.slot) + 1 := by
    rw [List.countP_append, List.countP_cons_of_pos hstart]
    rfl
  have hchecking : (outcome next (start s) moves).phase i = .checking r := henabled.1
  rcases h with ⟨hzero, -, -⟩ | ⟨-, ⟨j, hcreates⟩ | ⟨id, hregistered⟩⟩
  · refine .inr ⟨by rw [hcount, hzero], .inl ⟨i, ?_⟩⟩
    rw [phase_next_of_turn rfl]
    rfl
  · -- the running factory has the lock, which the checking call has
    have hholds : ((outcome next (start s) moves).phase i).Holds r.slot := by
      rw [hchecking]
      rfl
    obtain rfl := exclusive_after hlegal (holds_of_creates hcreates) hholds
    rw [hchecking] at hcreates
    exact hcreates.elim
  · -- the registered handle is live, so the check would have found it
    have hfound := find?_of_registered hlegal hregistered (hlive id hregistered)
    have hnone := henabled.2
    rw [liveAt_eq_some_iff.mpr ⟨hfound, hlive id hregistered⟩] at hnone
    cases hnone

/-- Other moves neither start a factory nor lose what one has made, unless it fails. -/
theorem Progress.step {slot : String × ResourceKey}
    (henabled : move.Enabled (outcome next (start s) moves))
    (hstart : startsIn slot move ≠ true)
    (hfail : ∀ i r error, move = .fail i r error → r.slot ≠ slot)
    (h : Progress s moves slot (outcome next (start s) moves)) :
    Progress s (moves ++ [move]) slot ((outcome next (start s) moves).next move) := by
  have hcount : (moves ++ [move]).countP (startsIn slot) = moves.countP (startsIn slot) := by
    rw [List.countP_append, List.countP_cons_of_neg hstart]
    rfl
  rcases h with ⟨hzero, hidle, hnone⟩ | ⟨hone, hstarted⟩
  · refine .inl ⟨hcount.trans hzero, fun j hcreates => ?_, fun id h => ?_⟩
    · rcases creates_next henabled hcreates with hold | ⟨-, r, rfl, hslot⟩
      · exact hidle j hold
      · exact hstart (decide_eq_true hslot)
    · rcases h.of_concat with hold | ⟨i, r, rfl, hslot⟩
      · exact hnone id hold
      · refine hidle i ?_
        rw [show (outcome next (start s) moves).phase i = .made r id from henabled]
        exact hslot
  · refine .inr ⟨hcount.trans hone, ?_⟩
    rcases hstarted with ⟨j, hcreates⟩ | ⟨id, hregistered⟩
    · rcases creates_after henabled hcreates with hstill | ⟨r, error, rfl, hslot⟩ |
        ⟨r, id, rfl, hslot⟩
      · exact .inl ⟨j, hstill⟩
      · exact absurd hslot (hfail j r error rfl)
      · exact .inr ⟨id, .inr ⟨j, r, List.mem_append_right _ (List.mem_singleton_self _), hslot⟩⟩
    · exact .inr ⟨id, hregistered.append [move]⟩

theorem progress {slot : String × ResourceKey} (hlegal : (start s).Legal moves)
    (h : Smooth s moves slot (outcome next (start s) moves)) :
    Progress s moves slot (outcome next (start s) moves) := by
  induction moves using List.reverseRecOn with
  | nil =>
      refine .inl ⟨rfl, fun j hcreates => hcreates.elim, fun id hregistered => ?_⟩
      rcases hregistered with hfound | ⟨_, _, hmem, -⟩
      · rw [h.empty] at hfound
        cases hfound
      · exact absurd hmem List.not_mem_nil
  | append_singleton moves move ih =>
      obtain ⟨hbefore, henabled⟩ := hlegal.of_concat
      have hfail := h.succeeds
      have hlive := h.live
      rw [outcome_concat] at hlive ⊢
      have hsmooth : Smooth s moves slot (outcome next (start s) moves) :=
        ⟨h.empty, fun i r error hmem => hfail i r error (List.mem_append_left _ hmem),
          fun id hid => live_of_live_next henabled (hlive id (hid.append [move]))⟩
      have hprogress := ih hbefore hsmooth
      by_cases hstart : startsIn slot move = true
      · obtain ⟨i, r, rfl, rfl⟩ : ∃ i r, move = .start i r ∧ r.slot = slot := by
          cases move with
          | start i r => exact ⟨i, r, rfl, of_decide_eq_true hstart⟩
          | ask | hit | miss | lock | find | fail | make | publish | leave | look | stop | work =>
              cases hstart
        exact hprogress.first hbefore henabled hsmooth.live
      · refine hprogress.step henabled hstart fun i r error hmove => ?_
        exact hfail i r error (List.mem_append_right _ (List.mem_singleton.mpr hmove.symm))

/-- The handle that a place got from a call is of the type that this call asked for, so another call
finds no fault with it unless it asks for another type. -/
theorem publisher_of_registered (hlegal : (start s).Legal moves) {r : SharedRequest} {id : HandleId}
    (hempty : Assoc.find? r.slot s.registry = none) (h : Registered s moves r.slot id)
    (htype : ((outcome next (start s) moves).state.handle id).connectionType ≠ r.connectionType) :
    ∃ j q, .ask j q ∈ moves ∧ .publish j q id ∈ moves ∧ q.slot = r.slot ∧
      q.connectionType ≠ r.connectionType := by
  rcases h with hfound | ⟨j, q, hmem, hslot⟩
  · rw [hempty] at hfound
    cases hfound
  · have hfits := fits_of_publish_mem hlegal hmem
    exact ⟨j, q, ask_mem_of_publish_mem hlegal hmem, hmem, hslot, hfits.2 ▸ htype⟩

/-- Every answer without a failure is about a handle that is registered for the request. -/
theorem registered_of_returned (hlegal : (start s).Legal moves) {i : Nat} {r : SharedRequest}
    {answer : Except LifecycleError (HandleId × Bool)}
    (hempty : Assoc.find? r.slot s.registry = none)
    (h : (outcome next (start s) moves).phase i = .returned r answer)
    (hfail : ∀ error, .fail i r error ∉ moves) :
    ∃ id, Registered s moves r.slot id ∧
      (answer = .ok (id, true) ∨ answer = .ok (id, false) ∨
        answer = .error r.mismatch ∧ ∃ j q, .ask j q ∈ moves ∧ .publish j q id ∈ moves ∧
          q.slot = r.slot ∧ q.connectionType ≠ r.connectionType) := by
  rcases returned_cases hlegal h with ⟨error, -, hmem⟩ | ⟨id, hanswer, hmem⟩ | ⟨id, hfound⟩
  · exact absurd hmem (hfail error)
  · exact ⟨id, .inr ⟨i, r, hmem, rfl⟩, .inl hanswer⟩
  · obtain ⟨before, hsplit, hbefore, hlive, hanswer⟩ := hfound.live hlegal
    have hthere : Registered s before r.slot id :=
      registered_of_find? hbefore (liveAt_eq_some_iff.mp hlive).1
    obtain ⟨rest, rfl⟩ : ∃ rest, moves = before ++ rest := by
      rcases hsplit with ⟨rest, rfl⟩ | ⟨rest, rfl⟩ <;> exact ⟨_, rfl⟩
    refine ⟨id, hthere.append rest, .inr ?_⟩
    rw [hanswer]
    refine (r.found_cases _ id).imp_right fun ⟨hmismatch, htype⟩ => ⟨hmismatch, ?_⟩
    obtain ⟨j, q, hask, hpublish, hslot, htype⟩ :=
      publisher_of_registered hbefore hempty hthere htype
    exact ⟨j, q, List.mem_append_left _ hask, List.mem_append_left _ hpublish, hslot, htype⟩

/-- Of all handles that were ever registered in a place, a live one is the one that requests find.
-/
theorem liveAt_of_registered (hlegal : (start s).Legal moves) {slot : String × ResourceKey}
    {id : HandleId} (h : Registered s moves slot id)
    (hlive : ((outcome next (start s) moves).state.handle id).stopped = false) :
    (outcome next (start s) moves).state.liveAt slot = some id :=
  liveAt_eq_some_iff.mpr ⟨find?_of_registered hlegal h hlive, hlive⟩

namespace Smooth

variable {slot : String × ResourceKey}

theorem countP_le_one (h : Smooth s moves slot (outcome next (start s) moves))
    (hlegal : (start s).Legal moves) : moves.countP (startsIn slot) ≤ 1 := by
  rcases progress hlegal h with ⟨hzero, -⟩ | ⟨hone, -⟩ <;> omega

/-- Whoever has an answer has it about the one handle that a factory made. -/
theorem returned (h : Smooth s moves slot (outcome next (start s) moves))
    (hlegal : (start s).Legal moves) {i : Nat} {r : SharedRequest}
    {answer : Except LifecycleError (HandleId × Bool)}
    (hreturned : (outcome next (start s) moves).phase i = .returned r answer)
    (hslot : r.slot = slot) :
    moves.countP (startsIn slot) = 1 ∧
      ∃ id, (outcome next (start s) moves).state.liveAt slot = some id ∧
        (answer = .ok (id, true) ∨ answer = .ok (id, false) ∨
          answer = .error r.mismatch ∧ ∃ j q, .ask j q ∈ moves ∧ .publish j q id ∈ moves ∧
            q.slot = slot ∧ q.connectionType ≠ r.connectionType) := by
  subst hslot
  obtain ⟨id, hregistered, hanswer⟩ := registered_of_returned hlegal h.empty hreturned
    fun error hmem => h.succeeds i r error hmem rfl
  refine ⟨?_, id, liveAt_of_registered hlegal hregistered (h.live id hregistered), hanswer⟩
  rcases progress hlegal h with ⟨-, -, hnone⟩ | ⟨hone, -⟩
  · exact absurd hregistered (hnone id)
  · exact hone

end Smooth

/-- Calls for shared handles, in any number and in any order of their moves. Of the handles that
were ever registered in a place at most one is live, and it is the one that is registered now. At
most one factory runs for a place, and only while the place has no live handle. A call that returns
a handle of others returns the one that was live when it checked, and the calls that return a handle
as their own are those that published it. A call whose factory fails publishes nothing, and the next
call that gets the lock of the place starts its own factory. If no factory fails and nothing is
stopped, one factory runs for a place and its handle stays there. A call is refused this handle only
if it asks for another type of connections than the call that published it, so all calls for one
type get the same handle. -/
theorem one_live_handle_per_place (h : Leads s moves m) :
    (∀ slot id, Registered s moves slot id → (m.state.handle id).stopped = false →
      m.state.liveAt slot = some id) ∧
    (∀ slot i j, (m.phase i).Creates slot → (m.phase j).Creates slot →
      i = j ∧ m.state.liveAt slot = none) ∧
    (∀ before i r, Splits moves before (.start i r) →
      (outcome next (start s) before).state.liveAt r.slot = none) ∧
    (∀ i r id, m.phase i = .returned r (.ok (id, false)) →
      ∃ before, (Splits moves before (.hit i r id) ∨ Splits moves before (.find i r id)) ∧
        (outcome next (start s) before).state.liveAt r.slot = some id) ∧
    (∀ i r id, m.phase i = .looked r (.ok (some id)) →
      ∃ before, Splits moves before (.look i r) ∧
        (outcome next (start s) before).state.liveAt r.slot = some id) ∧
    (∀ i r id, .publish i r id ∈ moves ↔
      m.phase i = .published r id ∨ m.phase i = .returned r (.ok (id, true))) ∧
    (∀ i r error, .fail i r error ∈ moves →
      m.phase i = .returned r (.error error) ∧ ∀ r' id, .publish i r' id ∉ moves) ∧
    (∀ before i r error waits j r' rest,
      moves = before ++ .fail i r error :: (waits ++ .lock j r' :: rest) → r'.slot = r.slot →
      (∀ k q, .lock k q ∈ waits → q.slot ≠ r.slot) →
      m.phase j = .checking r' ∨ .start j r' ∈ rest) ∧
    (∀ slot, Smooth s moves slot m →
      moves.countP (startsIn slot) ≤ 1 ∧
      ∀ i r answer, m.phase i = .returned r answer → r.slot = slot →
        moves.countP (startsIn slot) = 1 ∧ ∃ id, m.state.liveAt slot = some id ∧
          (answer = .ok (id, true) ∨ answer = .ok (id, false) ∨
            answer = .error r.mismatch ∧ ∃ j q, .ask j q ∈ moves ∧ .publish j q id ∈ moves ∧
              q.slot = slot ∧ q.connectionType ≠ r.connectionType)) ∧
    (∀ slot connectionType, Smooth s moves slot m →
      (∀ i r, .ask i r ∈ moves → r.slot = slot → r.connectionType = connectionType) →
      ∀ i r answer, m.phase i = .returned r answer → r.slot = slot →
        ∃ id created, m.state.liveAt slot = some id ∧ answer = .ok (id, created)) := by
  obtain ⟨hlegal, rfl⟩ := h
  refine ⟨fun slot id => liveAt_of_registered hlegal, ?_, ?_, ?_, fun i r id => looked_live hlegal,
    fun i r id => publish_mem_iff hlegal, ?_, ?_, ?_, ?_⟩
  · intro slot i j hi hj
    exact ⟨exclusive_after hlegal (holds_of_creates hi) (holds_of_creates hj),
      liveAt_of_creates hlegal hi⟩
  · intro before i r hsplit
    exact (hsplit.enabled hlegal).2.2
  · intro i r id hreturned
    rcases returned_cases hlegal hreturned with ⟨_, hanswer, -⟩ | ⟨_, hanswer, -⟩ | ⟨id', hfound⟩
    · cases hanswer
    · cases hanswer
    · obtain ⟨before, hsplit, -, hlive, hanswer⟩ := hfound.live hlegal
      rcases r.found_cases (outcome next (start s) before).state id' with hok | ⟨herror, -⟩
      · rw [hok] at hanswer
        cases hanswer
        exact ⟨before, hsplit, hlive⟩
      · rw [herror] at hanswer
        cases hanswer
  · intro i r error hmem
    have hreturned := returned_of_fail_mem hlegal hmem
    refine ⟨hreturned, fun r' id hpublish => ?_⟩
    rcases (publish_mem_iff hlegal).mp hpublish with hphase | hphase
    · cases hreturned.symm.trans hphase
    · cases hreturned.symm.trans hphase
  · rintro before i r error waits j r' rest rfl hslot hwaits
    have hsplit : before ++ .fail i r error :: (waits ++ .lock j r' :: rest) =
        before ++ [.fail i r error] ++ waits ++ [.lock j r'] ++ rest := by
      simp
    rw [hsplit] at hlegal ⊢
    exact start_of_fail hlegal hslot hwaits
  · intro slot hsmooth
    exact ⟨hsmooth.countP_le_one hlegal, fun i r answer => hsmooth.returned hlegal⟩
  · rintro slot connectionType hsmooth hsame i r answer hreturned rfl
    have hasked := ask_mem_of_request? hlegal (congrArg Phase.request? hreturned)
    obtain ⟨-, id, hlive, rfl | rfl | ⟨-, j, q, hask, -, hslot, htype⟩⟩ :=
      hsmooth.returned hlegal hreturned rfl
    · exact ⟨id, true, hlive, rfl⟩
    · exact ⟨id, false, hlive, rfl⟩
    · exact absurd ((hsame j q hask hslot).trans (hsame i r hasked rfl).symm) htype

/-! ## A call alone -/

theorem getOrCreate_of_live {r : SharedRequest} {factory : Action LifecycleError HandleId}
    {id : HandleId} (hlive : s.liveAt r.slot = some id) :
    getOrCreate r.backend r.connectionType r.key factory s = (r.found s id, s) := by
  have hlive' : s.live? r.backend r.key = some id := hlive
  unfold getOrCreate SharedRequest.found ofType
  simp only [Action.run_bind, Action.run_get, hlive']
  by_cases htype : (s.handle id).connectionType = r.connectionType
  · rw [if_pos htype]
    rfl
  · rw [if_neg htype]
    rfl

theorem getOrCreate_of_none {r : SharedRequest} {factory : Action LifecycleError HandleId}
    (hnone : s.liveAt r.slot = none) :
    getOrCreate r.backend r.connectionType r.key factory s = match factory s with
      | (.ok id, s') => (.ok (id, true), (Move.publish 0 r id).effect s')
      | (.error error, s') => (.error error, s') := by
  have hnone' : s.live? r.backend r.key = none := hnone
  unfold getOrCreate
  simp only [Action.run_bind, Action.run_get, hnone']
  rcases factory s with ⟨_ | id, s'⟩ <;> rfl

/-- The moves of a call that is left alone. -/
def alone (i : Nat) (r : SharedRequest) (factory : Action LifecycleError HandleId) (s : State) :
    List Move :=
  match s.liveAt r.slot with
  | some id => [.ask i r, .hit i r id]
  | none =>
    match factory s with
    | (.ok id, s') => [.ask i r, .miss i r, .lock i r, .start i r, .work s', .make i r id,
        .publish i r id, .leave i r id]
    | (.error error, s') => [.ask i r, .miss i r, .lock i r, .start i r, .work s', .fail i r error]

/-- A factory of a request does nothing but harmless work, and what it makes is of the type that the
request asks for. -/
def Serves (factory : Action LifecycleError HandleId) (r : SharedRequest) : Prop :=
  ∀ s, factory.Yields s fun answer s' => Harmless s s' ∧ ∀ id, answer = .ok id → s'.Fits r id

/-- If nobody has the lock of its place, a call that is left alone does what a request to the
registry does in one go. -/
theorem getOrCreate_leads {i : Nat} {r : SharedRequest} {factory : Action LifecycleError HandleId}
    (hidle : m.phase i = .idle) (hfree : ∀ j, ¬ (m.phase j).Holds r.slot)
    (hserves : Serves factory r) :
    m.Legal (alone i r factory m.state) ∧
      (outcome next m (alone i r factory m.state)).state =
        (getOrCreate r.backend r.connectionType r.key factory m.state).2 ∧
      (outcome next m (alone i r factory m.state)).phase i =
        .returned r (getOrCreate r.backend r.connectionType r.key factory m.state).1 := by
  have hasked : (m.next (.ask i r)).phase i = .asked r := phase_next_of_turn rfl
  unfold alone
  cases hlive : m.state.liveAt r.slot with
  | some id =>
      rw [getOrCreate_of_live hlive]
      refine ⟨?_, rfl, phase_next_of_turn rfl⟩
      exact .cons hidle (.cons ⟨hasked, hlive⟩ (legal_nil _))
  | none =>
      rw [getOrCreate_of_none hlive]
      let waiting := (m.next (.ask i r)).next (.miss i r)
      have hwaiting : waiting.phase i = .waiting r := phase_next_of_turn rfl
      have hvacant₀ : Vacant r.slot (m.next (.ask i r)) :=
        Vacant.step ⟨hlive, hfree⟩ hidle (by rintro j r' ⟨⟩)
      have hvacant : Vacant r.slot waiting := hvacant₀.step ⟨hasked, hlive⟩ (by rintro j r' ⟨⟩)
      let making := (waiting.next (.lock i r)).next (.start i r)
      have hchecking : (waiting.next (.lock i r)).phase i = .checking r := phase_next_of_turn rfl
      have hmaking : making.phase i = .making r := phase_next_of_turn rfl
      have hwork := hserves m.state
      unfold Action.Yields at hwork
      rcases hrun : factory m.state with ⟨error | id, s'⟩
      · rw [hrun] at hwork
        have hworked : (making.next (.work s')).phase i = .making r := hmaking
        refine ⟨?_, rfl, phase_next_of_turn rfl⟩
        exact .cons hidle (.cons ⟨hasked, hlive⟩ (.cons ⟨hwaiting, hvacant.2⟩
          (.cons ⟨hchecking, hlive⟩ (.cons hwork.1 (.cons hworked (legal_nil _))))))
      · rw [hrun] at hwork
        have hworked : (making.next (.work s')).phase i = .making r := hmaking
        let made := (making.next (.work s')).next (.make i r id)
        have hphase : made.phase i = .made r id := phase_next_of_turn rfl
        have hpublished : (made.next (.publish i r id)).phase i = .published r id :=
          phase_next_of_turn rfl
        refine ⟨?_, rfl, phase_next_of_turn rfl⟩
        exact .cons hidle (.cons ⟨hasked, hlive⟩ (.cons ⟨hwaiting, hvacant.2⟩
          (.cons ⟨hchecking, hlive⟩ (.cons hwork.1 (.cons ⟨hworked, hwork.2 id rfl⟩
            (.cons hphase (.cons hpublished (legal_nil _))))))))

/-- What is done to make an instance for a node is work that a factory may do, and the instance has
the type of connections of its backend. -/
theorem provision_serves (backend : Backend) (node : ScopeNode) (key : ResourceKey)
    {r : SharedRequest} (htype : backend.connectionType = r.connectionType) :
    Serves (provision backend node key) r := by
  intro s
  have hprovided := provision_provisioned backend node key s
  refine ⟨⟨hprovided.size_le, fun hid => ?_, fun id hstopped => ?_, hprovided.registry⟩,
    fun id heq => ?_⟩
  · rw [hprovided.handle_eq hid]
  · -- a stopped handle is there, so it is not the new one
    have hid : id < s.handles.size := by
      by_contra hsize
      rw [s.handle_of_size_le (Nat.le_of_not_lt hsize)] at hstopped
      cases hstopped
    rw [hprovided.handle_eq hid, hstopped]
  · obtain ⟨index, connection, hhandle⟩ := provision_handleOf backend node key s id heq
    have hmade : Provisioned s (.ok id) (provision backend node key s).2 := heq ▸ hprovided
    obtain ⟨rfl, hsize, -⟩ := hmade.made
    refine ⟨?_, ?_⟩
    · rw [hsize]
      exact Nat.lt_succ_self _
    · rw [hhandle]
      exact htype

/-! ## Two rivals and a late call -/

/-- The request of all three calls. -/
def rivalRequest : SharedRequest where
  backend := "MEMORY"
  key := { image := "memory:1" }
  connectionType := "MemoryConnection"

def rivalFactory : Action LifecycleError HandleId :=
  provision (Backend.memory "MemoryConnection") (ScopeNode.root "run") rivalRequest.key

theorem rivalFactory_serves : Serves rivalFactory rivalRequest :=
  provision_serves _ _ _ rfl

/-- The state after the factory of the one rival. -/
def rivalMade : State :=
  (rivalFactory (.initial {} {} [])).2

/-- Both rivals miss at their first check; the one that gets the lock first makes the handle, and
the other one finds it when it gets the lock. -/
def rivalMoves : List Move :=
  [.ask 0 rivalRequest, .ask 1 rivalRequest, .miss 0 rivalRequest, .miss 1 rivalRequest,
    .lock 0 rivalRequest, .start 0 rivalRequest, .work rivalMade, .make 0 rivalRequest 0,
    .publish 0 rivalRequest 0, .leave 0 rivalRequest 0, .lock 1 rivalRequest,
    .find 1 rivalRequest 0]

theorem rivalMoves_legal : (start (.initial {} {} [])).Legal rivalMoves := by
  have hwork := rivalFactory_serves (.initial {} {} [])
  have hfits : rivalMade.Fits rivalRequest 0 := hwork.2 0 (by decide +kernel)
  refine .cons rfl (.cons rfl (.cons ⟨rfl, rfl⟩ (.cons ⟨rfl, rfl⟩ (.cons ⟨rfl, ?_⟩
    (.cons ⟨rfl, rfl⟩ (.cons hwork.1 (.cons ⟨rfl, hfits⟩ (.cons rfl (.cons rfl
    (.cons ⟨rfl, ?_⟩ (.cons ⟨rfl, by decide +kernel⟩ (legal_nil _))))))))))))
  · rintro (_ | _ | j) <;> exact not_false
  · rintro (_ | _ | j) <;> exact not_false

/-- What is shared when both rivals have their answers. -/
def rivalled : Sharing :=
  outcome next (start (.initial {} {} [])) rivalMoves

/-- A third call comes when the rivals are gone. -/
def lateMoves : List Move :=
  alone 2 rivalRequest rivalFactory rivalled.state

theorem rivalled_live : rivalled.state.liveAt rivalRequest.slot = some 0 := by
  decide +kernel

theorem lateMoves_eq : lateMoves = [.ask 2 rivalRequest, .hit 2 rivalRequest 0] := by
  rw [lateMoves, alone, rivalled_live]

/-- One factory runs, and all three calls get the handle that it made. -/
theorem rivals_share_one_handle :
    ∃ m, Leads (.initial {} {} []) (rivalMoves ++ lateMoves) m ∧
      (rivalMoves ++ lateMoves).countP (startsIn rivalRequest.slot) = 1 ∧
      ∃ id, m.state.liveAt rivalRequest.slot = some id ∧
        m.phase 0 = .returned rivalRequest (.ok (id, true)) ∧
        m.phase 1 = .returned rivalRequest (.ok (id, false)) ∧
        m.phase 2 = .returned rivalRequest (.ok (id, false)) := by
  have hvacant : ∀ j, ¬ (rivalled.phase j).Holds rivalRequest.slot := by
    rintro (_ | _ | j) <;> exact not_false
  obtain ⟨hlate, -, hanswer⟩ :=
    getOrCreate_leads (m := rivalled) (i := 2) rfl hvacant rivalFactory_serves
  have hleads : Leads (.initial {} {} []) (rivalMoves ++ lateMoves)
      (outcome next rivalled lateMoves) :=
    ⟨rivalMoves_legal.append hlate, (outcome_append ..).symm⟩
  have hregistered : ∀ id, Registered (.initial {} {} []) (rivalMoves ++ lateMoves)
      rivalRequest.slot id → id = 0 := by
    rintro id (hfound | ⟨i, r, hmem, -⟩)
    · cases hfound
    · simp only [lateMoves_eq, rivalMoves, List.mem_append, List.mem_cons, List.not_mem_nil,
        reduceCtorEq, false_or, or_false] at hmem
      cases hmem
      rfl
  have hsmooth : Smooth (.initial {} {} []) (rivalMoves ++ lateMoves) rivalRequest.slot
      (outcome next rivalled lateMoves) := by
    refine ⟨rfl, ?_, fun id h => ?_⟩
    · simp [lateMoves_eq, rivalMoves]
    · obtain rfl := hregistered id h
      rw [lateMoves_eq]
      decide +kernel
  have hsame : ∀ i r, .ask i r ∈ rivalMoves ++ lateMoves → r.slot = rivalRequest.slot →
      r.connectionType = "MemoryConnection" := by
    intro i r hmem _
    simp only [lateMoves_eq, rivalMoves, List.mem_append, List.mem_cons, List.not_mem_nil,
      reduceCtorEq, or_false] at hmem
    rcases hmem with (hmem | hmem) | hmem <;> cases hmem <;> rfl
  have htype : (rivalled.state.handle 0).connectionType = rivalRequest.connectionType := by
    decide +kernel
  rw [getOrCreate_of_live rivalled_live, SharedRequest.found_eq, if_pos htype] at hanswer
  have hphase : (outcome next rivalled lateMoves).phase 0 = .returned rivalRequest (.ok (0, true)) ∧
      (outcome next rivalled lateMoves).phase 1 = .returned rivalRequest (.ok (0, false)) := by
    rw [lateMoves_eq]
    exact ⟨rfl, rfl⟩
  obtain ⟨-, -, -, -, -, -, -, -, honce, hshared⟩ := one_live_handle_per_place hleads
  obtain ⟨hcount, -⟩ := (honce _ hsmooth).2 0 rivalRequest _ hphase.1 rfl
  obtain ⟨id, created, hlive, hid⟩ := hshared _ _ hsmooth hsame 0 rivalRequest _ hphase.1 rfl
  cases hid
  exact ⟨_, hleads, hcount, 0, hlive, hphase.1, hphase.2, hanswer⟩

end Sharing

end ScopedResources.Lifecycle
