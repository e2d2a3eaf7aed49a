import ScopedResources.Proofs.Confined
import ScopedResources.Proofs.ServerTasks

/-!
# Stopping a row of handles

Whether a handle stops is up to the faults of its container, which nothing changes while other
handles are stopped. So what shutting down comes to can be read off the state before it: every
handle that is live then is closed once, and the failures are those that stopping each of them alone
would give. -/

namespace ScopedResources.Lifecycle

variable {s s' s'' : State} {id other : HandleId} {ids rest : List HandleId}

/-! ## Stopping one handle -/

/-- Both servers have containers with the same faults. -/
def SameFaults (server next : Memory.Server) : Prop :=
  ∀ index : Nat, next.containers[index]?.map Memory.Container.faults =
    server.containers[index]?.map Memory.Container.faults

theorem SameFaults.size_eq {server next : Memory.Server} (h : SameFaults server next) :
    next.containers.size = server.containers.size := by
  have hout : ∀ index, next.containers.size ≤ index ↔ server.containers.size ≤ index := by
    intro index
    rw [← Array.getElem?_eq_none_iff, ← Array.getElem?_eq_none_iff,
      ← Option.map_eq_none_iff (f := Memory.Container.faults), h index, Option.map_eq_none_iff]
  exact le_antisymm ((hout _).mpr le_rfl) ((hout _).mp le_rfl)

theorem setRunning_sameFaults (index : Nat) (running : Bool) (server : Memory.Server) :
    SameFaults server (Memory.setRunning index running server) :=
  Memory.map_setRunning (fun _ _ => rfl) index running server

theorem stop_sameFaults (index : Nat) (server : Memory.Server) :
    SameFaults server (Memory.stop index server).2 := by
  rcases Memory.stop_server index server with hsame | hmarked
  · rw [hsame]
    exact fun _ => rfl
  · rw [hmarked]
    exact setRunning_sameFaults index false server

/-- Only the faults of a container decide whether it stops. -/
theorem stop_congr {server next : Memory.Server} (h : SameFaults server next) (index : Nat) :
    (Memory.stop index next).1 = (Memory.stop index server).1 := by
  have hindex := h index
  cases hfound : server.containers[index]? with
  | none =>
      rw [hfound, Option.map_none, Option.map_eq_none_iff] at hindex
      rw [Memory.stop_of_none hfound, Memory.stop_of_none hindex]
  | some found =>
      rw [hfound, Option.map_some, Option.map_eq_some_iff] at hindex
      obtain ⟨found', hfound', hfaults⟩ := hindex
      rw [Memory.stop_of_some hfound, Memory.stop_of_some hfound', hfaults]
      split
      · rfl
      · split <;> rfl

/-- Why stopping a handle would fail, if it would. -/
def State.stopFault? (s : State) (id : HandleId) : Option ContainerError :=
  match (stopHandle id s).1 with
  | .ok _ => none
  | .error error => some error

/-- Servers have containers with the same faults in both states. -/
def FaultsKept (s s' : State) : Prop :=
  ∀ name, SameFaults (s.server name) (s'.server name)

theorem FaultsKept.trans (h : FaultsKept s s') (h' : FaultsKept s' s'') : FaultsKept s s'' :=
  fun name index => (h' name index).trans (h name index)

theorem stopHandle_faultsKept (id : HandleId) : Action.Leaves FaultsKept (stopHandle id) := by
  intro s
  cases hstopped : (s.handle id).stopped with
  | true =>
      rw [stopHandle_of_stopped hstopped]
      exact fun _ _ => rfl
  | false =>
      rw [stopHandle_of_live hstopped]
      cases (s.handle id).origin with
      | external => exact fun _ _ => rfl
      | container index =>
          intro other
          change SameFaults _ ((s.setServer (s.handle id).server
            (Memory.stop index (s.server (s.handle id).server)).2).server other)
          rw [State.server_setServer]
          split
          next hname => exact hname ▸ stop_sameFaults index _
          next => exact fun _ => rfl

theorem stopFault?_congr (hhandle : s'.handle id = s.handle id) (hfaults : FaultsKept s s') :
    s'.stopFault? id = s.stopFault? id := by
  suffices hresult : (stopHandle id s').1 = (stopHandle id s).1 by
    unfold State.stopFault?
    rw [hresult]
  cases hstopped : (s.handle id).stopped with
  | true => rw [stopHandle_of_stopped hstopped, stopHandle_of_stopped (hhandle ▸ hstopped)]
  | false =>
      rw [stopHandle_of_live hstopped, stopHandle_of_live (hhandle ▸ hstopped), hhandle]
      cases (s.handle id).origin with
      | external => rfl
      | container index => exact stop_congr (hfaults _) index

/-! ## Stopping all -/

/-- The handles of a row that are live. -/
def State.liveOf (s : State) (ids : List HandleId) : List HandleId :=
  ids.filter fun id => !(s.handle id).stopped

/-- Why handles would not stop, with their keys. -/
def State.stopFailures (s : State) (ids : List HandleId) : List (ResourceKey × ContainerError) :=
  ids.filterMap fun id => (s.stopFault? id).map ((s.handle id).key, ·)

/-- How many handles would stop. -/
def State.stoppable (s : State) (ids : List HandleId) : Nat :=
  ids.countP fun id => (s.stopFault? id).isNone

/-- What stopping the live handles of a row comes to, with what was reported before. -/
structure Swept (ids : List HandleId) (report : Report) (s : State) (report' : Report)
    (s' : State) : Prop where
  stopped : report'.stopped = report.stopped + s.stoppable (s.liveOf ids)
  failures : report'.failures = report.failures ++ s.stopFailures (s.liveOf ids)
  closings : ∀ id, s'.closings id = s.closings id + if id ∈ s.liveOf ids then 1 else 0
  halted : ∀ id ∈ s.liveOf ids, (s'.handle id).stopped = true
  other : ∀ id ∉ s.liveOf ids, s'.handle id = s.handle id
  size : s'.handles.size = s.handles.size

theorem liveOf_congr (h : ∀ id ∈ ids, s'.handle id = s.handle id) : s'.liveOf ids = s.liveOf ids :=
  List.filter_congr fun id hid => by rw [h id hid]

theorem stopFailures_congr (h : ∀ id ∈ ids, s'.handle id = s.handle id)
    (hfaults : FaultsKept s s') : s'.stopFailures ids = s.stopFailures ids :=
  List.filterMap_congr fun id hid => by rw [h id hid, stopFault?_congr (h id hid) hfaults]

theorem stoppable_congr (h : ∀ id ∈ ids, s'.handle id = s.handle id) (hfaults : FaultsKept s s') :
    s'.stoppable ids = s.stoppable ids :=
  List.countP_congr fun id hid => by rw [stopFault?_congr (h id hid) hfaults]

/-- Every live handle either stops or fails to. -/
theorem stoppable_add_length (s : State) (ids : List HandleId) :
    s.stoppable ids + (s.stopFailures ids).length = ids.length := by
  induction ids with
  | nil => rfl
  | cons id rest ih =>
      unfold State.stoppable State.stopFailures at *
      cases hfault : s.stopFault? id with
      | none =>
          simp only [List.countP_cons, List.filterMap_cons, hfault, Option.isNone_none, if_true,
            Option.map_none, List.length_cons]
          omega
      | some error =>
          simp only [List.countP_cons, List.filterMap_cons, hfault, Option.isNone_some,
            Option.map_some, List.length_cons, Bool.false_eq_true, if_false]
          omega

theorem shutdownOne_of_ok (report : Report) (hlive : (s.handle id).stopped = false)
    (hstop : stopHandle id s = (.ok (), s')) :
    shutdownOne report id s = ({ report with stopped := report.stopped + 1 }, s') := by
  have hnot : ¬ (s.handle id).stopped = true := by simp [hlive]
  refine (congrFun (if_neg hnot) s).trans ?_
  rw [Action.step_bind, hstop]
  rfl

theorem shutdownOne_of_error {error : ContainerError} (report : Report)
    (hlive : (s.handle id).stopped = false) (hstop : stopHandle id s = (.error error, s')) :
    shutdownOne report id s =
      ({ report with failures := report.failures ++ [((s.handle id).key, error)] },
        (note (.warned (.sharedStopFailed (s.handle id).key error)) s').2) := by
  have hnot : ¬ (s.handle id).stopped = true := by simp [hlive]
  refine (congrFun (if_neg hnot) s).trans ?_
  rw [Action.step_bind, hstop]
  rfl

/-- Shutting down one live handle: it is closed, and counted or reported. -/
theorem shutdownOne_swept (hid : id < s.handles.size) (hlive : (s.handle id).stopped = false)
    (report : Report) :
    Swept [id] report s (shutdownOne report id s).1 (shutdownOne report id s).2 ∧
      FaultsKept s (shutdownOne report id s).2 := by
  have hs := stopHandle_stopping hid hlive
  have hfaults := stopHandle_faultsKept id s
  have hliveOf : s.liveOf [id] = [id] := by simp [State.liveOf, hlive]
  have hhalted : ∀ other ∈ s.liveOf [id], ((stopHandle id s).2.handle other).stopped = true := by
    intro other hother
    rw [hliveOf, List.mem_singleton] at hother
    rw [hother, hs.stopped]
  have hother : ∀ other ∉ s.liveOf [id], (stopHandle id s).2.handle other = s.handle other := by
    intro other hnot
    rw [hliveOf, List.mem_singleton] at hnot
    exact hs.other hnot
  rcases hstop : stopHandle id s with ⟨error | _, s'⟩
  · have hfault : s.stopFault? id = some error := by rw [State.stopFault?, hstop]
    rw [shutdownOne_of_error report hlive hstop]
    rw [hstop] at hs hfaults hhalted hother
    refine ⟨⟨?_, ?_, ?_, hhalted, hother, hs.size⟩, fun name => hfaults name⟩
    · simp [State.stoppable, hliveOf, hfault]
    · simp [State.stopFailures, hliveOf, hfault]
    · intro other
      rw [State.closings_note, hliveOf, hs.closings]
      simp [Event.closes]
  · have hfault : s.stopFault? id = none := by rw [State.stopFault?, hstop]
    rw [shutdownOne_of_ok report hlive hstop]
    rw [hstop] at hs hfaults hhalted hother
    refine ⟨⟨?_, ?_, ?_, hhalted, hother, hs.size⟩, hfaults⟩
    · simp [State.stoppable, hliveOf, hfault]
    · simp [State.stopFailures, hliveOf, hfault]
    · intro other
      rw [hliveOf, hs.closings]
      simp

/-- Every live handle of a row is stopped in its turn, whatever became of the ones before it. -/
theorem shutdownAll_swept (hnodup : ids.Nodup) (hknown : ∀ id ∈ ids, id < s.handles.size)
    (report : Report) :
    Swept ids report s (ids.foldlM shutdownOne report s).1 (ids.foldlM shutdownOne report s).2 := by
  induction ids generalizing report s with
  | nil =>
      refine ⟨rfl, (List.append_nil _).symm, fun id => ?_, fun id hid => ?_, fun _ _ => rfl, rfl⟩
      · change s.closings id = _
        simp [State.liveOf]
      · cases hid
  | cons id rest ih =>
      rw [List.nodup_cons] at hnodup
      rw [List.forall_mem_cons] at hknown
      rw [List.foldlM_cons, Action.step_bind]
      cases hstopped : (s.handle id).stopped with
      | true =>
          have hliveOf : s.liveOf (id :: rest) = s.liveOf rest := by simp [State.liveOf, hstopped]
          rw [shutdownOne_of_stopped report hstopped]
          obtain ⟨hcount, hfailures, hclosings, hhalted, hother, hsize⟩ :=
            ih hnodup.2 hknown.2 report
          rw [← hliveOf] at hcount hfailures hclosings hhalted hother
          exact ⟨hcount, hfailures, hclosings, hhalted, hother, hsize⟩
      | false =>
          obtain ⟨hone, hfaults⟩ := shutdownOne_swept hknown.1 hstopped report
          generalize (shutdownOne report id s).1 = report₁ at *
          generalize (shutdownOne report id s).2 = s₁ at *
          obtain ⟨hcount, hfailures, hclosings, hhalted, hother, hsize⟩ :=
            ih hnodup.2 (fun other hmem => hone.size.symm ▸ hknown.2 other hmem) report₁
          have hfirst : s.liveOf [id] = [id] := by simp [State.liveOf, hstopped]
          have hliveOf : s.liveOf (id :: rest) = id :: s.liveOf rest := by
            simp [State.liveOf, hstopped]
          have hnot : id ∉ s.liveOf rest := fun hmem => hnodup.1 (List.mem_filter.mp hmem).1
          -- what comes later is as it was before the first one was stopped
          have hsame : ∀ other ∈ rest, s₁.handle other = s.handle other := by
            refine fun other hmem => hone.other other ?_
            rw [hfirst, List.mem_singleton]
            rintro rfl
            exact hnodup.1 hmem
          have hlater : ∀ other ∈ s.liveOf rest, s₁.handle other = s.handle other :=
            fun other hmem => hsame other (List.mem_filter.mp hmem).1
          rw [liveOf_congr hsame] at hcount hfailures hclosings hhalted hother
          refine ⟨?_, ?_, ?_, ?_, ?_, hsize.trans hone.size⟩
          · rw [hcount, hone.stopped, stoppable_congr hlater hfaults, hliveOf, hfirst,
              Nat.add_assoc, State.stoppable, State.stoppable, ← List.countP_append]
            rfl
          · rw [hfailures, hone.failures, stopFailures_congr hlater hfaults, hliveOf, hfirst,
              List.append_assoc, State.stopFailures, State.stopFailures, ← List.filterMap_append]
            rfl
          · intro other
            rw [hclosings, hone.closings, hfirst, hliveOf]
            by_cases hother : other = id
            · simp [hother, hnot]
            · simp [hother]
          · rw [hliveOf]
            refine List.forall_mem_cons.mpr ⟨?_, hhalted⟩
            rw [hother id hnot]
            exact hone.halted id (hfirst.symm ▸ List.mem_singleton_self _)
          · intro other hout
            rw [hliveOf, List.mem_cons, not_or] at hout
            rw [hother other hout.2]
            refine hone.other other ?_
            rw [hfirst, List.mem_singleton]
            exact hout.1

/-- Shutting down stops what is registered and live. -/
theorem shutdown_swept (hnodup : (s.registry.map Prod.snd).Nodup)
    (hknown : ∀ id ∈ s.registry.map Prod.snd, id < s.handles.size) :
    Swept (s.registry.map Prod.snd) {} s (shutdown s).1 (shutdown s).2 := by
  have hswept := shutdownAll_swept (s := { s with registry := [] }) hnodup hknown {}
  exact
    { stopped := hswept.stopped.trans
        (congrArg _ (stoppable_congr (fun _ _ => rfl) fun _ _ => rfl))
      failures := hswept.failures.trans
        (congrArg _ (stopFailures_congr (fun _ _ => rfl) fun _ _ => rfl))
      closings := hswept.closings
      halted := hswept.halted
      other := hswept.other
      size := hswept.size }

theorem shutdown_registry (s : State) : (shutdown s).2.registry = [] :=
  @shutdownAll_leaves (fun s s' => s'.registry = s.registry) (fun _ => rfl)
    (fun h h' => h'.trans h) (fun id report s => (shutdownOne_confined report id s).registry) _ _ _

theorem shutdown_of_nil (h : s.registry = []) : shutdown s = ({}, s) := by
  obtain ⟨⟩ := s
  cases h
  rfl

end ScopedResources.Lifecycle
