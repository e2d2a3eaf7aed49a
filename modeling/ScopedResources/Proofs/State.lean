import ScopedResources.Proofs.Action

/-!
# Reading the state after a change

Containers are told apart by their server and their index there. The journal tells how often a
container was told to start and to stop and how often a handle was closed; what a change of the
state does to these numbers, to the handles and to the servers is said here once. -/

namespace ScopedResources.Lifecycle

/-- A container, by the name of its server and its index there. -/
abbrev ContainerId := String × Nat

/-- The container behind a handle, unless the instance is managed elsewhere. -/
def Handle.container? (handle : Handle) : Option ContainerId :=
  match handle.origin with
  | .container index => some (handle.server, index)
  | .external => none

namespace Event

/-- Whether a container was told to start. -/
def starts (box : ContainerId) : Event → Bool
  | .startAsked server index => (server, index) = box
  | _ => false

/-- Whether a container was told to stop. -/
def stops (box : ContainerId) : Event → Bool
  | .stopAsked server index => (server, index) = box
  | _ => false

/-- Whether the connection of a handle was closed. -/
def closes (id : HandleId) : Event → Bool
  | .closed handle => handle = id
  | _ => false

end Event

namespace State

/-- How often a container was told to start. -/
def starts (s : State) (box : ContainerId) : Nat :=
  s.journal.countP (·.starts box)

/-- How often a container was told to stop. -/
def stops (s : State) (box : ContainerId) : Nat :=
  s.journal.countP (·.stops box)

/-- How often a handle was closed, which is done when it is stopped. -/
def closings (s : State) (id : HandleId) : Nat :=
  s.journal.countP (·.closes id)

/-- Whether a container was created. -/
def Created (s : State) (box : ContainerId) : Prop :=
  box.2 < (s.server box.1).containers.size

instance (s : State) (box : ContainerId) : Decidable (s.Created box) :=
  inferInstanceAs (Decidable (_ < _))

variable (s : State)

theorem handle_modifyHandle (id other : HandleId) (change : Handle → Handle) :
    (s.modifyHandle id change).handle other =
      if id = other ∧ other < s.handles.size then change (s.handle other) else s.handle other := by
  simp only [handle, modifyHandle, Array.getD_eq_getD_getElem?, Array.getElem?_modify]
  by_cases hid : id = other
  · by_cases hsize : other < s.handles.size <;> simp [hid, hsize]
  · simp [hid]

theorem size_modifyHandle (id : HandleId) (change : Handle → Handle) :
    (s.modifyHandle id change).handles.size = s.handles.size :=
  Array.size_modify

theorem handle_of_size_le {id : HandleId} (h : s.handles.size ≤ id) : s.handle id = default := by
  simp [handle, Array.getD_eq_getD_getElem?, h]

theorem server_setServer (name other : String) (server : Memory.Server) :
    (s.setServer name server).server other = if name = other then server else s.server other := by
  simp only [State.server, setServer, Assoc.find?_insert]
  split <;> rfl

theorem handle_push (handle : Handle) (id : HandleId) :
    ({ s with handles := s.handles.push handle } : State).handle id =
      if id = s.handles.size then handle else s.handle id := by
  simp only [State.handle, Array.getD_eq_getD_getElem?, Array.getElem?_push]
  split <;> rfl

theorem starts_note (event : Event) (box : ContainerId) :
    (note event s).2.starts box = s.starts box + if event.starts box then 1 else 0 := by
  change List.countP _ (s.journal ++ [event]) = _
  simp [starts, List.countP_append]

theorem stops_note (event : Event) (box : ContainerId) :
    (note event s).2.stops box = s.stops box + if event.stops box then 1 else 0 := by
  change List.countP _ (s.journal ++ [event]) = _
  simp [stops, List.countP_append]

theorem closings_note (event : Event) (id : HandleId) :
    (note event s).2.closings id = s.closings id + if event.closes id then 1 else 0 := by
  change List.countP _ (s.journal ++ [event]) = _
  simp [closings, List.countP_append]

end State

end ScopedResources.Lifecycle
