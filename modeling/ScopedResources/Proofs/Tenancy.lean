import ScopedResources.Proofs.ClassHooks
import ScopedResources.Proofs.Trace

/-!
# Classes on a shared instance

Many classes rely on the same migrations of one shared instance. Their before-hooks and after-hooks
run at the same time, and every access of a hook to what is shared is a move of its own: other hooks
may move between any two of them. The count of the holders is read and written under the lock of the
instance, which calls get in the order in which they ask for it. Under the lock the migrations are
applied when nobody holds them and dropped when the last holder leaves, and both may fail. The lock
of a class lets one before-hook at a time into the class; after-hooks do not ask for it.
-/

namespace ScopedResources.Lifecycle

/-- A set of migrations on a shared instance, and the classes that rely on it, by their numbers. -/
structure Schema where
  /-- The key of the bindings of these classes. -/
  key : String × String
  handle : HandleId
  set : MigrationSet
  tenant : Nat → Prop

namespace Schema

variable (t : Schema)

/-- The number of holders that is stored with the instance. -/
def stored (s : State) : Option Nat :=
  Assoc.find? t.set (s.handle t.handle).holders

def store (count : Nat) (s : State) : State :=
  s.modifyHandle t.handle fun handle =>
    { handle with holders := Assoc.insert t.set count handle.holders }

def forget (s : State) : State :=
  s.modifyHandle t.handle fun handle =>
    { handle with holders := Assoc.erase t.set handle.holders }

/-- What the class with a number is bound to. -/
def bound? (s : State) (number : Nat) : Option Binding :=
  Assoc.find? (number, t.key) s.bindings.entries

/-- A declaration of the schema: applied and dropped once for every class. -/
def Pledged (decl : Declaration) : Prop :=
  decl.mode ≠ .testMethod ∧ migrationSet decl.migration = t.set ∧
    decl.migration.appliesAt .perClass = true ∧ decl.migration.dropsAt .perClass = true

/-- Whatever else happens leaves the holders of the schema and the bindings of its classes alone. -/
structure Spares (s s' : State) : Prop where
  size : s.handles.size ≤ s'.handles.size
  stored : t.stored s' = t.stored s
  bound? : ∀ {number}, t.tenant number → t.bound? s' number = t.bound? s number

variable {t} {s s' : State}

theorem lt_size_of_stored {count : Nat} (h : t.stored s = some count) :
    t.handle < s.handles.size := by
  by_contra hsize
  have hdefault := s.handle_of_size_le (Nat.le_of_not_lt hsize)
  rw [stored, hdefault] at h
  cases h

theorem stored_store (h : t.handle < s.handles.size) (count : Nat) :
    t.stored (t.store count s) = some count := by
  unfold stored store
  rw [State.handle_modifyHandle, if_pos ⟨rfl, h⟩]
  simp [Assoc.find?_insert]

theorem stored_forget (h : t.handle < s.handles.size) : t.stored (t.forget s) = none := by
  unfold stored forget
  rw [State.handle_modifyHandle, if_pos ⟨rfl, h⟩]
  simp [Assoc.find?_erase]

theorem size_store (count : Nat) (s : State) :
    (t.store count s).handles.size = s.handles.size :=
  s.size_modifyHandle ..

theorem size_forget (s : State) : (t.forget s).handles.size = s.handles.size :=
  s.size_modifyHandle ..

theorem spares_of_undisturbed (t : Schema) (h : Undisturbed s s') : t.Spares s s' where
  size := h.size
  stored := by rw [stored, stored, h.holders]
  bound? _ := by rw [Schema.bound?, Schema.bound?, h.bindings]

end Schema

/-- A class of the schema, and the coordinator that calls its hooks. -/
structure Visit (t : Schema) where
  coordinator : Coordinator
  node : ScopeNode
  key_eq : coordinator.bindingKey = t.key
  kind_eq : node.kind = .testClass
  tenant : t.tenant node.number

namespace Visit

variable {t : Schema}

def number (v : Visit t) : Nat :=
  v.node.number

theorem binding?_eq (v : Visit t) (s : State) :
    v.coordinator.binding? s v.node = t.bound? s v.number := by
  rw [Schema.bound?, ← v.key_eq]
  rfl

/-- The state after the class is bound to the shared instance. -/
def bind (v : Visit t) (s : State) : State :=
  (v.coordinator.bind v.node ⟨t.handle, .shared⟩ s).2

/-- The state after the class is marked as closed. -/
def mark (v : Visit t) (s : State) : State :=
  { s with finished := s.finished.put v.node v.coordinator.backend.name () }

/-- The state after the binding of the class is taken away. -/
def unbind (v : Visit t) (s : State) : State :=
  { s with bindings := s.bindings.remove v.node v.coordinator.bindingKey }

/-- The state after the class is closed. -/
def close (v : Visit t) (s : State) : State :=
  (v.coordinator.close v.node s).2

theorem close_eq (v : Visit t) (s : State) : v.close s = v.unbind (v.mark s) := rfl

theorem takeUp_spares (v : Visit t) (s : State) :
    t.Spares s (v.coordinator.takeUp v.node s).2 :=
  t.spares_of_undisturbed (v.coordinator.takeUp_undisturbed v.node s)

theorem bound?_bind (v : Visit t) (s : State) (number : Nat) :
    t.bound? (v.bind s) number =
      if v.number = number then some ⟨t.handle, .shared⟩ else t.bound? s number := by
  have hkey : (v.number, v.coordinator.bindingKey) = (number, t.key) ↔ v.number = number := by
    rw [v.key_eq, Prod.mk.injEq, and_iff_left rfl]
  refine (Assoc.find?_insert ..).trans ?_
  by_cases hnumber : v.number = number
  · rw [if_pos hnumber]
    exact if_pos (hkey.mpr hnumber)
  · rw [if_neg hnumber]
    exact if_neg (mt hkey.mp hnumber)

theorem bound?_unbind (v : Visit t) (s : State) (number : Nat) :
    t.bound? (v.unbind s) number = if v.number = number then none else t.bound? s number := by
  have hkey : (v.number, v.coordinator.bindingKey) = (number, t.key) ↔ v.number = number := by
    rw [v.key_eq, Prod.mk.injEq, and_iff_left rfl]
  refine (Assoc.find?_erase ..).trans ?_
  by_cases hnumber : v.number = number
  · rw [if_pos hnumber]
    exact if_pos (hkey.mpr hnumber)
  · rw [if_neg hnumber]
    exact if_neg (mt hkey.mp hnumber)

theorem bound?_close (v : Visit t) (s : State) (number : Nat) :
    t.bound? (v.close s) number = if v.number = number then none else t.bound? s number := by
  rw [v.close_eq]
  exact v.bound?_unbind (v.mark s) number

end Visit

namespace Tenancy

/-- How far a call has come. -/
inductive Phase (t : Schema) where
  | idle
  /-- A before-hook has found its class open and waits for the lock of the class. -/
  | opening (v : Visit t)
  /-- A before-hook has the lock of its class, which it has found unbound. -/
  | entered (v : Visit t)
  /-- A before-hook waits for the lock of the instance. -/
  | acquiring (v : Visit t)
  | applying (v : Visit t)
  | acquired (v : Visit t)
  /-- An after-hook has marked its class as closed. -/
  | closing (v : Visit t)
  /-- An after-hook has taken the binding of its class and has not asked for the lock yet. -/
  | unbound (v : Visit t)
  /-- An after-hook waits for the lock of the instance. -/
  | releasing (v : Visit t)
  | dropping (v : Visit t)
  | returned (v : Visit t) (answer : Except LifecycleError Unit)

namespace Phase

variable {t : Schema}

/-- The class that a before-hook has entered. -/
def inside? : Phase t → Option Nat
  | entered v => some v.number
  | acquiring v => some v.number
  | applying v => some v.number
  | acquired v => some v.number
  | _ => none

/-- The class that an after-hook has unbound and has not released yet. -/
def leaves? : Phase t → Option Nat
  | unbound v => some v.number
  | releasing v => some v.number
  | _ => none

/-- The class that is counted as a holder because of a call. -/
def keeps? : Phase t → Option Nat
  | acquired v => some v.number
  | unbound v => some v.number
  | releasing v => some v.number
  | _ => none

/-- Whether a call waits for the lock of the instance or has it. -/
def queues : Phase t → Bool
  | acquiring _ => true
  | applying _ => true
  | releasing _ => true
  | dropping _ => true
  | _ => false

/-- Whether a call keeps the lock of the instance while migrations run. -/
def works : Phase t → Bool
  | applying _ => true
  | dropping _ => true
  | _ => false

end Phase

/-- A step of one call, or of something else that changes the state. -/
inductive Move (t : Schema) where
  /-- A before-hook finds its class closed. -/
  | refuse (i : Nat) (v : Visit t) (error : LifecycleError)
  | ask (i : Nat) (v : Visit t)
  /-- The class is bound already. -/
  | pass (i : Nat) (v : Visit t)
  | enter (i : Nat) (v : Visit t)
  /-- A before-hook does not get an instance. -/
  | quit (i : Nat) (v : Visit t) (error : LifecycleError)
  /-- A before-hook has got the instance and asks for its lock. -/
  | arrive (i : Nat) (v : Visit t)
  /-- The migrations are there, and one more class holds them. -/
  | join (i : Nat) (v : Visit t)
  /-- The migrations begin to be applied. -/
  | apply (i : Nat) (v : Visit t)
  | applied (i : Nat) (v : Visit t)
  | failed (i : Nat) (v : Visit t) (error : LifecycleError)
  | bind (i : Nat) (v : Visit t)
  /-- An after-hook is called, and marks its class as closed. -/
  | mark (i : Nat) (v : Visit t)
  /-- The class is not bound, so its after-hook has nothing to release. -/
  | skip (i : Nat) (v : Visit t)
  | unbind (i : Nat) (v : Visit t)
  /-- An after-hook asks for the lock of the instance. -/
  | depart (i : Nat) (v : Visit t)
  /-- Others hold the migrations still. -/
  | leave (i : Nat) (v : Visit t)
  /-- The migrations begin to be dropped. -/
  | drop (i : Nat) (v : Visit t)
  | dropped (i : Nat) (v : Visit t) (answer : Except LifecycleError Unit)
  /-- What a hook does to get its instance, what migrations do, or anything else. -/
  | work (s : State)

end Tenancy

/-- What calls share, the queue at the lock of the instance, and the phase of every call. -/
structure Tenancy (t : Schema) where
  state : State
  queue : List Nat := []
  phase : Nat → Tenancy.Phase t := fun _ => .idle

namespace Tenancy

variable {t : Schema}

/-- No before-hook is inside a class. -/
def Free (m : Tenancy t) (number : Nat) : Prop :=
  ∀ j, (m.phase j).inside? ≠ some number

namespace Move

/-- What must hold for a move to be made. -/
def Enabled (m : Tenancy t) : Move t → Prop
  | refuse i v error =>
    m.phase i = .idle ∧ (v.coordinator.ensureOpen v.node m.state).1 = .error error
  | ask i v => m.phase i = .idle ∧ (v.coordinator.ensureOpen v.node m.state).1 = .ok ()
  | pass i v => m.phase i = .opening v ∧ m.Free v.number ∧ (t.bound? m.state v.number).isSome
  | enter i v => m.phase i = .opening v ∧ m.Free v.number ∧ t.bound? m.state v.number = none
  | quit i v _ => m.phase i = .entered v
  | arrive i v => m.phase i = .entered v ∧ t.handle < m.state.handles.size ∧
    ∃ decl, v.coordinator.declarationAt m.state v.node = .ok decl ∧ t.Pledged decl
  | join i v => m.phase i = .acquiring v ∧ m.queue.head? = some i ∧ (t.stored m.state).isSome
  | apply i v => m.phase i = .acquiring v ∧ m.queue.head? = some i ∧ t.stored m.state = none
  | applied i v => m.phase i = .applying v
  | failed i v _ => m.phase i = .applying v
  | bind i v => m.phase i = .acquired v
  | mark i _ => m.phase i = .idle
  | skip i v => m.phase i = .closing v ∧ t.bound? m.state v.number = none
  | unbind i v => m.phase i = .closing v ∧ (t.bound? m.state v.number).isSome
  | depart i v => m.phase i = .unbound v ∧
    ∃ decl, v.coordinator.declarationAt m.state v.node = .ok decl ∧ t.Pledged decl
  | leave i v => m.phase i = .releasing v ∧ m.queue.head? = some i ∧
    0 < (t.stored m.state).getD 0 - 1
  | drop i v => m.phase i = .releasing v ∧ m.queue.head? = some i ∧
    (t.stored m.state).getD 0 - 1 = 0
  | dropped i v _ => m.phase i = .dropping v
  | work s => t.Spares m.state s

/-- The call that makes a move, and the phase that it comes to. -/
def turn : Move t → Option (Nat × Phase t)
  | refuse i v error => some (i, .returned v (.error error))
  | ask i v => some (i, .opening v)
  | pass i v => some (i, .returned v (.ok ()))
  | enter i v => some (i, .entered v)
  | quit i v error => some (i, .returned v (.error error))
  | arrive i v => some (i, .acquiring v)
  | join i v => some (i, .acquired v)
  | apply i v => some (i, .applying v)
  | applied i v => some (i, .acquired v)
  | failed i v error => some (i, .returned v (.error error))
  | bind i v => some (i, .returned v (.ok ()))
  | mark i v => some (i, .closing v)
  | skip i v => some (i, .returned v (.ok ()))
  | unbind i v => some (i, .unbound v)
  | depart i v => some (i, .releasing v)
  | leave i v => some (i, .returned v (.ok ()))
  | drop i v => some (i, .dropping v)
  | dropped i v answer => some (i, .returned v answer)
  | work _ => none

/-- The state after a move. -/
def effect (s : State) : Move t → State
  | join _ _ => t.store ((t.stored s).getD 0 + 1) s
  | applied _ _ => t.store 1 s
  | bind _ v => v.bind s
  | mark _ v => v.mark s
  | skip _ v => v.unbind s
  | unbind _ v => v.unbind s
  | leave _ _ => t.store ((t.stored s).getD 0 - 1) s
  | drop _ _ => t.forget s
  | work s' => s'
  | _ => s

/-- The queue after a move: calls come to its end, and leave it from its head. -/
def lineUp (queue : List Nat) : Move t → List Nat
  | arrive i _ => queue ++ [i]
  | depart i _ => queue ++ [i]
  | join _ _ => queue.tail
  | applied _ _ => queue.tail
  | failed _ _ _ => queue.tail
  | leave _ _ => queue.tail
  | dropped _ _ _ => queue.tail
  | _ => queue

/-- The classes that hold the migrations after a move, each once for every time that it has acquired
them and has not released them. A drop counts when it begins. -/
def holders (held : List Nat) : Move t → List Nat
  | join _ v => v.number :: held
  | applied _ v => v.number :: held
  | leave _ v => held.erase v.number
  | drop _ v => held.erase v.number
  | _ => held

end Move

/-- What a move leads to. -/
def next (m : Tenancy t) (move : Move t) : Tenancy t where
  state := move.effect m.state
  queue := move.lineUp m.queue
  phase := Trace.taken m.phase move.turn

end Tenancy

end ScopedResources.Lifecycle
