import ScopedResources.Lifecycle.Backend
import ScopedResources.Proofs.Sweep
import Mathlib.Algebra.Group.Nat.Defs

/-!
# A port and a database for every container

A provider hands out ports by counting the attempts to create a container. The count is a word of 64
bits; an attempt narrows it to a word of 16 bits and adds the first port, and either step may fail.
The databases stand in a table under the ports. A server needs neither the count nor the table: a
container has the port at its place in the row. As long as fewer than 2⁶⁴ containers were asked for,
both come to the same, so no port is handed out twice and none leads to the database of another
container. -/

namespace ScopedResources.Memory

open Lifecycle

/-! ## The ports of a provider -/

/-- The ports as a provider keeps them. -/
structure PortTable where
  /-- How many containers were asked for. -/
  asked : UInt64 := 0
  /-- The port of every container that was created. -/
  handed : Array UInt16 := #[]
  /-- Under every port, the container that was created with the database found there. -/
  holders : Assoc UInt16 Nat := []

namespace PortTable

/-- A number as a shorter word, unless it is too large for one. -/
def narrow? (n : UInt64) : Option UInt16 :=
  if n.toNat < UInt16.size then some n.toUInt16 else none

/-- The sum of two words, unless it is too large for one. -/
def checkedAdd? (m n : UInt16) : Option UInt16 :=
  if m.toNat + n.toNat < UInt16.size then some (m + n) else none

/-- The port that the next container gets, if there is one left. -/
def offered? (ports : PortTable) : Option UInt16 :=
  (narrow? ports.asked).bind (checkedAdd? 20000)

def holder? (ports : PortTable) (port : UInt16) : Option Nat :=
  Assoc.find? port ports.holders

/-- An attempt to create a container. It is counted whether or not there is a port left. -/
def attempt (ports : PortTable) : PortTable :=
  match ports.offered? with
  | none => { ports with asked := ports.asked + 1 }
  | some port =>
    { asked := ports.asked + 1
      handed := ports.handed.push port
      holders := Assoc.insert port ports.handed.size ports.holders }

/-- The ports after a number of attempts. -/
def after : Nat → PortTable
  | 0 => {}
  | attempts + 1 => (after attempts).attempt

/-- An attempt is offered a port just if fewer than `capacity` went before it. -/
theorem offered?_eq_some_iff {ports : PortTable} {port : UInt16} :
    ports.offered? = some port ↔
      ports.asked.toNat < capacity ∧ port.toNat = firstPort + ports.asked.toNat := by
  have hcapacity : capacity = 45536 := rfl
  have hfirst : firstPort = (20000 : UInt16).toNat := rfl
  have hword : (20000 : UInt16).toNat = 20000 := rfl
  have hsize : UInt16.size = 65536 := rfl
  unfold offered? narrow? checkedAdd?
  by_cases hnarrow : ports.asked.toNat < UInt16.size
  · have hkept : ports.asked.toUInt16.toNat = ports.asked.toNat := by
      rw [UInt64.toNat_toUInt16]
      exact Nat.mod_eq_of_lt hnarrow
    rw [if_pos hnarrow, Option.bind_some, hkept]
    by_cases hadd : (20000 : UInt16).toNat + ports.asked.toNat < UInt16.size
    · have hsum : ((20000 : UInt16) + ports.asked.toUInt16).toNat =
          firstPort + ports.asked.toNat := by
        rw [UInt16.toNat_add, hkept, hfirst]
        exact Nat.mod_eq_of_lt hadd
      rw [if_pos hadd, Option.some_inj, ← UInt16.toNat_inj, hsum]
      exact ⟨fun heq => ⟨by omega, heq.symm⟩, fun ⟨_, heq⟩ => heq.symm⟩
    · rw [if_neg hadd]
      exact ⟨nofun, fun ⟨hlt, _⟩ => by omega⟩
  · rw [if_neg hnarrow, Option.bind_none]
    exact ⟨nofun, fun ⟨hlt, _⟩ => by omega⟩

theorem offered?_eq_none_iff {ports : PortTable} :
    ports.offered? = none ↔ capacity ≤ ports.asked.toNat := by
  constructor
  · intro hnone
    by_contra hlt
    have hfits : firstPort + ports.asked.toNat < 2 ^ 16 := by
      have hcapacity : capacity = 45536 := rfl
      have hfirst : firstPort = 20000 := rfl
      omega
    have hsome : ports.offered? = some (UInt16.ofNat (firstPort + ports.asked.toNat)) :=
      offered?_eq_some_iff.mpr ⟨by omega, UInt16.toNat_ofNat_of_lt' hfits⟩
    rw [hnone] at hsome
    exact nomatch hsome
  · intro hle
    cases hoffered : ports.offered? with
    | none => rfl
    | some port => exact absurd (offered?_eq_some_iff.mp hoffered).1 (by omega)

/-- What the ports are after a number of attempts that a word of 64 bits can count. -/
structure Counts (attempts : Nat) (ports : PortTable) : Prop where
  asked : ports.asked.toNat = attempts
  size : ports.handed.size = min attempts capacity
  handed : ∀ {index port}, ports.handed[index]? = some port → port.toNat = firstPort + index
  holder : ∀ port, ports.holder? port =
    if firstPort ≤ port.toNat ∧ port.toNat - firstPort < ports.handed.size then
      some (port.toNat - firstPort)
    else none

theorem Counts.attempt {attempts : Nat} {ports : PortTable} (h : Counts attempts ports)
    (hlt : attempts + 1 < 2 ^ 64) : Counts (attempts + 1) ports.attempt := by
  have hasked : (ports.asked + 1).toNat = attempts + 1 := by
    rw [UInt64.toNat_add, h.asked]
    exact Nat.mod_eq_of_lt hlt
  have hsize := h.size
  unfold PortTable.attempt
  cases hoffered : ports.offered? with
  | none =>
      have hfull := offered?_eq_none_iff.mp hoffered
      rw [h.asked] at hfull
      exact { h with asked := hasked, size := by dsimp only; omega }
  | some port =>
      obtain ⟨hleft, hport⟩ := offered?_eq_some_iff.mp hoffered
      rw [h.asked] at hleft hport
      have hplace : ports.handed.size = attempts := by omega
      refine ⟨hasked, ?size, ?handed, ?holder⟩
      case size =>
        rw [Array.size_push]
        omega
      case handed =>
        intro index other hother
        rw [Array.getElem?_push] at hother
        split at hother
        next hindex =>
          cases hother
          omega
        next => exact h.handed hother
      case holder =>
        intro other
        have hold := h.holder other
        unfold holder? at hold ⊢
        rw [Assoc.find?_insert, hold, Array.size_push]
        by_cases heq : port = other
        · subst heq
          rw [if_pos rfl, if_pos (by omega)]
          exact congrArg some (by omega)
        · have hne : port.toNat ≠ other.toNat := fun hsame => heq (UInt16.toNat_inj.mp hsame)
          rw [if_neg heq]
          exact ite_congr (propext (by omega)) (fun _ => rfl) (fun _ => rfl)

theorem counts_after {attempts : Nat} (h : attempts < 2 ^ 64) :
    Counts attempts (after attempts) := by
  induction attempts with
  | zero =>
      refine ⟨rfl, rfl, nofun, fun port => ?_⟩
      rw [if_neg (fun hport => Nat.not_lt_zero _ hport.2)]
      rfl
  | succ attempts ih => exact (ih (by omega)).attempt h

theorem Counts.nodup {attempts : Nat} {ports : PortTable} (h : Counts attempts ports) :
    ports.handed.toList.Nodup := by
  rw [List.nodup_iff_getElem?_ne_getElem?]
  intro i j hlt hj heq
  have hfirst : i < ports.handed.toList.length := by omega
  rw [List.getElem?_eq_getElem hfirst, List.getElem?_eq_getElem hj, Option.some_inj] at heq
  have hporti := h.handed (Array.getElem?_eq_some_iff.mpr ⟨hfirst, rfl⟩)
  have hportj := h.handed (Array.getElem?_eq_some_iff.mpr ⟨hj, rfl⟩)
  have hsame : ports.handed[i] = ports.handed[j] := heq
  rw [hsame] at hporti
  omega

theorem Counts.inRange {attempts : Nat} {ports : PortTable} (h : Counts attempts ports) :
    ∀ port ∈ ports.handed, 20000 ≤ port.toNat ∧ port.toNat ≤ 65535 := by
  intro port hmem
  obtain ⟨index, hport⟩ := Array.mem_iff_getElem?.mp hmem
  have hvalue := h.handed hport
  have hfirst : firstPort = 20000 := rfl
  have hword := port.toNat_lt
  omega

theorem Counts.offered {attempts : Nat} {ports : PortTable} (h : Counts attempts ports) :
    ports.offered?.map UInt16.toNat =
      if attempts < capacity then some (firstPort + attempts) else none := by
  cases hoffered : ports.offered? with
  | none =>
      have hfull := offered?_eq_none_iff.mp hoffered
      rw [h.asked] at hfull
      rw [if_neg (by omega), Option.map_none]
  | some port =>
      obtain ⟨hleft, hport⟩ := offered?_eq_some_iff.mp hoffered
      rw [h.asked] at hleft hport
      rw [if_pos hleft, Option.map_some, hport]

/-- The container under a port is the one that the port was handed to. -/
theorem Counts.holder_iff {attempts index : Nat} {ports : PortTable} {port : UInt16}
    (h : Counts attempts ports) :
    ports.holder? port = some index ↔ ports.handed[index]? = some port := by
  rw [h.holder]
  constructor
  · intro hheld
    split at hheld
    next hrange =>
      obtain ⟨hlow, hindex⟩ := hrange
      have hgot := Array.getElem?_eq_getElem hindex
      rw [← Option.some_inj.mp hheld, hgot, Option.some_inj, ← UInt16.toNat_inj, h.handed hgot]
      omega
    next => exact nomatch hheld
  · intro hport
    have hindex := (Array.getElem?_eq_some_iff.mp hport).1
    have hvalue := h.handed hport
    rw [if_pos (by omega)]
    exact congrArg some (by omega)

end PortTable

/-! ## Operations of a provider -/

/-- An operation of a provider, its containers and its connections. -/
inductive ProviderCall where
  /-- Makes a container without a key. -/
  | container (image : String) (aliases : List String)
  | createContainer (key : ResourceKey)
  | connect (index : Nat)
  | connectExternal (params : ConnectionParams)
  | start (index : Nat)
  | stop (index : Nat)
  | refuseStarts (refuses : Bool)
  | send (connection : Connection) (statement : String)

namespace ProviderCall

/-- The operation is an attempt to create a container. -/
def Asks : ProviderCall → Prop
  | container .. | createContainer .. => True
  | _ => False

instance : DecidablePred Asks
  | container .. | createContainer .. => isTrue trivial
  | connect .. | connectExternal .. | start .. | stop .. | refuseStarts .. | send .. => isFalse id

/-- The operation sends a statement to a database. -/
def SendsTo (target : Target) : ProviderCall → Prop
  | send connection _ => connection.target = target
  | _ => False

/-- The server after an operation, whether or not it succeeds. -/
def run (server : Server) : ProviderCall → Server
  | container image aliases => (Memory.create image aliases [] server).2
  | createContainer key => (createFor key server).2
  | connect index => (Memory.connect index server).2
  | connectExternal _ => server
  | start index => (Memory.start index server).2
  | stop index => (Memory.stop index server).2
  | refuseStarts refuses => { server with refusesStarts := refuses }
  | send connection statement =>
    match connection.execute server statement with
    | .ok next => next
    | .error _ => server

/-- The server of a provider after operations. -/
def runAll (calls : List ProviderCall) : Server :=
  calls.foldl run {}

/-- How many of the operations are attempts to create a container. -/
def attempts (calls : List ProviderCall) : Nat :=
  calls.countP (Asks ·)

end ProviderCall

/-! ## What an operation leaves as it was -/

section Steps

variable {server next : Server} {call : ProviderCall} {index other port : Nat} {found : Container}
variable {connection : Connection} {statement : String} {database : Database} {image : String}
variable {aliases : List String}

theorem create_eq (image : String) (aliases : List String) (server : Server) :
    create image aliases [] server =
      if server.containers.size < capacity then
        (.ok server.containers.size,
          { server with containers := server.containers.push { image, aliases } })
      else (.error ⟨"create", "mapped port range exhausted"⟩, server) :=
  rfl

theorem database_congr (hcontainers : next.containers = server.containers)
    (hexternal : next.external = server.external) (target : Target) :
    next.database target = server.database target := by
  cases target with
  | container index =>
      dsimp only [Server.database]
      rw [hcontainers]
  | external port =>
      dsimp only [Server.database, Server.externalDatabase]
      rw [hexternal]
  | nowhere => rfl

theorem database_setRunning (index : Nat) (running : Bool) (server : Server) (target : Target) :
    (setRunning index running server).database target = server.database target := by
  cases target with
  | container other =>
      have hsame : (setRunning index running server).containers[other]?.map Container.database =
          server.containers[other]?.map Container.database :=
        map_setRunning (fun _ _ => rfl) ..
      exact congrArg (·.getD {}) hsame
  | external port => rfl
  | nowhere => rfl

theorem faults_setDatabase (server : Server) (database : Database) (target : Target) :
    SameFaults server (server.setDatabase database target) := by
  cases target with
  | container index =>
      intro other
      dsimp only [Server.setDatabase]
      rw [Array.getElem?_modify]
      split
      · cases server.containers[other]? <;> rfl
      · rfl
  | external port => exact fun _ => rfl
  | nowhere => exact fun _ => rfl

theorem containers_setDatabase_of_ne (hne : other ≠ index) :
    (server.setDatabase database (.container index)).containers[other]? =
      server.containers[other]? := by
  dsimp only [Server.setDatabase]
  rw [Array.getElem?_modify, if_neg hne.symm]

theorem externalDatabase_setDatabase (server : Server) (database : Database) (port other : Nat) :
    (server.setDatabase database (.external port)).externalDatabase other =
      if port = other then database else server.externalDatabase other := by
  dsimp only [Server.setDatabase, Server.externalDatabase]
  rw [Assoc.find?_insert]
  split <;> rfl

theorem database_setDatabase_of_target_ne {target target' : Target} (hne : target ≠ target') :
    (server.setDatabase database target).database target' = server.database target' := by
  cases target with
  | container index =>
      cases target' with
      | container other =>
          have hsame : (server.setDatabase database (.container index)).containers[other]? =
              server.containers[other]? :=
            containers_setDatabase_of_ne fun heq => hne (congrArg Target.container heq.symm)
          exact congrArg (fun found => (found.map Container.database).getD {}) hsame
      | external port => rfl
      | nowhere => rfl
  | external port =>
      cases target' with
      | container other => rfl
      | external other =>
          have hport : port ≠ other := fun heq => hne (congrArg Target.external heq)
          exact (externalDatabase_setDatabase ..).trans (if_neg hport)
      | nowhere => rfl
  | nowhere => rfl

/-- A statement that is accepted is kept by the database that the connection leads to. -/
theorem Connection.execute_cases (h : connection.execute server statement = .ok next) :
    next = server ∨ ∃ database, next = server.setDatabase database connection.target := by
  unfold Connection.execute Server.execute at h
  split at h
  next => cases h
  next =>
    split at h
    next =>
      cases h
      exact .inl rfl
    next =>
      split at h
      next =>
        cases h
        exact .inr ⟨_, rfl⟩
      next => cases h

/-- The containers of a provider after a number of attempts: one for each that was offered a port,
none with a fault. -/
structure Filled (attempts : Nat) (server : Server) : Prop where
  size : server.containers.size = min attempts capacity
  works : ∀ {index : Nat} {found}, server.containers[index]? = some found → found.faults = []

theorem Filled.of_sameFaults {attempts : Nat} (h : Filled attempts server)
    (hsame : SameFaults server next) : Filled attempts next := by
  refine ⟨hsame.size_eq.trans h.size, fun {index found} hfound => ?_⟩
  have hindex := hsame index
  rw [hfound, Option.map_some] at hindex
  obtain ⟨before, hbefore, hfaults⟩ := Option.map_eq_some_iff.mp hindex.symm
  rw [← hfaults]
  exact h.works hbefore

theorem Filled.create {attempts : Nat} (h : Filled attempts server) (image : String)
    (aliases : List String) : Filled (attempts + 1) (Memory.create image aliases [] server).2 := by
  have hsize := h.size
  rw [create_eq]
  by_cases hleft : server.containers.size < capacity
  · rw [if_pos hleft]
    refine ⟨?_, fun {index found} hfound => ?_⟩
    · rw [Array.size_push]
      omega
    · rw [Array.getElem?_push] at hfound
      split at hfound
      next =>
        cases hfound
        rfl
      next => exact h.works hfound
  · rw [if_neg hleft]
    exact ⟨by dsimp only; omega, h.works⟩

/-- The next attempt to create a container. -/
theorem Filled.create_eq {attempts : Nat} (h : Filled attempts server) (image : String)
    (aliases : List String) : Memory.create image aliases [] server =
      if attempts < capacity then
        (.ok attempts, { server with containers := server.containers.push { image, aliases } })
      else (.error ⟨"create", "mapped port range exhausted"⟩, server) := by
  have hsize := h.size
  rw [Memory.create_eq]
  by_cases hleft : attempts < capacity
  · have hnext : server.containers.size = attempts := by omega
    rw [hnext, if_pos hleft]
  · rw [if_neg hleft, if_neg (by omega)]

theorem Filled.connect_eq {attempts : Nat} (h : Filled attempts server)
    (hfound : server.containers[index]? = some found) :
    connect index server =
      (if found.running then
        .ok { params := { scheme := "memory", host := "localhost", port := firstPort + index }
              target := .container index }
        else .error ⟨"mapped_port", "container is not running"⟩, server) :=
  connect_of_some hfound (h.works hfound)

theorem Filled.connect_server {attempts : Nat} (h : Filled attempts server) (index : Nat) :
    (connect index server).2 = server := by
  cases hfound : server.containers[index]? with
  | none => rw [connect_of_none hfound]
  | some found => rw [h.connect_eq hfound]

/-- What the server is after an operation. -/
inductive ProviderCall.Outcome (server : Server) (call : ProviderCall) : Server → Prop where
  | created (image : String) (aliases : List String) (hasks : call.Asks) :
      Outcome server call (create image aliases [] server).2
  | kept {next : Server} (hnot : ¬ call.Asks) (hcontainers : next.containers = server.containers)
      (hexternal : next.external = server.external) : Outcome server call next
  /-- A container is marked as running, or as not running. -/
  | marked {next : Server} (index : Nat) (running : Bool) (hnot : ¬ call.Asks)
      (hcontainers : next.containers = (setRunning index running server).containers)
      (hexternal : next.external = server.external) : Outcome server call next
  | written {target : Target} (database : Database) (hnot : ¬ call.Asks)
      (hsends : call.SendsTo target) : Outcome server call (server.setDatabase database target)

theorem Filled.outcome {attempts : Nat} (h : Filled attempts server) (call : ProviderCall) :
    call.Outcome server (call.run server) := by
  cases call with
  | container image aliases => exact .created image aliases trivial
  | createContainer key => exact .created key.image key.networkAlias.toList trivial
  | connect index =>
      have hsame := h.connect_server index
      exact .kept id (congrArg Server.containers hsame) (congrArg Server.external hsame)
  | connectExternal params => exact .kept id rfl rfl
  | start index =>
      rcases start_server index server with hsame | hmarked
      · exact .kept id (congrArg Server.containers hsame) (congrArg Server.external hsame)
      · have hcontainers := congrArg Server.containers hmarked
        have hexternal := congrArg Server.external hmarked
        exact .marked index true id hcontainers hexternal
  | stop index =>
      rcases stop_server index server with hsame | hmarked
      · exact .kept id (congrArg Server.containers hsame) (congrArg Server.external hsame)
      · have hcontainers := congrArg Server.containers hmarked
        have hexternal := congrArg Server.external hmarked
        exact .marked index false id hcontainers hexternal
  | refuseStarts refuses => exact .kept id rfl rfl
  | send connection statement =>
      dsimp only [ProviderCall.run]
      split
      next hnext =>
        rcases connection.execute_cases hnext with rfl | ⟨database, rfl⟩
        · exact .kept id rfl rfl
        · exact .written database id rfl
      next => exact .kept id rfl rfl

/-- One operation. -/
theorem Filled.run {attempts : Nat} (h : Filled attempts server) (call : ProviderCall) :
    Filled (attempts + if call.Asks then 1 else 0) (call.run server) := by
  have houtcome := h.outcome call
  generalize call.run server = next at houtcome ⊢
  cases houtcome with
  | created image aliases hasks =>
      rw [if_pos hasks]
      exact h.create image aliases
  | kept hnot hcontainers hexternal =>
      rw [if_neg hnot]
      exact h.of_sameFaults fun _ => by rw [hcontainers]
  | marked index running hnot hcontainers hexternal =>
      rw [if_neg hnot]
      refine h.of_sameFaults fun other => ?_
      rw [hcontainers]
      exact setRunning_sameFaults index running server other
  | written database hnot hsends =>
      rw [if_neg hnot]
      exact h.of_sameFaults (faults_setDatabase server database _)

theorem Filled.foldl {attempts : Nat} (h : Filled attempts server) (calls : List ProviderCall) :
    Filled (attempts + ProviderCall.attempts calls) (calls.foldl ProviderCall.run server) := by
  induction calls generalizing attempts server with
  | nil => exact h
  | cons call rest ih =>
      have hrest := ih (h.run call)
      have hcount : ProviderCall.attempts (call :: rest) =
          ProviderCall.attempts rest + if call.Asks then 1 else 0 := by
        unfold ProviderCall.attempts
        rw [List.countP_cons]
        simp only [decide_eq_true_eq]
      rw [hcount, Nat.add_comm (ProviderCall.attempts rest), ← Nat.add_assoc]
      exact hrest

theorem filled_runAll (calls : List ProviderCall) :
    Filled (ProviderCall.attempts calls) (ProviderCall.runAll calls) := by
  have hnone : Filled 0 {} := ⟨rfl, nofun⟩
  have hfilled := hnone.foldl calls
  rwa [Nat.zero_add] at hfilled

theorem create_database (image : String) (aliases : List String) (server : Server)
    (target : Target) :
    (create image aliases [] server).2.database target = server.database target := by
  rw [create_eq]
  split
  · cases target with
    | container index =>
        dsimp only [Server.database]
        rw [Array.getElem?_push]
        split
        next hnew =>
          rw [hnew, Array.getElem?_eq_none le_rfl]
          rfl
        next => rfl
    | external port => rfl
    | nowhere => rfl
  · rfl

/-- An operation changes no database but the one that it sends a statement to. A container that is
created finds its database empty. -/
theorem Filled.run_database {attempts : Nat} {target : Target} (h : Filled attempts server)
    (hnot : ¬ call.SendsTo target) :
    (call.run server).database target = server.database target := by
  have houtcome := h.outcome call
  generalize call.run server = next at houtcome ⊢
  cases houtcome with
  | created image aliases hasks => exact create_database ..
  | kept _ hcontainers hexternal => exact database_congr hcontainers hexternal target
  | marked index running _ hcontainers hexternal =>
      exact (database_congr hcontainers hexternal target).trans (database_setRunning ..)
  | written database _ hsends =>
      refine database_setDatabase_of_target_ne fun heq => hnot ?_
      exact heq ▸ hsends

/-! ## Whose database a connection reaches -/

/-- Statements that are sent through the connection go to the database of one container. -/
structure Connection.ReachesContainer (connection : Connection) (server : Server) (index : Nat)
    (found : Container) : Prop where
  accepted : ∀ {statement database}, found.database.execute statement = .ok database →
    ∃ next, connection.execute server statement = .ok next ∧
      next.containers[index]? = some { found with database } ∧
      (∀ other, other ≠ index → next.containers[other]? = server.containers[other]?) ∧
      next.external = server.external
  rejected : ∀ {statement rejection}, found.database.execute statement = .error rejection →
    connection.execute server statement = .error ⟨statement, rejection.message⟩

/-- Statements that are sent through the connection go to the database behind an external port. -/
structure Connection.ReachesExternal (connection : Connection) (server : Server) (port : Nat) :
    Prop where
  accepted : ∀ {statement database},
    (server.externalDatabase port).execute statement = .ok database →
    ∃ next, connection.execute server statement = .ok next ∧
      next.externalDatabase port = database ∧
      (∀ other, other ≠ port → next.externalDatabase other = server.externalDatabase other) ∧
      next.containers = server.containers
  rejected : ∀ {statement rejection},
    (server.externalDatabase port).execute statement = .error rejection →
    connection.execute server statement = .error ⟨statement, rejection.message⟩

theorem Connection.reachesContainer (params : ConnectionParams)
    (hfound : server.containers[index]? = some found) :
    Connection.ReachesContainer { params, target := .container index } server index found where
  accepted {statement database} haccepted := by
    have hown : server.database (.container index) = found.database := by
      dsimp only [Server.database]
      rw [hfound]
      rfl
    refine ⟨server.setDatabase database (.container index), ?runs, ?own, ?others, rfl⟩
    case runs =>
      change server.execute (.container index) statement = _
      unfold Server.execute
      rw [hown, haccepted]
    case own =>
      dsimp only [Server.setDatabase]
      rw [Array.getElem?_modify, if_pos rfl, hfound]
      rfl
    case others => exact fun other hne => containers_setDatabase_of_ne hne
  rejected {statement rejection} hrejected := by
    have hown : server.database (.container index) = found.database := by
      dsimp only [Server.database]
      rw [hfound]
      rfl
    change server.execute (.container index) statement = _
    unfold Server.execute
    rw [hown, hrejected]

theorem connectExternal_reachesExternal (params : ConnectionParams) (server : Server) :
    (connectExternal params).ReachesExternal server params.port where
  accepted {statement database} haccepted := by
    refine ⟨server.setDatabase database (.external params.port), ?runs, ?own, ?others, rfl⟩
    case runs =>
      change server.execute (.external params.port) statement = _
      unfold Server.execute Server.database
      rw [haccepted]
    case own => exact (externalDatabase_setDatabase ..).trans (if_pos rfl)
    case others =>
      exact fun other hne => (externalDatabase_setDatabase ..).trans (if_neg hne.symm)
  rejected {statement rejection} hrejected := by
    change server.execute (.external params.port) statement = _
    unfold Server.execute Server.database
    rw [hrejected]

/-- The next attempt to create a container, by the ports and on the server, is one of these. -/
inductive NextAttempt (attempts : Nat) (ports : PortTable) (server : Server) : Prop where
  /-- There is a port left, and the container finds an empty database. -/
  | succeeds (hleft : attempts < 45536)
      (hport : ports.offered?.map UInt16.toNat = some (20000 + attempts))
      (hcreate : ∀ image aliases, create image aliases [] server =
        (.ok attempts, { server with containers := server.containers.push { image, aliases } }))
  /-- There is none, and everything stays as it is. -/
  | fails (hexhausted : 45536 ≤ attempts) (hport : ports.offered? = none)
      (hcreate : ∀ image aliases, create image aliases [] server =
        (.error ⟨"create", "mapped port range exhausted"⟩, server))

theorem Filled.nextAttempt {attempts : Nat} {ports : PortTable} (h : Filled attempts server)
    (hports : ports.Counts attempts) : NextAttempt attempts ports server := by
  have hoffered := hports.offered
  by_cases hleft : attempts < capacity
  · rw [if_pos hleft] at hoffered
    refine .succeeds hleft hoffered fun image aliases => ?_
    rw [h.create_eq, if_pos hleft]
  · rw [if_neg hleft] at hoffered
    refine .fails (Nat.le_of_not_lt hleft)
      (Option.map_eq_none_iff.mp hoffered) fun image aliases => ?_
    rw [h.create_eq, if_neg hleft]

/-- Every container of a server has a port and a database to itself. -/
structure OwnDatabases (attempts : Nat) (ports : PortTable) (server : Server) : Prop where
  /-- The count of attempts has not overflowed. -/
  counted : ports.asked.toNat = attempts
  created : server.created = min attempts 45536
  handed : ports.handed.size = server.created
  distinct : ports.handed.toList.Nodup
  inRange : ∀ port ∈ ports.handed, 20000 ≤ port.toNat ∧ port.toNat ≤ 65535
  /-- Under a port stands the container that was created with it, for good, and no other. -/
  holder : ∀ {index port}, ports.holder? port = some index ↔ ports.handed[index]? = some port
  listens : ∀ port, ports.holder? port = server.listening? port.toNat
  connects : ∀ {index port found}, ports.handed[index]? = some port →
    server.containers[index]? = some found → found.running = true →
    ∃ connection, connect index server = (.ok connection, server) ∧
      connection.params = { scheme := "memory", host := "localhost", port := port.toNat } ∧
      connection.ReachesContainer server index found
  refusesIdle : ∀ {index found}, server.containers[index]? = some found → found.running = false →
    connect index server = (.error ⟨"mapped_port", "container is not running"⟩, server)
  connectsExternal : ∀ params, (connectExternal params).ReachesExternal server params.port
  /-- A database changes only with the statements that are sent to it. -/
  keeps : ∀ {call target}, ¬ ProviderCall.SendsTo target call →
    (call.run server).database target = server.database target
  /-- To create a container for a key is to create one with its image and its alias. -/
  keyed : ∀ key, createFor key server = create key.image key.networkAlias.toList [] server
  next : NextAttempt attempts ports server

/-- After any operations of a provider, every container has a port and a database to itself, and the
next attempt to create one succeeds just if there is a port left. -/
theorem containers_have_own_databases (calls : List ProviderCall)
    (h : ProviderCall.attempts calls < 2 ^ 64) :
    OwnDatabases (ProviderCall.attempts calls) (.after (ProviderCall.attempts calls))
      (ProviderCall.runAll calls) := by
  have hports := PortTable.counts_after h
  have hfilled := filled_runAll calls
  generalize ProviderCall.attempts calls = attempts at h hports hfilled ⊢
  generalize PortTable.after attempts = ports at hports ⊢
  generalize ProviderCall.runAll calls = server at hfilled ⊢
  have hhanded : ports.handed.size = server.containers.size := hports.size.trans hfilled.size.symm
  exact {
    counted := hports.asked
    created := hfilled.size
    handed := hhanded
    distinct := hports.nodup
    inRange := hports.inRange
    holder := hports.holder_iff
    listens := by
      intro port
      rw [hports.holder, hhanded]
      rfl
    connects := by
      intro index port found hport hfound hrunning
      have hconnect := hfilled.connect_eq hfound
      rw [hrunning, if_pos rfl, ← hports.handed hport] at hconnect
      exact ⟨_, hconnect, rfl, Connection.reachesContainer _ hfound⟩
    refusesIdle := by
      intro index found hfound hidle
      rw [hfilled.connect_eq hfound, hidle]
      rfl
    connectsExternal := fun params => connectExternal_reachesExternal params server
    keeps := hfilled.run_database
    keyed := fun _ => rfl
    next := hfilled.nextAttempt hports }

theorem ProviderCall.run_send (h : connection.execute server statement = .ok next) :
    (ProviderCall.send connection statement).run server = next := by
  dsimp only [ProviderCall.run]
  rw [h]

/-! Two containers, and a database outside with the port of the second one. -/

namespace Neighbours

def outside : ConnectionParams :=
  { scheme := "memory", host := "localhost", port := 20001 }

def createGuests : String :=
  "CREATE TABLE guests(id INT)"

/-- Both containers are started. -/
def started : List ProviderCall :=
  [.container "harbor/memory:1" ["north"], .container "harbor/memory:1" ["south"],
    .start 0, .start 1]

/-- A table is created outside. -/
def calls : List ProviderCall :=
  started ++ [.connectExternal outside, .send (Memory.connectExternal outside) createGuests]

def withGuests : Database where
  tables := [("guests", 0)]
  executed := 1

theorem createGuests_parse :
    Statement.parse? createGuests = some (.createTable "guests" false) := by
  decide +kernel

theorem createGuests_execute : ({} : Database).execute createGuests = .ok withGuests := by
  unfold Database.execute
  rw [createGuests_parse]
  rfl

theorem createGuests_again : withGuests.execute createGuests = .error .alreadyPresent := by
  unfold Database.execute
  rw [createGuests_parse]
  rfl

/-- The table outside is not in a container. -/
theorem runAll_calls :
    (ProviderCall.runAll calls).externalDatabase outside.port = withGuests ∧
      (ProviderCall.runAll calls).containers = (ProviderCall.runAll started).containers := by
  have hreaches := connectExternal_reachesExternal outside (ProviderCall.runAll started)
  obtain ⟨next, hnext, hown, -, hcontainers⟩ := hreaches.accepted createGuests_execute
  have hcalls : ProviderCall.runAll calls = next := by
    unfold calls
    rw [ProviderCall.runAll, List.foldl_append]
    exact ProviderCall.run_send hnext
  exact hcalls ▸ ⟨hown, hcontainers⟩

end Neighbours

open Neighbours in
/-- Each container is reached at its own port. The table that is outside at the port of the second
one can still be created there, and neither the first container nor what is outside takes part. -/
theorem neighbours_keep_apart :
    ProviderCall.attempts calls < 2 ^ 64 ∧ ∃ first second,
      connect 0 (ProviderCall.runAll calls) = (.ok first, ProviderCall.runAll calls) ∧
      connect 1 (ProviderCall.runAll calls) = (.ok second, ProviderCall.runAll calls) ∧
      first.params.port = 20000 ∧ second.params = outside ∧
      (Memory.connectExternal outside).execute (ProviderCall.runAll calls) createGuests =
        .error ⟨createGuests, Database.Rejection.alreadyPresent.message⟩ ∧
      ∃ next, second.execute (ProviderCall.runAll calls) createGuests = .ok next ∧
        next.containers[0]? = (ProviderCall.runAll calls).containers[0]? ∧
        next.external = (ProviderCall.runAll calls).external := by
  have hfew : ProviderCall.attempts calls < 2 ^ 64 := by decide
  have hown := containers_have_own_databases calls hfew
  obtain ⟨houtside, hcontainers⟩ := runAll_calls
  have hport : (PortTable.after (ProviderCall.attempts calls)).handed[0]? = some 20000 := by
    decide
  have hport' : (PortTable.after (ProviderCall.attempts calls)).handed[1]? = some 20001 := by
    decide
  have hfirst : (ProviderCall.runAll calls).containers[0]? =
      some { image := "harbor/memory:1", aliases := ["north"], running := true } := by
    rw [hcontainers]
    rfl
  have hsecond : (ProviderCall.runAll calls).containers[1]? =
      some { image := "harbor/memory:1", aliases := ["south"], running := true } := by
    rw [hcontainers]
    rfl
  obtain ⟨first, hconnect, hparams, -⟩ := hown.connects hport hfirst rfl
  obtain ⟨second, hconnect', hparams', hreaches⟩ := hown.connects hport' hsecond rfl
  obtain ⟨next, hnext, -, hothers, hexternal⟩ := hreaches.accepted createGuests_execute
  have hagain := (hown.connectsExternal outside).rejected (houtside.symm ▸ createGuests_again)
  exact ⟨hfew, first, second, hconnect, hconnect', congrArg ConnectionParams.port hparams, hparams',
    hagain, next, hnext, hothers 0 (by decide), hexternal⟩

end Steps
end ScopedResources.Memory
