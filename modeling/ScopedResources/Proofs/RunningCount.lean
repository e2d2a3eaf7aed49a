import ScopedResources.Proofs.OwnDatabases

/-!
# The count of running containers

A server counts its starts and its stops, and takes the difference for the number of containers that
run. A stop is counted only for a container that runs, a start for every container: what is started
while it runs is counted once more, and stays counted when it has stopped.
-/

namespace ScopedResources.Memory

/-- How many containers of the server run. -/
def Server.runningContainers (server : Server) : Nat :=
  server.containers.countP Container.running

namespace ProviderCall

/-- The call starts a container that runs already, and nothing keeps it from that. -/
def Restarts (server : Server) : ProviderCall → Prop
  | start index => server.refusesStarts = false ∧
    ∃ found, server.containers[index]? = some found ∧ found.running = true
  | _ => False

instance (server : Server) : DecidablePred (Restarts server)
  | start index =>
    match hfound : server.containers[index]? with
    | some found => decidable_of_iff (server.refusesStarts = false ∧ found.running = true) (by
        simp [Restarts, hfound])
    | none => isFalse (by simp [Restarts, hfound])
  | container .. | createContainer .. | connect .. | connectExternal .. | stop .. | refuseStarts ..
  | send .. => isFalse id

/-- How many of the calls, made one after the other, start a container that runs already. -/
def restarts (server : Server) : List ProviderCall → Nat
  | [] => 0
  | call :: rest => (if call.Restarts server then 1 else 0) + restarts (call.run server) rest

theorem restarts_eq_zero_iff {server : Server} {calls : List ProviderCall} :
    restarts server calls = 0 ↔ ∀ before call rest, calls = before ++ call :: rest →
      ¬ call.Restarts (before.foldl run server) := by
  induction calls generalizing server with
  | nil => simp [restarts]
  | cons first calls ih =>
      rw [restarts, Nat.add_eq_zero_iff, ih]
      constructor
      · rintro ⟨hfirst, hrest⟩ before call rest heq
        cases before with
        | nil =>
            cases heq
            simpa using hfirst
        | cons other before =>
            cases heq
            exact hrest before call rest rfl
      · intro h
        refine ⟨if_neg (h [] first calls rfl), fun before call rest heq => ?_⟩
        exact h (first :: before) call rest (congrArg (first :: ·) heq)

end ProviderCall

section Balance

variable {server next : Server} {call : ProviderCall} {index attempts extra : Nat}
variable {found : Container}

/-- Changing one container counts for the containers that run as it counts for that one. -/
theorem countP_running_modify {containers : Array Container}
    (hfound : containers[index]? = some found) (change : Container → Container) :
    (containers.modify index change).countP Container.running + found.running.toNat =
      containers.countP Container.running + (change found).running.toNat := by
  have hindex : index < containers.toList.length := (Array.getElem?_eq_some_iff.mp hfound).1
  obtain ⟨before, same, behind, heq, hlength, hmodify⟩ := List.exists_of_modify change hindex
  have hsame : same = found := by
    rw [← Array.getElem?_toList, heq, ← hlength] at hfound
    simpa using hfound
  have hbit (running : Bool) : (if running = true then 1 else 0) = running.toNat := by
    cases running <;> rfl
  rw [← Array.countP_toList, ← Array.countP_toList, Array.toList_modify, hmodify, heq, hsame]
  simp only [List.countP_append, List.countP_cons, hbit]
  omega

theorem countP_running_congr {containers others : Array Container}
    (h : ∀ index : Nat, containers[index]?.map Container.running =
      others[index]?.map Container.running) :
    containers.countP Container.running = others.countP Container.running := by
  have hmap : containers.map Container.running = others.map Container.running := by
    refine Array.ext_getElem? fun index => ?_
    rw [Array.getElem?_map, Array.getElem?_map, h index]
  have hcount (found : Array Container) :
      found.countP Container.running = (found.map Container.running).countP id := by
    rw [Array.countP_map]
    rfl
  rw [hcount, hcount, hmap]

theorem runningContainers_setRunning (hfound : server.containers[index]? = some found)
    (running : Bool) : (setRunning index running server).runningContainers + found.running.toNat =
      server.runningContainers + running.toNat :=
  countP_running_modify hfound _

theorem runningContainers_setDatabase (server : Server) (database : Database) (target : Target) :
    (server.setDatabase database target).runningContainers = server.runningContainers := by
  cases target with
  | container index =>
      refine countP_running_congr fun other => ?_
      dsimp only [Server.setDatabase]
      rw [Array.getElem?_modify]
      split
      · cases server.containers[other]? <;> rfl
      · rfl
  | external port => rfl
  | nowhere => rfl

/-- The starts that were counted are the stops, the containers that run and `extra` more. -/
def Balanced (extra : Nat) (server : Server) : Prop :=
  server.started = server.stopped + server.runningContainers + extra

theorem Balanced.create (h : Balanced extra server) (image : String) (aliases : List String) :
    Balanced extra (Memory.create image aliases [] server).2 := by
  rw [create_eq]
  split
  · have hcount : (server.containers.push { image, aliases }).countP Container.running =
        server.runningContainers := Array.countP_push
    unfold Balanced Server.runningContainers
    rw [hcount]
    exact h
  · exact h

theorem Balanced.markStarted (h : Balanced extra server)
    (hfound : server.containers[index]? = some found) :
    Balanced (extra + found.running.toNat) (server.markStarted index) := by
  have hcount := runningContainers_setRunning hfound true
  have hstarted : (server.markStarted index).started = server.started + 1 := rfl
  have hstopped : (server.markStarted index).stopped = server.stopped := rfl
  have hrunning : (server.markStarted index).runningContainers =
      (setRunning index true server).runningContainers := rfl
  unfold Balanced at h ⊢
  rw [hstarted, hstopped, hrunning, h]
  rw [Bool.toNat_true] at hcount
  omega

theorem Balanced.markStopped (h : Balanced extra server)
    (hfound : server.containers[index]? = some found) (hruns : found.running = true) :
    Balanced extra (server.markStopped index) := by
  have hcount := runningContainers_setRunning hfound false
  have hstarted : (server.markStopped index).started = server.started := rfl
  have hstopped : (server.markStopped index).stopped = server.stopped + 1 := rfl
  have hrunning : (server.markStopped index).runningContainers =
      (setRunning index false server).runningContainers := rfl
  unfold Balanced at h ⊢
  rw [hstarted, hstopped, hrunning, h]
  rw [hruns, Bool.toNat_true, Bool.toNat_false] at hcount
  omega

theorem restarts_start_iff (hfound : server.containers[index]? = some found) :
    (ProviderCall.start index).Restarts server ↔
      server.refusesStarts = false ∧ found.running = true := by
  simp [ProviderCall.Restarts, hfound]

/-- A start is counted once, and once too often for a container that runs. -/
theorem Balanced.start (h : Balanced extra server) (hfilled : Filled attempts server)
    (index : Nat) : Balanced (extra + if (ProviderCall.start index).Restarts server then 1 else 0)
      (Memory.start index server).2 := by
  cases hfound : server.containers[index]? with
  | none =>
      have hnot : ¬ (ProviderCall.start index).Restarts server := by
        simp [ProviderCall.Restarts, hfound]
      rw [start_of_none hfound, if_neg hnot]
      exact h
  | some found =>
      have hstarted := h.markStarted hfound
      rw [start_of_some hfound, hfilled.works hfound, if_congr (restarts_start_iff hfound) rfl rfl]
      cases server.refusesStarts with
      | true => simpa using h
      | false => cases hruns : found.running <;> simpa [hruns] using hstarted

/-- A stop is counted just if the container runs. -/
theorem Balanced.stop (h : Balanced extra server) (hfilled : Filled attempts server) (index : Nat) :
    Balanced extra (Memory.stop index server).2 := by
  cases hfound : server.containers[index]? with
  | none =>
      rw [stop_of_none hfound]
      exact h
  | some found =>
      rw [stop_of_some hfound, hfilled.works hfound]
      cases hruns : found.running with
      | false => exact h
      | true => exact h.markStopped hfound hruns

theorem Balanced.send (h : Balanced extra server) (connection : Connection) (statement : String) :
    Balanced extra ((ProviderCall.send connection statement).run server) := by
  dsimp only [ProviderCall.run]
  split
  next hnext =>
    rcases connection.execute_cases hnext with rfl | ⟨database, rfl⟩
    · exact h
    · have hrunning := runningContainers_setDatabase server database connection.target
      unfold Balanced
      rw [hrunning]
      cases connection.target <;> exact h
  next => exact h

/-- One call. -/
theorem Balanced.run (h : Balanced extra server) (hfilled : Filled attempts server)
    (call : ProviderCall) :
    Balanced (extra + if call.Restarts server then 1 else 0) (call.run server) := by
  cases call with
  | container image aliases => exact h.create image aliases
  | createContainer key => exact h.create key.image key.networkAlias.toList
  | connect index =>
      rw [ProviderCall.run, hfilled.connect_server index]
      exact h
  | connectExternal params => exact h
  | start index => exact h.start hfilled index
  | stop index => exact h.stop hfilled index
  | refuseStarts refuses => exact h
  | send connection statement => exact h.send connection statement

theorem balanced_foldl (h : Balanced extra server) (hfilled : Filled attempts server)
    (calls : List ProviderCall) :
    Balanced (extra + ProviderCall.restarts server calls)
      (calls.foldl ProviderCall.run server) := by
  induction calls generalizing server attempts extra with
  | nil => exact h
  | cons call rest ih =>
      rw [ProviderCall.restarts, ← Nat.add_assoc]
      exact ih (h.run hfilled call) (hfilled.run call)

/-- After any operations of a provider, what it takes for its running containers is their number and
one more for every start of a container that ran. It is their number just if there was no such
start. -/
theorem running_count (calls : List ProviderCall) :
    let server := ProviderCall.runAll calls
    server.stopped ≤ server.started ∧
      server.running = server.runningContainers + ProviderCall.restarts {} calls ∧
      (server.running = server.runningContainers ↔
        ∀ before call rest, calls = before ++ call :: rest →
          ¬ call.Restarts (ProviderCall.runAll before)) := by
  intro server
  have hempty : Balanced 0 {} := rfl
  have hnone : Filled 0 {} := ⟨rfl, nofun⟩
  have hbalanced : Balanced (0 + ProviderCall.restarts {} calls) server :=
    balanced_foldl hempty hnone calls
  have hrunning : server.running = server.runningContainers + ProviderCall.restarts {} calls := by
    unfold Balanced at hbalanced
    unfold Server.running
    omega
  refine ⟨?_, hrunning, ?_⟩
  · unfold Balanced at hbalanced
    omega
  · rw [hrunning, Nat.add_eq_left]
    exact ProviderCall.restarts_eq_zero_iff

/-- One container is created and started twice. -/
def startedTwice : List ProviderCall :=
  [.container "harbor/memory:1" [], .start 0, .start 0]

/-- The container that was started twice is taken for two. -/
theorem started_twice_counts_twice :
    (ProviderCall.runAll startedTwice).running = 2 ∧
      (ProviderCall.runAll startedTwice).runningContainers = 1 ∧
      ¬ ∀ calls, (ProviderCall.runAll calls).running =
        (ProviderCall.runAll calls).runningContainers := by
  have hrunning : (ProviderCall.runAll startedTwice).running = 2 := rfl
  have hcontainers : (ProviderCall.runAll startedTwice).runningContainers = 1 := by decide
  refine ⟨hrunning, hcontainers, fun hclaim => ?_⟩
  have hsame := hclaim startedTwice
  rw [hrunning, hcontainers] at hsame
  cases hsame

end Balance

end ScopedResources.Memory
