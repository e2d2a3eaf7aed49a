import ScopedResources.Memory.Connection
import ScopedResources.Proofs.Action

/-!
# What the tasks of a server come to

Every task of a server as one equation: its result and the server after it, for a container that is
there and for one that is not.
-/

namespace ScopedResources.Memory

open Lifecycle

variable {index port : Nat} {server : Server} {found : Container}

/-- The server after a container was marked as started. -/
def Server.markStarted (server : Server) (index : Nat) : Server :=
  { setRunning index true server with started := server.started + 1 }

/-- The server after a container was marked as stopped. -/
def Server.markStopped (server : Server) (index : Nat) : Server :=
  { setRunning index false server with stopped := server.stopped + 1 }

/-- Whether a container runs is nothing that `read` depends on. -/
theorem map_setRunning {α : Type} {read : Container → α}
    (hread : ∀ found running, read { found with running } = read found) (index : Nat)
    (running : Bool) (server : Server) (other : Nat) :
    (setRunning index running server).containers[other]?.map read =
      server.containers[other]?.map read := by
  unfold setRunning
  rw [Array.getElem?_modify]
  split
  · cases server.containers[other]? with
    | none => rfl
    | some found => exact congrArg some (hread found running)
  · rfl

theorem container_of_none (h : server.containers[index]? = none) :
    container index server = (.error ⟨"find", "no such container"⟩, server) := by
  unfold container
  rw [Action.run_bind, Action.run_get]
  dsimp only
  rw [h]
  rfl

theorem container_of_some (h : server.containers[index]? = some found) :
    container index server = (.ok found, server) := by
  unfold container
  rw [Action.run_bind, Action.run_get]
  dsimp only
  rw [h]
  rfl

theorem check_eq (found : Container) (fault : Fault) (server : Server) :
    check found fault server =
      (if fault ∈ found.faults then .error fault.error else .ok (), server) := by
  unfold check
  split <;> rfl

theorem stop_of_none (h : server.containers[index]? = none) :
    stop index server = (.error ⟨"find", "no such container"⟩, server) := by
  unfold stop
  rw [Action.run_bind, container_of_none h]

theorem stop_of_some (h : server.containers[index]? = some found) :
    stop index server =
      if .start ∈ found.faults then (.error ⟨"stop", "never started"⟩, server)
      else if .stop ∈ found.faults then (.error Fault.stop.error, server)
      else (.ok (), if found.running then server.markStopped index else server) := by
  unfold stop
  rw [Action.run_bind, container_of_some h]
  dsimp only
  by_cases hstart : .start ∈ found.faults
  · rw [if_pos hstart, if_pos hstart]
    rfl
  · rw [if_neg hstart, if_neg hstart, Action.run_bind, check_eq]
    by_cases hstop : .stop ∈ found.faults
    · rw [if_pos hstop, if_pos hstop]
    · rw [if_neg hstop, if_neg hstop]
      dsimp only
      split <;> rfl

theorem stop_server (index : Nat) (server : Server) :
    (stop index server).2 = server ∨ (stop index server).2 = server.markStopped index := by
  cases hfound : server.containers[index]? with
  | none => exact .inl (congrArg Prod.snd (stop_of_none hfound))
  | some found =>
      rw [stop_of_some hfound]
      split
      · exact .inl rfl
      · split
        · exact .inl rfl
        · dsimp only
          split
          · exact .inr rfl
          · exact .inl rfl

theorem start_of_none (h : server.containers[index]? = none) :
    start index server = (.error ⟨"find", "no such container"⟩, server) := by
  unfold start
  rw [Action.run_bind, container_of_none h]

theorem start_of_some (h : server.containers[index]? = some found) :
    start index server =
      if .start ∈ found.faults then (.error Fault.start.error, server)
      else if server.refusesStarts then (.error ⟨"start", "wait strategy timed out"⟩, server)
      else (if .afterStart ∈ found.faults then .error Fault.afterStart.error else .ok (),
        server.markStarted index) := by
  unfold start
  rw [Action.run_bind, container_of_some h]
  dsimp only
  rw [Action.run_bind, check_eq]
  by_cases hstart : .start ∈ found.faults
  · rw [if_pos hstart, if_pos hstart]
  · rw [if_neg hstart, if_neg hstart]
    dsimp only
    rw [Action.run_bind, Action.run_get]
    dsimp only
    by_cases hrefuses : server.refusesStarts = true
    · rw [if_pos hrefuses, if_pos hrefuses]
      rfl
    · rw [if_neg hrefuses, if_neg hrefuses]
      exact check_eq ..

theorem start_server (index : Nat) (server : Server) :
    (start index server).2 = server ∨ (start index server).2 = server.markStarted index := by
  cases hfound : server.containers[index]? with
  | none => exact .inl (congrArg Prod.snd (start_of_none hfound))
  | some found =>
      rw [start_of_some hfound]
      split
      · exact .inl rfl
      · split
        · exact .inl rfl
        · exact .inr rfl

theorem host_of_none (h : server.containers[index]? = none) :
    host index server = (.error ⟨"find", "no such container"⟩, server) := by
  unfold host
  rw [Action.run_bind, container_of_none h]

theorem host_of_some (h : server.containers[index]? = some found) :
    host index server =
      (if .host ∈ found.faults then .error Fault.host.error else .ok "localhost", server) := by
  unfold host
  rw [Action.run_bind, container_of_some h]
  dsimp only
  rw [Action.run_bind, check_eq]
  by_cases hfault : .host ∈ found.faults
  · rw [if_pos hfault, if_pos hfault]
  · rw [if_neg hfault, if_neg hfault]
    rfl

theorem mappedPort_of_some (h : server.containers[index]? = some found) :
    mappedPort index port server =
      (if .port ∈ found.faults then .error Fault.port.error
        else if !found.running then .error ⟨"mapped_port", "container is not running"⟩
        else if port ≠ containerPort then
          .error ⟨"mapped_port", "port " ++ toString port ++ " is not exposed"⟩
        else .ok (firstPort + index), server) := by
  unfold mappedPort
  rw [Action.run_bind, container_of_some h]
  dsimp only
  rw [Action.run_bind, check_eq]
  by_cases hfault : .port ∈ found.faults
  · rw [if_pos hfault, if_pos hfault]
  · rw [if_neg hfault, if_neg hfault]
    cases found.running with
    | false => rfl
    | true =>
        by_cases hport : port ≠ containerPort
        · rw [if_pos hport, if_neg (by decide), if_neg (by decide), if_pos hport]
          rfl
        · rw [if_neg hport, if_neg (by decide), if_neg (by decide), if_neg hport]
          rfl

theorem listening?_of_some (h : server.containers[index]? = some found) :
    server.listening? (firstPort + index) = some index := by
  have hindex := (Array.getElem?_eq_some_iff.mp h).1
  unfold Server.listening?
  rw [if_pos (by omega)]
  exact congrArg some (by omega)

theorem connect_of_none (h : server.containers[index]? = none) :
    connect index server = (.error ⟨"find", "no such container"⟩, server) := by
  unfold connect
  rw [Action.run_bind, host_of_none h]

/-- Connecting to a container that works leads to that container. -/
theorem connect_of_some (h : server.containers[index]? = some found) (hfaults : found.faults = []) :
    connect index server =
      (if found.running then
        .ok { params := { scheme := "memory", host := "localhost", port := firstPort + index }
              target := .container index }
        else .error ⟨"mapped_port", "container is not running"⟩, server) := by
  unfold connect
  rw [Action.run_bind, host_of_some h]
  simp only [hfaults, List.not_mem_nil, if_false]
  rw [Action.run_bind, mappedPort_of_some h]
  simp only [hfaults, List.not_mem_nil, if_false, ne_eq, not_true]
  cases found.running with
  | false => rfl
  | true =>
      simp only [Bool.not_true, Bool.false_eq_true, if_false, if_true]
      rw [Action.run_bind, Action.run_get]
      dsimp only
      rw [listening?_of_some h]
      rfl

end ScopedResources.Memory
