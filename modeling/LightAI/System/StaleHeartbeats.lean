import LightAI.Agent.StoreRaces
import LightAI.Server.Guards
import LightAI.Server.ReconciledRows
import LightAI.System.AgentLink

/-!
# Heartbeats that arrive late

A heartbeat says which processes the agent has found running when it was collected, and nothing says when
that was. The server takes it for news: it overwrites the status of an instance by what the heartbeat
reports of it, or by `failed` where it reports nothing, even after the result of a start or a stop that the
agent has handled since.
-/

namespace LightAI.System

open Interleaving
open Agent (Moment)
open Server (HeartbeatRequest ModelInstance Platform PlatformOperation PlatformRequest TaskKind busyStatus
  lastReport mappedStatus)

/-! ### Which statuses are those of a result -/

/-- `endedAt` is when a piece of work has ended on the agent. `standing` are the instances whose status is
the one that the result of a start or stop has set, with the status and the time at which the agent has
ended that task. -/
structure LinkHistory where
  time : Nat := 0
  endedAt : Nat → Option Nat := fun _ => none
  standing : String → Option (String × Nat) := fun _ => none

def AgentLink.ended {σ : Type} (s : AgentLink σ) (index : Nat) : Bool :=
  ((s.agent.threads[index]?).bind Thread.result).isSome

/-- The instance whose status the result of a start or stop sets when it is received. -/
def AgentLink.resultTarget (s : AgentLink Platform) (nodeId : String) (index : Nat) : Option String :=
  match s.message nodeId index with
  | some (.result taskId request) =>
      match Server.recordedResult s.server.db taskId request with
      | some (task, _) =>
          if task.kind = .startModelInstance ∨ task.kind = .stopModelInstance then
            task.payloadJson.getStr "instance_id"
          else none
      | none => none
  | _ => none

/-- After an event a status stands for the result that it has just been set by, or for the one that it stood
for, unless it has changed. -/
def LinkHistory.standingAfter (h : LinkHistory) (target : Option String) (index : Nat)
    (status : String → Option String) (instanceId : String) : Option (String × Nat) :=
  if target = some instanceId then do
    let status ← status instanceId
    let endedAt ← h.endedAt index
    pure (status, endedAt)
  else (h.standing instanceId).filter fun set => status instanceId = some set.1

section History

variable (env : Nat → Moment) (agentDeps : Agent.External) (deps : Server.External) (nodeId : String)

def LinkHistory.note (s : AgentLink Platform) (e : LinkEvent PlatformOperation) (h : LinkHistory) : LinkHistory :=
  let s' := s.step (platformSide deps) env agentDeps nodeId e
  { time := h.time + 1
    endedAt := fun index => (h.endedAt index).or (if s'.ended index then some h.time else none)
    standing :=
      match e with
      | .receive index =>
          h.standingAfter (s.resultTarget nodeId index) index s'.server.db.board.status
      | _ => h.standingAfter none 0 s'.server.db.board.status }

end History

/-! ### Late heartbeats -/

/-- An event by which the server receives a heartbeat that was collected before the agent ended the task
whose result the status of a row stands for. -/
structure LateFor (nodeId : String) (s : AgentLink Platform) (h : LinkHistory)
    (e : LinkEvent PlatformOperation)
    (request : HeartbeatRequest) (row : ModelInstance) : Prop where
  index : ∃ index collectedAt endedAt, e = .receive index ∧
    s.message nodeId index = some (.heartbeat request) ∧ h.endedAt index = some collectedAt ∧
    h.standing row.id = some (row.status, endedAt) ∧ collectedAt < endedAt
  found : s.server.db.modelInstances.find? row.id = some row
  isLocal : row.deployType = "local"
  notOllama : ¬ s.server.db.runsOnOllama row

/-- A late heartbeat leaves the status that the result has set. -/
def LateHeartbeatHarmless (env : Nat → Moment) (agentDeps : Agent.External) (deps : Server.External)
    (nodeId : String) (p : AgentLink Platform × LinkHistory) (e : LinkEvent PlatformOperation) : Prop :=
  ∀ request row, LateFor nodeId p.1 p.2 e request row →
    ((p.1.step (platformSide deps) env agentDeps nodeId e).server.db.board.status row.id) = some row.status

/-- A late heartbeat about an instance that is on its node reports the status that the result has set, or
does not report the instance, and the result has left it neither running nor on the way. -/
def LateHeartbeatAgrees (nodeId : String) (p : AgentLink Platform × LinkHistory) (e : LinkEvent PlatformOperation) : Prop :=
  ∀ request row, LateFor nodeId p.1 p.2 e request row →
    (p.1.server.db.nodes.find? nodeId).isSome = true → row.nodeId = some nodeId →
      match lastReport request.managedInstances row.id with
      | some report => mappedStatus report.status = row.status
      | none => busyStatus row.status = false

section Late

variable {env : Nat → Moment} {agentDeps : Agent.External} {deps : Server.External} {nodeId : String}
  {s : AgentLink Platform} {index : Nat} {request : HeartbeatRequest}

/-- The reports are those of the agent's own node. -/
theorem nodeId_of_message (hmessage : s.message nodeId index = some (.heartbeat request)) :
    request.nodeId = nodeId := by
  unfold AgentLink.message at hmessage
  by_cases hreceived : index ∈ s.received
  · simp [hreceived] at hmessage
  · rw [if_neg hreceived] at hmessage
    obtain ⟨t, -, hmessage⟩ := Option.bind_eq_some_iff.mp hmessage
    obtain ⟨outcome, -, hmessage⟩ := Option.bind_eq_some_iff.mp hmessage
    unfold messageOf at hmessage
    split at hmessage
    · obtain rfl := AgentMessage.heartbeat.inj (Option.some.inj hmessage)
      rfl
    · cases hmessage
    · cases hmessage

theorem board_receive_heartbeat (hmessage : s.message nodeId index = some (.heartbeat request)) :
    (s.step (platformSide deps) env agentDeps nodeId (.receive index)).server.db.board
      = s.server.db.board.afterAll (Server.heartbeatChanges s.server.db request) := by
  have hstep : (s.step (platformSide deps) env agentDeps nodeId (.receive index)).server.db
      = ((PlatformRequest.plain (.recordHeartbeat request)).begin deps s.server.db).2 := by
    simp only [AgentLink.step, hmessage]
    rfl
  rw [hstep, Server.db_begin_plain]
  have hserve : (Server.serve ((Server.Request.recordHeartbeat request).begin deps) s.server.db).2
      = (Server.serve (Server.recordHeartbeat request) s.server.db).2 :=
    Server.serve_ended_answered (Server.recordHeartbeat request) s.server.db
  rw [hserve, Server.board_recordHeartbeat_served]

/-- What a heartbeat leaves of the status is what it was, exactly when the report, or its absence, says
so. -/
theorem statusAfterHeartbeat_eq_iff {db : Server.Db} {row : ModelInstance}
    (hlocal : row.deployType = "local") (hollama : ¬ db.runsOnOllama row) :
    db.statusAfterHeartbeat request row = row.status ↔
      ((db.nodes.find? request.nodeId).isSome = true → row.nodeId = some request.nodeId →
        match lastReport request.managedInstances row.id with
        | some report => mappedStatus report.status = row.status
        | none => busyStatus row.status = false) := by
  unfold Server.Db.statusAfterHeartbeat
  by_cases hnode : (db.nodes.find? request.nodeId).isSome = true ∧ row.nodeId = some request.nodeId
  · rw [if_pos hnode]
    cases hlast : lastReport request.managedInstances row.id with
    | some report =>
        simp only [Server.reportStatus_eq]
        constructor
        · intro hsame _ _
          exact hsame
        · intro hsame
          exact hsame hnode.1 hnode.2
    | none =>
        have hexpects : Server.expectsReport db request.nodeId row = true
            ↔ busyStatus row.status = true := by
          rw [Server.expectsReport_iff]
          constructor
          · rintro ⟨-, hbusy, -⟩
            exact hbusy
          · intro hbusy
            exact ⟨⟨hnode.2, hlocal⟩, hbusy, hollama⟩
        by_cases hbusy : busyStatus row.status = true
        · simp only [if_pos (hexpects.mpr hbusy)]
          constructor
          · intro hfailed
            rw [← hfailed] at hbusy
            exact absurd hbusy (by decide)
          · intro hidle
            exact absurd (hidle hnode.1 hnode.2) (by simp [hbusy])
        · simp only [if_neg fun h => hbusy (hexpects.mp h)]
          constructor
          · intro _ _ _
            exact Bool.eq_false_iff.mpr hbusy
          · intro _
            trivial
  · rw [if_neg hnode]
    constructor
    · intro _ hfound hself
      exact absurd ⟨hfound, hself⟩ hnode
    · intro _
      rfl

/-- A late heartbeat leaves the status that the result has set exactly when it agrees with it. -/
theorem lateHeartbeatHarmless_iff (p : AgentLink Platform × LinkHistory) (e : LinkEvent PlatformOperation) :
    LateHeartbeatHarmless env agentDeps deps nodeId p e ↔ LateHeartbeatAgrees nodeId p e := by
  have hrow : ∀ request row, LateFor nodeId p.1 p.2 e request row →
      ((p.1.step (platformSide deps) env agentDeps nodeId e).server.db.board.status row.id = some row.status ↔
        ((p.1.server.db.nodes.find? nodeId).isSome = true → row.nodeId = some nodeId →
          match lastReport request.managedInstances row.id with
          | some report => mappedStatus report.status = row.status
          | none => busyStatus row.status = false)) := by
    intro request row hlate
    obtain ⟨index, -, -, rfl, hmessage, -⟩ := hlate.index
    have hnode := nodeId_of_message hmessage
    rw [board_receive_heartbeat hmessage,
      Server.status_after_heartbeat request hlate.found hlate.isLocal]
    rw [Option.some_inj, statusAfterHeartbeat_eq_iff hlate.isLocal hlate.notOllama, hnode]
  constructor
  · intro hharmless request row hlate
    exact (hrow request row hlate).mp (hharmless request row hlate)
  · intro hagrees request row hlate
    exact (hrow request row hlate).mpr (hagrees request row hlate)

end Late

/-! ### Runs -/

section Run

variable (env : Nat → Moment) (agentDeps : Agent.External) (deps : Server.External) (nodeId : String)

def linkStep :
    AgentLink Platform × LinkHistory → LinkEvent PlatformOperation → AgentLink Platform × LinkHistory :=
  Trace.withHistory (AgentLink.step (platformSide deps) env agentDeps nodeId)
    (LinkHistory.note env agentDeps deps nodeId)

/-- In a run no late heartbeat undoes the result of a start or stop exactly when each of them agrees with
it. -/
theorem late_heartbeats_harmless_iff (s : AgentLink Platform) (events : List (LinkEvent PlatformOperation)) :
    Trace.Along (linkStep env agentDeps deps nodeId)
        (LateHeartbeatHarmless env agentDeps deps nodeId) (s, {}) events ↔
      Trace.Along (linkStep env agentDeps deps nodeId) (LateHeartbeatAgrees nodeId) (s, {}) events := by
  apply Trace.Along.congr
  exact Trace.along_of_forall (fun p e => lateHeartbeatHarmless_iff p e) _ _

end Run

/-! ### A heartbeat that is overtaken by a task -/

/-- The container runs until it is stopped, and docker says so. -/
def stoppedAtFive (now : Nat) : Moment where
  __ := Moment.idle
  containers _ := decide (now < 5)
  answer
    | .dockerInspect _ => .exited true "" "" ""
    | .dockerStop _ => .exited true "" "" ""
    | call => call.failed

/-- A container that both the server and the agent have down as running. -/
def runningLink : AgentLink Platform where
  server :=
    { db := { Server.vllmDb with
        modelInstances :=
          ⟨[{ id := "i", nodeId := some "n", runtimeEnvironmentId := some "r", name := "chat"
              modelFileId := some "f", backend := "vllm", deployType := "local", status := "running"
              createdAt := 0, updatedAt := 0 }], by decide⟩ } }
  agent := ⟨{ store := .records [Agent.containerRecord "i" "c"] }, []⟩

/-- A stop is requested and handled while a heartbeat is on its way. -/
def stopOvertakes : List (LinkEvent PlatformOperation) :=
  [.server (.serve (.plain (.stopModelInstance "i" "t" 0))), .beat 0, .work 0, .work 0, .work 0,
    .poll none, .work 1, .work 1, .work 1, .work 1, .receive 1]

/-- The agent of `serving`, which has nothing to do for its first two moments. -/
def servingLater (now : Nat) : Moment := Agent.serving (now - 2)

/-- An instance that both the server and the agent have down as stopped. -/
def stoppedLink : AgentLink Platform where
  server := { db := Server.vllmDb }

/-- A start is requested and handled while a heartbeat is on its way. -/
def startOvertakes : List (LinkEvent PlatformOperation) :=
  [.beat 0, .work 0, .work 0, .server (.serve (.plain (.startModelInstance "i" "t" 0))), .poll none]
    ++ List.replicate 11 (.work 1) ++ [.receive 1]

/-- A row whose runtime environment has another backend does not run on Ollama. -/
theorem not_runsOnOllama {db : Server.Db} {row : ModelInstance} {runtimeId : String}
    {runtime : Server.RuntimeEnvironment} (hid : row.runtimeEnvironmentId = some runtimeId)
    (hfind : db.runtimeEnvironments.find? runtimeId = some runtime) (hbackend : runtime.backend ≠ "ollama") :
    ¬ db.runsOnOllama row := by
  rintro ⟨runtimeId', runtime', hid', hfind', hollama⟩
  rw [hid] at hid'
  rw [← Option.some.inj hid', hfind] at hfind'
  rw [← Option.some.inj hfind'] at hollama
  exact hbackend hollama

/-- The stopped instance is running again, and the started one has failed. -/
theorem late_heartbeat_undoes_results :
    ¬ Trace.Along (linkStep stoppedAtFive Agent.upExternal Server.noExternal "n")
        (LateHeartbeatHarmless stoppedAtFive Agent.upExternal Server.noExternal "n") (runningLink, {})
        (stopOvertakes ++ [.receive 0]) ∧
      ¬ Trace.Along (linkStep servingLater Agent.noExternal Server.noExternal "n")
        (LateHeartbeatHarmless servingLater Agent.noExternal Server.noExternal "n") (stoppedLink, {})
        (startOvertakes ++ [.receive 0]) := by
  constructor
  · intro halong
    obtain ⟨-, hharmless, -⟩ := (Trace.along_append ..).mp halong
    obtain ⟨row, hfound, hid, hlocal, hstatus, hruntime⟩ : ∃ row : ModelInstance,
        (Trace.run (linkStep stoppedAtFive Agent.upExternal Server.noExternal "n") (runningLink, {})
          stopOvertakes).1.server.db.modelInstances.find? "i" = some row ∧ row.id = "i" ∧
          row.deployType = "local" ∧ row.status = "stopped" ∧ row.runtimeEnvironmentId = some "r" :=
      ⟨_, rfl, rfl, rfl, rfl, rfl⟩
    have hafter := hharmless _ row ⟨⟨0, 4, 9, rfl, rfl, rfl, by rw [hid, hstatus]; rfl, by decide⟩,
      hid ▸ hfound, hlocal, not_runsOnOllama hruntime rfl (by decide)⟩
    rw [hid, hstatus] at hafter
    have hrunning : "running" = "stopped" := Option.some.inj hafter
    exact absurd hrunning (by decide)
  · intro halong
    obtain ⟨-, hharmless, -⟩ := (Trace.along_append ..).mp halong
    obtain ⟨row, hfound, hid, hlocal, hstatus, hruntime⟩ : ∃ row : ModelInstance,
        (Trace.run (linkStep servingLater Agent.noExternal Server.noExternal "n") (stoppedLink, {})
          startOvertakes).1.server.db.modelInstances.find? "i" = some row ∧ row.id = "i" ∧
          row.deployType = "local" ∧ row.status = "running" ∧ row.runtimeEnvironmentId = some "r" :=
      ⟨_, rfl, rfl, rfl, rfl, rfl⟩
    have hafter := hharmless _ row ⟨⟨0, 2, 15, rfl, rfl, rfl, by rw [hid, hstatus]; rfl, by decide⟩,
      hid ▸ hfound, hlocal, not_runsOnOllama hruntime rfl (by decide)⟩
    rw [hid, hstatus] at hafter
    have hfailed : "failed" = "running" := Option.some.inj hafter
    exact absurd hfailed (by decide)

end LightAI.System
