import LightAI.Agent.Reachable
import LightAI.Server.Guards
import LightAI.System.AgentLink

/-!
# Deletions that leave a process behind

Whether an instance may be deleted is decided by its status alone. A failed check, a failed test, a timeout
and a heartbeat all write `failed` to an instance whose process goes on running, and then nothing keeps a
user from deleting the row by which it could have been stopped.
-/

namespace LightAI.System

open Interleaving
open Agent (Created Moment Op Owned World payloadText)
open Server (Refused ServerOperation ServerState busyStatus deleteModelInstance)

/-! ### What has been started -/

/-- What each piece of work has created, and what the starts that have succeeded have created. -/
structure StartHistory where
  created : Nat → List Created := fun _ => []
  started : List Owned := []

/-- The instance of a start that has succeeded. -/
def startedInstance : AgentWork → AgentOutcome → Option String
  | .task _ .startModelInstance payload, .handled result =>
      if result.instanceStatus = "running" then some (payloadText payload "instance_id") else none
  | _, _ => none

/-- What a piece of work has started by the time it has ended. -/
def ownedBy (t : Thread AgentWork Op Op.Answer AgentOutcome) (created : List Created) (now : Nat) :
    List Owned :=
  match t.result.bind (startedInstance t.request) with
  | some instanceId => created.map fun created => { instanceId, created, since := now }
  | none => []

section History

variable (env : Nat → Moment) (deps : Agent.External)

def StartHistory.note (s : AgentLink ServerState) (e : LinkEvent ServerOperation) (h : StartHistory) :
    StartHistory :=
  match e with
  | .work index =>
      match Interleaving.System.performed s.agent (.step index : Event AgentWork Unit) with
      | none => h
      | some (_, op) =>
          let created := h.created index ++ (op.creates (env s.agent.shared.now)).toList
          let agent := ((agentSystem env deps).apply s.agent (.step index))
          { created := Function.update h.created index created
            started := h.started ++
              match agent.threads[index]? with
              | some t => ownedBy t created agent.shared.now
              | none => [] }
  | _ => h

end History

/-- Something that a successful start has created for the instance runs, and the registry or the store has
it. -/
def StartHistory.Held (env : Nat → Moment) (w : World) (h : StartHistory) (instanceId : String) : Prop :=
  ∃ o ∈ h.started, o.instanceId = instanceId ∧ o.stillRuns env w.now ∧ (o.inRegistry w ∨ o.inStore w)

/-- No local instance can be deleted while something started for it runs and the agent knows of it. -/
def NoOrphans (env : Nat → Moment) (p : AgentLink ServerState × StartHistory) : Prop :=
  ∀ row ∈ p.1.server.db.modelInstances.rows, row.deployType = "local" →
    p.2.Held env p.1.agent.shared row.id → Refused (deleteModelInstance row.id) p.1.server.db

/-! ### When it stays so -/

section Conditions

variable (env : Nat → Moment) (agentDeps : Agent.External) (deps : Server.External) (nodeId : String)

def orphanStep :
    AgentLink ServerState × StartHistory → LinkEvent ServerOperation →
      AgentLink ServerState × StartHistory :=
  Trace.withHistory (AgentLink.step (instanceSide deps) env agentDeps nodeId)
    (StartHistory.note env agentDeps)

abbrev HeldIn (p : AgentLink ServerState × StartHistory) : String → Prop := p.2.Held env p.1.agent.shared

/-- What the server does leaves the instances busy of which something is held, and whatever an operation of
the agent adds to what is held is of an instance that is busy. -/
def KeepsRefusing (p : AgentLink ServerState × StartHistory) : LinkEvent ServerOperation → Prop
  | .server operation => Server.KeepsBusy (HeldIn env p) p.1.server operation
  | .poll currentConfigVersion =>
      Server.KeepsBusy (HeldIn env p) p.1.server (.task (.pollAgentTask nodeId currentConfigVersion))
  | .receive index =>
      ∀ message, p.1.message nodeId index = some message →
        Server.KeepsBusy (HeldIn env p) p.1.server ((instanceSide deps).receive message)
  | .work index =>
      ∀ row ∈ p.1.server.db.modelInstances.rows, row.deployType = "local" →
        HeldIn env (orphanStep env agentDeps deps nodeId p (.work index)) row.id →
          ¬ HeldIn env p row.id → busyStatus row.status = true
  | .beat _ | .monitor _ | .pause => True

end Conditions

section Step

variable {env : Nat → Moment} {agentDeps : Agent.External} {deps : Server.External} {nodeId : String}

theorem noOrphans_iff (p : AgentLink ServerState × StartHistory) :
    NoOrphans env p ↔ p.1.server.db.board.Busy (HeldIn env p) := by
  constructor
  · intro hrefused instanceId status hheld hstatus
    obtain ⟨row, hrow, hlocal, rfl⟩ := Server.board_status_eq_some.mp hstatus
    obtain rfl : row.id = instanceId := Table.find?_key hrow
    have hmem := Table.find?_mem hrow
    exact (Server.refused_delete_iff hmem).mp (hrefused row hmem hlocal hheld)
  · intro hbusy row hmem hlocal hheld
    have hstatus : p.1.server.db.board.status row.id = some row.status :=
      Server.board_status_eq_some.mpr ⟨row, Table.find?_of_mem hmem, hlocal, rfl⟩
    exact (Server.refused_delete_iff hmem).mpr (hbusy row.id row.status hheld hstatus)

/-- Where time passes and no account gains anything, nothing is held that was not held before. -/
theorem StartHistory.Held.anti {h : StartHistory} {w w' : World} {instanceId : String}
    (hheld : h.Held env w' instanceId) (htime : w.now ≤ w'.now) (hstore : w'.store = w.store)
    (hregistry : ∀ instanceId handle, w'.registry instanceId = some handle →
      w.registry instanceId = some handle) : h.Held env w instanceId := by
  obtain ⟨o, hstarted, hid, hruns, haccount⟩ := hheld
  refine ⟨o, hstarted, hid, fun t hsince hnow => hruns t hsince (hnow.trans htime), ?_⟩
  rcases haccount with ⟨handle, hhandle, hchild⟩ | ⟨record, hrecord, hof⟩
  · exact Or.inl ⟨handle, hregistry _ _ hhandle, hchild⟩
  · rw [hstore] at hrecord
    exact Or.inr ⟨record, hrecord, hof⟩

/-- A round of the monitor can only take a handle away. -/
theorem monitor_registry (instanceId : String) (w : World) (other : String) (handle : Agent.ProcessHandle)
    (hhandle : ((Op.monitor instanceId).exec env w).2.registry other = some handle) :
    w.registry other = some handle := by
  have hremoved : Function.update w.registry instanceId none other = some handle →
      w.registry other = some handle := by
    intro hupdate
    by_cases hother : other = instanceId
    · rw [hother, Function.update_self] at hupdate
      cases hupdate
    · rwa [Function.update_of_ne hother] at hupdate
  simp only [Op.exec] at hhandle
  split at hhandle
  · exact hhandle
  · split at hhandle
    · exact hhandle
    · exact hremoved hhandle

theorem monitor_store (instanceId : String) (w : World) :
    ((Op.monitor instanceId).exec env w).2.store = w.store := by
  simp only [Op.exec]
  split
  · rfl
  · split <;> rfl

theorem busy_step_iff (p : AgentLink ServerState × StartHistory) (e : LinkEvent ServerOperation)
    (hp : p.1.server.db.board.Busy (HeldIn env p)) :
    (orphanStep env agentDeps deps nodeId p e).1.server.db.board.Busy
        (HeldIn env (orphanStep env agentDeps deps nodeId p e)) ↔
      KeepsRefusing env agentDeps deps nodeId p e := by
  obtain ⟨s, h⟩ := p
  cases e with
  | server operation => exact Server.busy_perform_iff deps s.server operation hp
  | poll currentConfigVersion =>
      have hworld : ((orphanStep env agentDeps deps nodeId (s, h) (.poll currentConfigVersion)).1).agent.shared
          = s.agent.shared := by
        simp only [orphanStep, Trace.withHistory, AgentLink.step]
        split <;> rfl
      have hheld : HeldIn env (orphanStep env agentDeps deps nodeId (s, h) (.poll currentConfigVersion))
          = HeldIn env (s, h) := by
        unfold HeldIn
        rw [hworld]
        rfl
      rw [hheld]
      exact Server.busy_perform_iff deps s.server (.task (.pollAgentTask nodeId currentConfigVersion)) hp
  | receive index =>
      cases hmessage : s.message nodeId index with
      | none =>
          have hsame : (orphanStep env agentDeps deps nodeId (s, h) (.receive index)).1 = s := by
            simp only [orphanStep, Trace.withHistory, AgentLink.step, hmessage]
          have hkeeps : KeepsRefusing env agentDeps deps nodeId (s, h) (.receive index) := by
            intro message hsome
            rw [hmessage] at hsome
            cases hsome
          have hheld : HeldIn env (orphanStep env agentDeps deps nodeId (s, h) (.receive index))
              = HeldIn env (s, h) := by
            unfold HeldIn
            rw [hsame]
            rfl
          rw [hheld, hsame]
          exact iff_of_true hp hkeeps
      | some message =>
          have hserver : (orphanStep env agentDeps deps nodeId (s, h) (.receive index)).1
              = { s with
                  server := (instanceSide deps).perform s.server ((instanceSide deps).receive message)
                  received := index :: s.received } := by
            simp only [orphanStep, Trace.withHistory, AgentLink.step, hmessage]
          have hheld : HeldIn env (orphanStep env agentDeps deps nodeId (s, h) (.receive index))
              = HeldIn env (s, h) := by
            unfold HeldIn
            rw [hserver]
            rfl
          rw [hheld, hserver]
          refine (Server.busy_perform_iff deps s.server ((instanceSide deps).receive message) hp).trans ?_
          constructor
          · intro hkeeps message' hmessage'
            rw [hmessage] at hmessage'
            rw [← Option.some.inj hmessage']
            exact hkeeps
          · intro hkeeps
            exact hkeeps message hmessage
  | beat sampledAt => exact iff_of_true hp trivial
  | pause =>
      refine iff_of_true ?_ trivial
      intro instanceId status hheld hstatus
      exact hp instanceId status (hheld.anti (Nat.le_succ _) rfl fun _ _ hhandle => hhandle) hstatus
  | monitor instanceId =>
      refine iff_of_true ?_ trivial
      intro other status hheld hstatus
      refine hp other status (hheld.anti ?_ (monitor_store instanceId _) (monitor_registry instanceId _)) hstatus
      change s.agent.shared.now ≤ ((Op.monitor instanceId).exec env s.agent.shared).2.now
      rw [Agent.exec_now]
      exact Nat.le_succ _
  | work index =>
      constructor
      · intro hafter row hmem hlocal hheld _
        have hstatus : s.server.db.board.status row.id = some row.status :=
          Server.board_status_eq_some.mpr ⟨row, Table.find?_of_mem hmem, hlocal, rfl⟩
        exact hafter row.id row.status hheld hstatus
      · intro hkeeps instanceId status hheld hstatus
        by_cases hbefore : HeldIn env (s, h) instanceId
        · exact hp instanceId status hbefore hstatus
        · obtain ⟨row, hrow, hlocal, rfl⟩ := Server.board_status_eq_some.mp hstatus
          obtain rfl : row.id = instanceId := Table.find?_key hrow
          exact hkeeps row (Table.find?_mem hrow) hlocal hheld hbefore

end Step

/-! ### In every run -/

section Run

variable (env : Nat → Moment) (agentDeps : Agent.External) (deps : Server.External) (nodeId : String)

/-- In a run no process can be orphaned by a deletion exactly when every event keeps the instances busy. -/
theorem no_orphans_iff (s : AgentLink ServerState) (events : List (LinkEvent ServerOperation)) :
    Trace.Always (orphanStep env agentDeps deps nodeId) (NoOrphans env) (s, {}) events ↔
      Trace.Along (orphanStep env agentDeps deps nodeId) (KeepsRefusing env agentDeps deps nodeId) (s, {})
        events := by
  have hstep : ∀ (p : AgentLink ServerState × StartHistory) (e : LinkEvent ServerOperation), True →
      NoOrphans env p →
      (NoOrphans env (orphanStep env agentDeps deps nodeId p e) ↔
        KeepsRefusing env agentDeps deps nodeId p e) := by
    intro p e _ hp
    rw [noOrphans_iff] at hp ⊢
    exact busy_step_iff p e hp
  have hinit : NoOrphans env (s, {}) := by
    rintro row hmem hlocal ⟨o, hstarted, -⟩
    cases hstarted
  exact Trace.always_iff_along (fun _ _ _ => trivial) hstep trivial hinit

end Run

/-! ### A check that fails -/

/-- A start that succeeds, and then a check whose requests to the running process get no answer. -/
def failedCheck : List (LinkEvent ServerOperation) :=
  [.server (.task (.startModelInstance "i" "t")), .poll none] ++ List.replicate 11 (.work 0) ++
    [.receive 0, .server (.task (.checkModelInstance "i" "u" (.error ""))), .poll none, .work 1, .receive 1]

/-- After the check the instance has failed, and its process runs and is in the registry. -/
theorem failed_check_allows_deletion :
    ¬ Trace.Always (orphanStep Agent.serving Agent.noExternal Server.noExternal "n")
        (NoOrphans Agent.serving) ({ server := { db := Server.vllmDb } }, {}) failedCheck := by
  intro hrefused
  have hlast := hrefused failedCheck [] (List.append_nil failedCheck).symm
  rw [noOrphans_iff] at hlast
  let started : Owned :=
    { instanceId := "i", created := .child { processId := 7, startTime := 1 }, since := 11 }
  have hruns : ∀ now, started.stillRuns Agent.serving now := by
    intro now t hsince _
    have hspawned : 1 ≤ t := Nat.le_trans (by decide) hsince
    refine decide_eq_true ?_
    exact if_pos ⟨rfl, hspawned⟩
  have hheld : HeldIn Agent.serving
      (Trace.run (orphanStep Agent.serving Agent.noExternal Server.noExternal "n")
        ({ server := { db := Server.vllmDb } }, {}) failedCheck) "i" :=
    ⟨started, List.mem_cons_self, rfl, hruns _, Or.inl ⟨_, rfl, rfl⟩⟩
  have hbusy := hlast "i" "failed" hheld rfl
  exact absurd hbusy (by decide)

end LightAI.System
