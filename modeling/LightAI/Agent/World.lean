import Mathlib
import LightAI.Base.Json
import LightAI.Base.Program
import LightAI.Base.Text

/-!
# What an agent acts on

The agent keeps two accounts of the processes and containers that it has started: the registry of child
handles in its memory, and the store file. Which of them run is decided elsewhere, and the agent learns
of it only by reading `/proc`, by asking docker, and by the exit status of what it calls. What runs and
what these calls answer may be different at every moment; a moment passes with each operation.
-/

namespace LightAI.Agent

structure ManagedProcessRecord where
  instanceId : String
  processId : Int
  processStartTime : Option Nat
  baseUrl : Option String
  endpointUrl : Option String
  command : Option String
  logPath : Option String
  startedAt : Int
  containerId : Option String := none
  containerName : Option String := none
  deployType : Option String := none
  deriving DecidableEq

/-- A child process of the agent, by its process id and the time at which it was started. -/
structure Child where
  processId : Int
  startTime : Nat
  deriving DecidableEq

structure ProcessHandle where
  child : Child
  command : String
  deriving DecidableEq

structure ModelInstanceTaskResult where
  instanceStatus : String
  message : String
  baseUrl : Option String := none
  endpointUrl : Option String := none
  processId : Option Int := none
  processRef : Option String := none
  responseSummary : Option String := none
  logTail : Option String := none
  command : Option String := none
  deriving DecidableEq

/-- The daemon that the agent has started for a runtime environment. -/
structure DaemonHandle where
  child : Child
  logPath : String
  deriving DecidableEq

structure GatewayProcessRecord where
  processId : Int
  processStartTime : Option Nat
  healthUrl : String
  command : String
  logPath : String
  startedAt : Int
  deriving DecidableEq

/-! ### The store file -/

inductive StoreFile where
  | missing
  /-- The text of the file is not a list of records; `error` says why. -/
  | unparsable (error : String)
  | records (records : List ManagedProcessRecord)

namespace StoreFile

/-- The records that the file holds. -/
def held : StoreFile → List ManagedProcessRecord
  | .records held => held
  | _ => []

/-- What the reading and the parsing of the file give. -/
def loaded : StoreFile → Except String (List ManagedProcessRecord)
  | .missing => .ok []
  | .unparsable error => .error error
  | .records held => .ok held

theorem held_of_loaded {file : StoreFile} {records : List ManagedProcessRecord}
    (h : file.loaded = .ok records) : file.held = records := by
  cases file with
  | missing => exact Except.ok.inj h
  | unparsable error => cases h
  | records held => exact Except.ok.inj h

end StoreFile

/-- The state file of the gateway. -/
inductive GatewayFile where
  | missing
  | unparsable (error : String)
  | record (record : GatewayProcessRecord)

namespace GatewayFile

def recorded : GatewayFile → Option GatewayProcessRecord
  | .record saved => some saved
  | _ => none

def loaded : GatewayFile → Except String (Option GatewayProcessRecord)
  | .missing => .ok none
  | .unparsable error => .error error
  | .record saved => .ok (some saved)

end GatewayFile

/-! ### Calls of the agent to the outside -/

/-- How a command that the agent runs ends. -/
inductive CommandOutcome where
  | timedOut
  | spawnFailed (error : String)
  | exited (success : Bool) (status stdout stderr : String)

/-- A local process that is about to be started: its checks have passed. -/
structure LaunchPlan where
  baseUrl : String
  command : String

/-- The calls whose answers come from outside. -/
inductive Call where
  /-- The content of `/proc/{pid}/stat`. -/
  | readStat (processId : Int)
  /-- `/bin/kill -TERM {pid}`. -/
  | kill (processId : Int)
  | dockerInspect (containerRef : String)
  | dockerStop (containerRef : String)
  | dockerRun (args : List String)
  /-- The checks of a start, up to the one that the port is free. -/
  | prepare (payload : Json)
  | spawn (plan : LaunchPlan)
  | controlledLogPath (logDir instanceId : String)
  | tryWait (child : Child)
  /-- `Child::kill`, which waits for the child to end. -/
  | killChild (child : Child)
  | endpointReady (plan : LaunchPlan) (payload : Json)
  /-- The output of a child that is kept in memory, unless it is blank. -/
  | readLog (child : Child)
  /-- Whether `{baseUrl}/api/tags` answers. -/
  | apiTagsReachable (baseUrl : String)
  | daemonLogPath (logDir runtimeEnvId : String)
  | spawnDaemon (binaryPath : String) (vars : List (String × String))
  /-- How many times a daemon that has been started can be asked before it is too late. -/
  | daemonRounds
  | readDaemonLog (runtimeEnvId logDir : String) (maxBytes : Nat)
  /-- The names of the models that the daemon has. -/
  | listModels (baseUrl : String)
  | warmupModel (baseUrl model keepAlive : String)
  | stopOllama (payload : Json)
  | checkOllama (payload : Json)
  | testOllama (payload : Json)
  | runScript (payload : Json) (action : String)
  | testUrls (payload : Json) (url : String)
  /-- The directories and the log file of a gateway are prepared. -/
  | prepareGateway (logPath : String)
  | spawnGateway (program : String) (args : List String) (currentDir : String)
  | gatewayHealth (healthUrl : String)
  | nowUnixSecs

abbrev Call.Answer : Call → Type
  | readStat _ => Option String
  | kill _ => CommandOutcome
  | dockerInspect _ => CommandOutcome
  | dockerStop _ => CommandOutcome
  | dockerRun _ => CommandOutcome
  | prepare _ => Except String LaunchPlan
  | spawn _ => Except String Child
  | controlledLogPath .. => Except String String
  | tryWait _ => Except String (Option String)
  | killChild _ => Except String Unit
  | endpointReady .. => Bool
  | readLog _ => Option String
  | apiTagsReachable _ => Bool
  | daemonLogPath .. => Except String String
  | spawnDaemon .. => Except String Child
  | daemonRounds => Nat
  | readDaemonLog .. => Except String String
  | listModels _ => Except String (List String)
  | warmupModel .. => Except String String
  | stopOllama _ | checkOllama _ | testOllama _ => ModelInstanceTaskResult
  | runScript .. | testUrls .. => ModelInstanceTaskResult
  | prepareGateway _ => Except String Unit
  | spawnGateway .. => Except String Child
  | gatewayHealth _ => Except String String
  | nowUnixSecs => Int

inductive FileAction where
  | readStore
  | writeStore
  | readGateway
  | writeGateway
  | removeGateway
  deriving DecidableEq

/-- What runs at one moment, and what each call would answer at it. -/
structure Moment where
  /-- The start time of the process that has a process id. -/
  processes : Int → Option Nat
  /-- Whether the container of a container id or name runs. -/
  containers : String → Bool
  /-- The container, running or stopped, that holds a name. -/
  nameHolder : String → Option String
  /-- The container that a `docker run` creates, whatever the command answers. -/
  created : List String → Option String
  /-- Why an action on one of the agent's files fails. -/
  fileError : FileAction → Option String
  answer : (call : Call) → call.Answer

/-- An answer that says that the call has failed, or has found nothing. -/
def Call.failed : (call : Call) → call.Answer
  | .readStat _ => none
  | .kill _ | .dockerInspect _ | .dockerStop _ | .dockerRun _ => .timedOut
  | .prepare _ => .error "not prepared"
  | .spawn _ | .spawnGateway .. => .error "not spawned"
  | .controlledLogPath .. => .error "no log"
  | .tryWait _ => .error "not waited"
  | .killChild _ => .error "not killed"
  | .endpointReady .. => false
  | .readLog _ => none
  | .apiTagsReachable _ => false
  | .daemonLogPath .. => .error "no log"
  | .spawnDaemon .. => .error "not spawned"
  | .daemonRounds => 0
  | .readDaemonLog .. => .error "no log"
  | .listModels _ => .error "no answer"
  | .warmupModel .. => .error "no answer"
  | .stopOllama _ | .checkOllama _ | .testOllama _ | .runScript .. | .testUrls .. =>
      { instanceStatus := "failed", message := "" }
  | .prepareGateway _ => .error "not prepared"
  | .gatewayHealth _ => .error "no answer"
  | .nowUnixSecs => 0

/-- Nothing runs, the agent's files can be read and written, and every call fails. -/
def Moment.idle : Moment where
  processes _ := none
  containers _ := false
  nameHolder _ := none
  created _ := none
  fileError _ := none
  answer := Call.failed

/-! ### Operations -/

inductive Op where
  | readStore
  /-- Writing replaces the whole file, or leaves it as it is. -/
  | writeStore (records : List ManagedProcessRecord)
  | insertHandle (instanceId : String) (handle : ProcessHandle)
  | removeHandle (instanceId : String)
  /-- One round of the monitor of a child, under the lock of the registry. -/
  | monitor (instanceId : String)
  | findDaemon (runtimeEnvId : String)
  | insertDaemon (runtimeEnvId : String) (handle : DaemonHandle)
  | removeDaemon (runtimeEnvId : String)
  | readGateway
  | writeGateway (record : GatewayProcessRecord)
  | removeGateway
  | call (call : Call)

abbrev Op.Answer : Op → Type
  | .readStore => Except String (List ManagedProcessRecord)
  | .writeStore _ => Except String Unit
  | .insertHandle .. => Unit
  | .removeHandle _ => Option ProcessHandle
  | .monitor _ => Unit
  | .findDaemon _ => Option DaemonHandle
  | .insertDaemon .. => Unit
  | .removeDaemon _ => Unit
  | .readGateway => Except String (Option GatewayProcessRecord)
  | .writeGateway _ => Except String Unit
  | .removeGateway => Except String Unit
  | .call c => c.Answer

structure World where
  store : StoreFile := .missing
  registry : String → Option ProcessHandle := fun _ => none
  daemons : String → Option DaemonHandle := fun _ => none
  gateway : GatewayFile := .missing
  now : Nat := 0

/-- The world one moment later. -/
def World.tick (w : World) : World := { w with now := w.now + 1 }

abbrev Async (α : Type) := Program Op Op.Answer α

def perform (op : Op) : Async op.Answer := Program.perform op

def await (c : Call) : Async c.Answer := perform (.call c)

section Exec

variable (env : Nat → Moment)

def Op.exec : (op : Op) → World → op.Answer × World
  | .readStore, w =>
      (match (env w.now).fileError .readStore with
        | some error => .error error
        | none => w.store.loaded,
        w.tick)
  | .writeStore records, w =>
      match (env w.now).fileError .writeStore with
      | some error => (.error error, w.tick)
      | none => (.ok (), { w.tick with store := .records records })
  | .insertHandle instanceId handle, w =>
      ((), { w.tick with registry := Function.update w.registry instanceId (some handle) })
  | .removeHandle instanceId, w =>
      (w.registry instanceId,
        { w.tick with registry := Function.update w.registry instanceId none })
  | .monitor instanceId, w =>
      match w.registry instanceId with
      | none => ((), w.tick)
      | some handle =>
          match (env w.now).answer (.tryWait handle.child) with
          | .ok none => ((), w.tick)
          | _ => ((), { w.tick with registry := Function.update w.registry instanceId none })
  | .findDaemon runtimeEnvId, w => (w.daemons runtimeEnvId, w.tick)
  | .insertDaemon runtimeEnvId handle, w =>
      ((), { w.tick with daemons := Function.update w.daemons runtimeEnvId (some handle) })
  | .removeDaemon runtimeEnvId, w =>
      ((), { w.tick with daemons := Function.update w.daemons runtimeEnvId none })
  | .readGateway, w =>
      (match (env w.now).fileError .readGateway with
        | some error => .error error
        | none => w.gateway.loaded,
        w.tick)
  | .writeGateway record, w =>
      match (env w.now).fileError .writeGateway with
      | some error => (.error error, w.tick)
      | none => (.ok (), { w.tick with gateway := .record record })
  | .removeGateway, w =>
      match (env w.now).fileError .removeGateway with
      | some error => (.error error, w.tick)
      | none => (.ok (), { w.tick with gateway := .missing })
  | .call c, w => ((env w.now).answer c, w.tick)

/-- The agent's programs run alone. -/
def run {α : Type} (program : Async α) (w : World) : α × World := program.run (Op.exec env) w

variable {env} {α β : Type}

@[simp]
theorem run_pure (a : α) (w : World) : run env (pure a) w = (a, w) := rfl

theorem run_bind (program : Async α) (f : α → Async β) (w : World) :
    run env (program >>= f) w = run env (f (run env program w).1) (run env program w).2 :=
  Program.run_bind (Op.exec env) program f w

theorem run_bind_bind {γ : Type} (program : Async α) (f : α → Async β) (g : β → Async γ)
    (w : World) :
    run env (program >>= f >>= g) w
      = run env (f (run env program w).1 >>= g) (run env program w).2 := by
  rw [run_bind, run_bind, run_bind]

@[simp]
theorem run_perform (op : Op) (w : World) : run env (perform op) w = op.exec env w := rfl

@[simp]
theorem run_await (c : Call) (w : World) :
    run env (await c) w = ((env w.now).answer c, w.tick) := rfl

theorem run_await_bind (c : Call) (f : c.Answer → Async α) (w : World) :
    run env (await c >>= f) w = run env (f ((env w.now).answer c)) w.tick := rfl

theorem run_await_bind_bind {γ : Type} (c : Call) (f : c.Answer → Async α) (g : α → Async γ)
    (w : World) :
    run env (await c >>= f >>= g) w = run env (f ((env w.now).answer c) >>= g) w.tick := rfl

theorem exec_now (op : Op) (w : World) : (op.exec env w).2.now = w.now + 1 := by
  cases op <;> simp only [Op.exec]
  case monitor instanceId =>
    split
    · rfl
    · split <;> rfl
  all_goals first | rfl | (split <;> rfl)

/-- Time does not go back. -/
theorem now_le_run (program : Async α) (w : World) : w.now ≤ (run env program w).2.now := by
  refine (program.performs_true).run_rel (R := fun w w' => w.now ≤ w'.now) ?_ ?_ ?_ w
  · intro w
    exact Nat.le_refl _
  · intro s t u hst htu
    exact Nat.le_trans hst htu
  · intro op w _
    rw [exec_now]
    exact Nat.le_succ _

end Exec

end LightAI.Agent
