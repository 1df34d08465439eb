import LightAI.Agent.Process

/-!
# The processes and containers that a run of the agent creates

A child exists from the moment at which it is spawned. A container exists from the moment at which
docker creates it, whatever the command then answers.
-/

namespace LightAI.Agent

def Moment.runsChild (m : Moment) (child : Child) : Bool :=
  m.processes child.processId = some child.startTime

/-- A process or a container. -/
inductive Created where
  | child (child : Child)
  | container (containerId : String)
  deriving DecidableEq

def Created.child? : Created → Option Child
  | .child spawned => some spawned
  | .container _ => none

/-- Whether a process or container runs. -/
def Moment.has (m : Moment) : Created → Bool
  | .child child => m.runsChild child
  | .container containerId => m.containers containerId

/-- What an operation creates at a moment. -/
def Op.creates (m : Moment) : Op → Option Created
  | .call (.spawn plan) => (m.answer (.spawn plan)).toOption.map .child
  | .call (.spawnDaemon binaryPath vars) =>
      (m.answer (.spawnDaemon binaryPath vars)).toOption.map .child
  | .call (.spawnGateway program args currentDir) =>
      (m.answer (.spawnGateway program args currentDir)).toOption.map .child
  | .call (.dockerRun args) => (m.created args).map .container
  | _ => none

section CreatedBy

variable (env : Nat → Moment) {α β : Type}

/-- What a run of a program creates, in the order of its operations. -/
def createdBy (program : Async α) (w : World) : List Created :=
  program.emits (Op.exec env) (fun op w => (op.creates (env w.now)).toList) w

variable {env}

@[simp]
theorem createdBy_pure (value : α) (w : World) : createdBy env (pure value) w = [] := rfl

theorem createdBy_bind (program : Async α) (f : α → Async β) (w : World) :
    createdBy env (program >>= f) w
      = createdBy env program w ++ createdBy env (f (run env program w).1) (run env program w).2 :=
  Program.emits_bind _ _ program f w

theorem createdBy_await_bind (c : Call) (f : c.Answer → Async α) (w : World) :
    createdBy env (await c >>= f) w
      = ((Op.call c).creates (env w.now)).toList
        ++ createdBy env (f ((env w.now).answer c)) w.tick := rfl

theorem createdBy_await_bind_bind (c : Call) (f : c.Answer → Async α) (g : α → Async β) (w : World) :
    createdBy env (await c >>= f >>= g) w
      = ((Op.call c).creates (env w.now)).toList
        ++ createdBy env (f ((env w.now).answer c) >>= g) w.tick := rfl

/-- The operation creates nothing. -/
def Quiet (op : Op) : Prop := ∀ m, op.creates m = none

theorem createdBy_quiet {program : Async α} (h : program.Performs Quiet) (w : World) :
    createdBy env program w = [] := by
  refine h.emits_eq_nil (fun op w hquiet => ?_) w
  rw [hquiet]
  rfl

theorem createdBy_await_quiet {c : Call} (hquiet : Quiet (.call c)) (f : c.Answer → Async α)
    (w : World) :
    createdBy env (await c >>= f) w = createdBy env (f ((env w.now).answer c)) w.tick := by
  rw [createdBy_await_bind, hquiet]
  rfl

theorem createdBy_quiet_bind {program : Async α} (h : program.Performs Quiet) (f : α → Async β)
    (w : World) :
    createdBy env (program >>= f) w
      = createdBy env (f (run env program w).1) (run env program w).2 := by
  rw [createdBy_bind, createdBy_quiet h, List.nil_append]

theorem createdBy_quiet_bind_bind {γ : Type} {program : Async α} (h : program.Performs Quiet)
    (f : α → Async β) (g : β → Async γ) (w : World) :
    createdBy env (program >>= f >>= g) w
      = createdBy env (f (run env program w).1 >>= g) (run env program w).2 := by
  calc
    createdBy env (program >>= f >>= g) w
        = createdBy env program w
            ++ createdBy env (f (run env program w).1) (run env program w).2
            ++ createdBy env (g (run env (f (run env program w).1) (run env program w).2).1)
                (run env (f (run env program w).1) (run env program w).2).2 := by
      rw [createdBy_bind, createdBy_bind, run_bind]
    _ = createdBy env (f (run env program w).1 >>= g) (run env program w).2 := by
      rw [createdBy_quiet h, List.nil_append, createdBy_bind]

end CreatedBy

/-! ### Programs that create nothing -/

/-- The operations of a start that come after it has spawned something. -/
def Op.followsSpawn : Op → Prop
  | .readStore | .writeStore _ | .insertHandle .. => True
  | .findDaemon _ | .insertDaemon .. | .removeDaemon _ => True
  | .call (.readStat _) | .call (.controlledLogPath ..) | .call (.tryWait _) => True
  | .call (.killChild _) | .call (.endpointReady ..) | .call (.readLog _) | .call .nowUnixSecs => True
  | .call (.apiTagsReachable _) | .call (.daemonLogPath ..) | .call .daemonRounds => True
  | .call (.readDaemonLog ..) | .call (.listModels _) | .call (.warmupModel ..) => True
  | _ => False

theorem quiet_of_follows {op : Op} (h : op.followsSpawn) : Quiet op := by
  intro m
  cases op with
  | call c =>
      cases c with
      | dockerRun args => exact h.elim
      | spawn plan => exact h.elim
      | spawnDaemon binaryPath vars => exact h.elim
      | spawnGateway program args currentDir => exact h.elim
      | _ => rfl
  | _ => rfl

theorem createdBy_follows {α : Type} {env : Nat → Moment} {program : Async α}
    (h : program.Performs Op.followsSpawn) (w : World) : createdBy env program w = [] :=
  createdBy_quiet (h.mono fun _ => quiet_of_follows) w

section Quiet

theorem performs_perform {ok : Op → Prop} {op : Op} (h : ok op) : (perform op).Performs ok :=
  ⟨h, fun _ => trivial⟩

theorem performs_await {ok : Op → Prop} {c : Call} (h : ok (.call c)) : (await c).Performs ok :=
  performs_perform h

theorem follows_modify (f : List ManagedProcessRecord → List ManagedProcessRecord) :
    (modify f).Performs Op.followsSpawn := by
  refine (performs_perform trivial).bind fun records => ?_
  cases records with
  | error error => trivial
  | ok records => exact performs_perform trivial

theorem follows_processStartTime (pid : Int) : (processStartTime pid).Performs Op.followsSpawn :=
  (performs_await trivial).bind fun _ => trivial

namespace StartingProcess

variable (deps : External) (p : StartingProcess) (store : Bool) (logPath : Option String)

/-- The child is killed, its output is read and the start fails. -/
theorem follows_killed (message : Option String → ModelInstanceTaskResult) :
    Program.Performs Op.followsSpawn (do
      let _ ← await (.killChild p.child)
      let logTail ← await (.readLog p.child)
      pure (message logTail)) := by
  refine (performs_await trivial).bind fun _ => ?_
  exact (performs_await trivial).bind fun _ => trivial

theorem follows_register (logTail : Option String) : (p.register logTail).Performs Op.followsSpawn :=
  (performs_perform trivial).bind fun _ => trivial

theorem follows_writeRecord : (p.writeRecord store logPath).Performs Op.followsSpawn := by
  refine (performs_await trivial).bind fun tail => ?_
  cases store with
  | false => exact p.follows_register _
  | true =>
      refine (performs_await trivial).bind fun startedAt => ?_
      refine (follows_modify _).bind fun written => ?_
      cases written with
      | ok _ => exact p.follows_register _
      | error error => exact p.follows_killed _

theorem follows_verify : (p.verify store logPath).Performs Op.followsSpawn := by
  refine (performs_await trivial).bind fun waited => ?_
  match waited with
  | .ok none => exact p.follows_writeRecord store logPath
  | .ok (some status) => exact (performs_await trivial).bind fun _ => trivial
  | .error error => exact p.follows_killed _

theorem follows_serviceReady : (p.serviceReady deps).Performs Op.followsSpawn := by
  unfold serviceReady
  split
  · refine (performs_await trivial).bind fun waited => ?_
    match waited with
    | .ok none => trivial
    | .ok (some status) => trivial
    | .error error => trivial
  · exact performs_await trivial

theorem follows_awaitReady : (p.awaitReady deps store logPath).Performs Op.followsSpawn := by
  refine (p.follows_serviceReady deps).bind fun ready => ?_
  cases ready with
  | true => exact p.follows_verify store logPath
  | false => exact p.follows_killed _

theorem follows_awaitStart : (p.awaitStart deps store logPath).Performs Op.followsSpawn := by
  refine (performs_await trivial).bind fun waited => ?_
  match waited with
  | .ok none => exact p.follows_awaitReady deps store logPath
  | .ok (some status) => exact (performs_await trivial).bind fun _ => trivial
  | .error error => exact (performs_await trivial).bind fun _ => trivial

theorem follows_openLog : (p.openLog deps store).Performs Op.followsSpawn := by
  unfold openLog
  split
  · exact p.follows_awaitStart deps store none
  · refine (performs_await trivial).bind fun opened => ?_
    cases opened with
    | ok path => exact p.follows_awaitStart deps store (some path)
    | error message => trivial

end StartingProcess

theorem follows_writeContainerRecord (instanceId containerName : String) (store : Bool)
    (result : ModelInstanceTaskResult) :
    (writeContainerRecord instanceId containerName store result).Performs Op.followsSpawn := by
  refine (performs_await trivial).bind fun now => ?_
  cases store with
  | false => trivial
  | true =>
      refine (follows_modify _).bind fun written => ?_
      cases written with
      | ok _ => trivial
      | error error => trivial

/-! ### Programs that touch no account but that of the daemons -/

/-- A call, or an operation on the registry of daemons. -/
def Op.isDaemonOp : Op → Prop
  | .call _ | .findDaemon _ | .insertDaemon .. | .removeDaemon _ => True
  | _ => False

def QuietDaemonOp (op : Op) : Prop := op.followsSpawn ∧ op.isDaemonOp

theorem quiet_daemon_awaitDaemon (baseUrl : String) (rounds : Nat) :
    (awaitDaemon baseUrl rounds).Performs QuietDaemonOp := by
  induction rounds with
  | zero => trivial
  | succ rounds ih =>
      refine (performs_await ⟨trivial, trivial⟩).bind fun reachable => ?_
      cases reachable with
      | true => trivial
      | false => exact ih

theorem quiet_daemon_adoptDaemon (runtimeEnvId logDir baseUrl logPath : String) (child : Child) :
    (adoptDaemon runtimeEnvId logDir baseUrl logPath child).Performs QuietDaemonOp := by
  refine (performs_await ⟨trivial, trivial⟩).bind fun rounds => ?_
  refine (quiet_daemon_awaitDaemon baseUrl rounds).bind fun ready => ?_
  cases ready with
  | true => exact (performs_perform ⟨trivial, trivial⟩).bind fun _ => trivial
  | false =>
      refine (performs_await ⟨trivial, trivial⟩).bind fun _ => ?_
      exact (performs_await ⟨trivial, trivial⟩).bind fun _ => trivial

theorem quiet_daemon_daemonNotSpawned (runtimeEnvId logDir baseUrl startErr : String) :
    (daemonNotSpawned runtimeEnvId logDir baseUrl startErr).Performs QuietDaemonOp := by
  unfold daemonNotSpawned
  split
  · refine (performs_await ⟨trivial, trivial⟩).bind fun reachable => ?_
    cases reachable with
    | false => trivial
    | true =>
        refine (performs_await ⟨trivial, trivial⟩).bind fun opened => ?_
        cases opened with
        | error error => trivial
        | ok logPath => trivial
  · trivial

theorem quiet_daemon_liveDaemon (runtimeEnvId : String) :
    (liveDaemon runtimeEnvId).Performs QuietDaemonOp := by
  refine (performs_perform ⟨trivial, trivial⟩).bind fun handle => ?_
  cases handle with
  | none => trivial
  | some handle =>
      refine (performs_await ⟨trivial, trivial⟩).bind fun waited => ?_
      match waited with
      | .ok none => trivial
      | .ok (some status) => trivial
      | .error error => trivial

theorem quiet_daemon_loadModel (runtimeEnvId model keepAlive : String) (daemon : EnsuredDaemon) :
    (loadModel runtimeEnvId model keepAlive daemon).Performs QuietDaemonOp := by
  refine (performs_await ⟨trivial, trivial⟩).bind fun listed => ?_
  cases listed with
  | error error => trivial
  | ok models =>
      dsimp only
      split
      · refine (performs_await ⟨trivial, trivial⟩).bind fun warmed => ?_
        cases warmed with
        | error error => trivial
        | ok _ => trivial
      · trivial

theorem quiet_daemon_load (start : OllamaStart) (ensured : Except String EnsuredDaemon) :
    (start.load ensured).Performs QuietDaemonOp := by
  cases ensured with
  | error error => trivial
  | ok daemon => exact quiet_daemon_loadModel ..

theorem quiet_of_daemon {α : Type} {program : Async α} (h : program.Performs QuietDaemonOp) :
    program.Performs Quiet := h.mono fun _ hop => quiet_of_follows hop.1

/-- The operations of the start of a process. -/
def Op.startsChild : Op → Prop
  | .call (.prepare _) | .call (.spawn _) | .call (.spawnDaemon ..) => True
  | op => op.followsSpawn

theorem startsChild_of_follows {op : Op} (h : op.followsSpawn) : op.startsChild := by
  cases op with
  | call c =>
      cases c with
      | prepare payload => trivial
      | spawn plan => trivial
      | spawnDaemon binaryPath vars => trivial
      | _ => exact h
  | _ => exact h

theorem startsChild_startLocalInstance (deps : External) (instanceId : String) (payload : Json)
    (store : Bool) : (startLocalInstance deps instanceId payload store).Performs Op.startsChild := by
  refine (performs_await trivial).bind fun prepared => ?_
  cases prepared with
  | error message => trivial
  | ok plan =>
      refine (performs_await trivial).bind fun spawned => ?_
      cases spawned with
      | error error => trivial
      | ok child =>
          refine ((follows_processStartTime child.processId).bind fun startTime => ?_).mono
            fun _ => startsChild_of_follows
          exact StartingProcess.follows_openLog deps _ store

/-- The start of an Ollama instance touches no account but that of the daemons. -/
theorem startsChild_startOllamaInstance (deps : External) (payload : Json) :
    (startOllamaInstance deps payload).Performs fun op => op.startsChild ∧ op.isDaemonOp := by
  have hquiet : ∀ op, QuietDaemonOp op → op.startsChild ∧ op.isDaemonOp :=
    fun _ hop => ⟨startsChild_of_follows hop.1, hop.2⟩
  unfold startOllamaInstance
  generalize OllamaStart.fromPayload deps payload = start
  dsimp only
  split
  · trivial
  · refine Program.Performs.bind ?_ fun ensured => (quiet_daemon_load start ensured).mono hquiet
    refine (performs_await ⟨trivial, trivial⟩).bind fun reachable => ?_
    split
    · exact (performs_await ⟨trivial, trivial⟩).bind fun opened => trivial
    · refine ((quiet_daemon_liveDaemon _).mono hquiet).bind fun live => ?_
      cases live with
      | some handle => trivial
      | none =>
          refine (performs_perform ⟨trivial, trivial⟩).bind fun _ => ?_
          refine (performs_await ⟨trivial, trivial⟩).bind fun opened => ?_
          cases opened with
          | error error => trivial
          | ok logPath =>
              refine (performs_await ⟨trivial, trivial⟩).bind fun spawned => ?_
              cases spawned with
              | ok child => exact (quiet_daemon_adoptDaemon ..).mono hquiet
              | error startErr => exact (quiet_daemon_daemonNotSpawned ..).mono hquiet

theorem daemon_startOllamaInstance (deps : External) (payload : Json) :
    (startOllamaInstance deps payload).Performs Op.isDaemonOp :=
  (startsChild_startOllamaInstance deps payload).mono fun _ hop => hop.2

/-- What touches no other account leaves the others as they are. -/
theorem run_daemonOp {α : Type} {env : Nat → Moment} {program : Async α}
    (h : program.Performs Op.isDaemonOp) (w : World) :
    ∃ daemons now, (run env program w).2 = { w with daemons, now } := by
  refine h.run_rel (R := fun w w' => ∃ daemons now, w' = { w with daemons, now }) ?_ ?_ ?_ w
  · intro w
    exact ⟨w.daemons, w.now, rfl⟩
  · rintro s t u ⟨_, _, rfl⟩ ⟨daemons, now, rfl⟩
    exact ⟨daemons, now, rfl⟩
  · intro op w hop
    cases op with
    | call c => exact ⟨w.daemons, w.now + 1, rfl⟩
    | findDaemon runtimeEnvId => exact ⟨w.daemons, w.now + 1, rfl⟩
    | insertDaemon runtimeEnvId handle => exact ⟨_, w.now + 1, rfl⟩
    | removeDaemon runtimeEnvId => exact ⟨_, w.now + 1, rfl⟩
    | _ => exact hop.elim

end Quiet

end LightAI.Agent
