import LightAI.Agent.FailedStart

/-!
# What a start leaves in the agent's accounts

A start that answers `running` has written a record, if there is a store, and a local one has entered
the registry. Every other start leaves both as they were.
-/

namespace LightAI.Agent

/-! ### A local process -/

namespace StartingProcess

variable (p : StartingProcess) (store : Bool)

/-- The world after the start of a process has been recorded. -/
def recordedIn (w : World) (logPath : Option String) (startedAt : Int) (now : Nat) : World :=
  { w with
    store :=
      if store then .records (without p.instanceId w.store.held ++ [p.record logPath startedAt])
      else w.store
    registry := Function.update w.registry p.instanceId
      (some { child := p.child, command := p.plan.command })
    now }

/-- A part of a start has failed and left everything as it was, or the start has succeeded. -/
def Settles (w : World) (outcome : ModelInstanceTaskResult × World) : Prop :=
  (outcome.1.instanceStatus = "failed" ∧ outcome.1.processId = none ∧
      ∃ now, outcome.2 = { w with now }) ∨
    ∃ logTail logPath startedAt now,
      outcome = (p.running logTail, p.recordedIn store w logPath startedAt now)

variable {p store}

theorem Settles.failed {w w' : World} {result : ModelInstanceTaskResult} {message : String}
    {logTail : Option String} (hresult : result = p.failure message logTail)
    (hworld : ∃ now, w' = { w with now }) : p.Settles store w (result, w') :=
  .inl ⟨by rw [hresult]; rfl, by rw [hresult]; rfl, hworld⟩

/-- Time that passes before a part of a start does not matter. -/
theorem Settles.later {w : World} {now : Nat} {outcome : ModelInstanceTaskResult × World}
    (h : p.Settles store { w with now } outcome) : p.Settles store w outcome := h

variable (deps : External) {env : Nat → Moment} (p store) (logPath : Option String) (w : World)

theorem settles_writeRecord : p.Settles store w (run env (p.writeRecord store logPath) w) := by
  cases store with
  | false => exact .inr ⟨_, logPath, 0, w.now + 2, rfl⟩
  | true =>
      rw [writeRecord, run_await_bind, if_pos rfl, run_await_bind, run_bind]
      generalize (env w.tick.now).answer .nowUnixSecs = startedAt
      rcases @run_modify env w.tick.tick
          fun records => without p.instanceId records ++ [p.record logPath startedAt] with
        ⟨hfails, error, now, hrun⟩ | ⟨hsucceeds, hrun⟩
      · have hupsert : run env (upsert (p.record logPath startedAt)) w.tick.tick
            = (.error error, { w.tick.tick with now }) := hrun
        rw [hupsert]
        exact .failed rfl ⟨now + 2, rfl⟩
      · have hupsert : run env (upsert (p.record logPath startedAt)) w.tick.tick
            = (.ok (), { w.tick.tick with
                store := .records (without p.instanceId w.store.held ++ [p.record logPath startedAt])
                now := w.now + 4 }) := hrun
        rw [hupsert]
        exact .inr ⟨_, logPath, startedAt, w.now + 5, rfl⟩

theorem settles_verify : p.Settles store w (run env (p.verify store logPath) w) := by
  rw [verify, run_await_bind]
  cases (env w.now).answer (.tryWait p.child) with
  | error error => exact .failed rfl ⟨w.now + 3, rfl⟩
  | ok exit =>
      cases exit with
      | none => exact (p.settles_writeRecord store logPath w.tick).later
      | some status => exact .failed rfl ⟨w.now + 2, rfl⟩

theorem settles_awaitReady : p.Settles store w (run env (p.awaitReady deps store logPath) w) := by
  rw [awaitReady, run_bind, p.run_serviceReady]
  dsimp only
  cases p.readyAt deps (env w.now) with
  | true => exact (p.settles_verify store logPath w.tick).later
  | false => exact .failed rfl ⟨w.now + 3, rfl⟩

theorem settles_awaitStart : p.Settles store w (run env (p.awaitStart deps store logPath) w) := by
  rw [awaitStart, run_await_bind]
  cases (env w.now).answer (.tryWait p.child) with
  | error error => exact .failed rfl ⟨w.now + 2, rfl⟩
  | ok exit =>
      cases exit with
      | none => exact (p.settles_awaitReady store deps logPath w.tick).later
      | some status => exact .failed rfl ⟨w.now + 2, rfl⟩

theorem settles_openLog : p.Settles store w (run env (p.openLog deps store) w) := by
  unfold openLog
  cases ((p.payload.getStr "log_dir").map Text.trim).filter (· ≠ "") with
  | none => exact p.settles_awaitStart store deps none w
  | some logDir =>
      dsimp only
      rw [run_await_bind]
      cases (env w.now).answer (.controlledLogPath logDir p.instanceId) with
      | ok path => exact (p.settles_awaitStart store deps (some path) w.tick).later
      | error message => exact .failed rfl ⟨w.now + 1, rfl⟩

variable {deps logPath} in
theorem awaitStart_waits (h : (run env (p.awaitStart deps store logPath) w).1.processId ≠ none) :
    (env w.now).answer (.tryWait p.child) = Except.ok none := by
  rw [awaitStart, run_await_bind] at h
  cases hwaited : (env w.now).answer (.tryWait p.child) with
  | error error =>
      rw [hwaited] at h
      exact absurd rfl h
  | ok exit =>
      cases exit with
      | none => rfl
      | some status =>
          rw [hwaited] at h
          exact absurd rfl h

/-- A start answers with a process id only if the child has been seen not to have exited. -/
theorem openLog_waits (h : (run env (p.openLog deps store) w).1.processId ≠ none) :
    ∃ t, w.now ≤ t ∧ (env t).answer (.tryWait p.child) = Except.ok none := by
  unfold openLog at h
  cases hlog : ((p.payload.getStr "log_dir").map Text.trim).filter (· ≠ "") with
  | none =>
      rw [hlog] at h
      exact ⟨w.now, Nat.le_refl _, p.awaitStart_waits store w h⟩
  | some logDir =>
      rw [hlog] at h
      dsimp only at h
      rw [run_await_bind] at h
      cases hopened : (env w.now).answer (.controlledLogPath logDir p.instanceId) with
      | ok path =>
          rw [hopened] at h
          exact ⟨w.now + 1, Nat.le_succ _, p.awaitStart_waits store w.tick h⟩
      | error message =>
          rw [hopened] at h
          exact absurd rfl h

end StartingProcess

/-! ### A whole start -/

section Start

variable (deps : External) {env : Nat → Moment} (payload : Json) (store : Bool) (w : World)

/-- A start that has recorded nothing: it has failed, or it is one of Ollama. -/
def NothingRecorded (outcome : ModelInstanceTaskResult × World) : Prop :=
  outcome.1.processId = none ∧
    (outcome.1.instanceStatus = "failed" ∨
      payloadText payload "deploy_type" ≠ "docker" ∧ payloadText payload "backend" = "ollama") ∧
    ∃ daemons now, outcome.2 = { w with daemons, now }

variable (env) in
/-- A local process has been spawned and recorded. -/
def ProcessRecorded (created : List Created) (outcome : ModelInstanceTaskResult × World) : Prop :=
  ∃ p : StartingProcess, p.instanceId = payloadText payload "instance_id" ∧
    (env (w.now + 1)).answer (.spawn p.plan) = Except.ok p.child ∧
    p.startTime = Option.bind ((env (w.now + 2)).answer (.readStat p.child.processId))
      parseLinuxStatStartTime ∧
    created = [.child p.child] ∧
    (∃ t, w.now + 2 < t ∧ (env t).answer (.tryWait p.child) = Except.ok none) ∧
    ∃ logTail logPath startedAt now,
      outcome = (p.running logTail, p.recordedIn store w logPath startedAt now)

/-- The arguments of the `docker run` of a start. -/
def dockerRunArgs : Except String (List String) :=
  let dockerPayload := resolveDockerPayload deps payload
  (buildDockerRunArgs dockerPayload).map fun dockerArgs =>
    dockerArgs ++ buildVllmArgs deps dockerPayload

/-- The world after the start of a container has been recorded. -/
def containerIn (containerId baseUrl command : String) (startedAt : Int) (now : Nat) : World :=
  { w with
    store :=
      if store then .records (without (payloadText payload "instance_id") w.store.held
        ++ [createDockerManagedRecord (payloadText payload "instance_id") containerId
          (resolveDockerPayload deps payload).docker.containerName baseUrl command startedAt])
      else w.store
    now }

variable (env) in
/-- `docker run` has succeeded, and its container has been recorded. -/
def ContainerRecorded (created : List Created) (outcome : ModelInstanceTaskResult × World) : Prop :=
  ∃ args status stdout stderr, dockerRunArgs deps payload = .ok args ∧
    (env w.now).answer (.dockerRun args) = CommandOutcome.exited true status stdout stderr ∧
    created = (((env w.now).created args).map .container).toList ∧
    outcome.1.processId = none ∧ outcome.1.instanceStatus = "running" ∧
    ∃ baseUrl command startedAt now,
      outcome.2 = containerIn deps payload store w (Text.trim stdout) baseUrl command startedAt now

theorem startLocalInstance_cases :
    NothingRecorded payload w (run env
        (startLocalInstance deps (payloadText payload "instance_id") payload store) w) ∨
      ProcessRecorded env payload store w
        (createdBy env (startLocalInstance deps (payloadText payload "instance_id") payload store) w)
        (run env (startLocalInstance deps (payloadText payload "instance_id") payload store) w) := by
  unfold startLocalInstance
  rw [run_await_bind, createdBy_await_bind]
  cases (env w.now).answer (.prepare payload) with
  | error message => exact .inl ⟨rfl, .inl rfl, w.daemons, w.now + 1, rfl⟩
  | ok plan =>
      dsimp only
      rw [run_await_bind, createdBy_await_bind]
      have hcreates : (Op.call (.spawn plan)).creates (env w.tick.now)
          = ((env (w.now + 1)).answer (.spawn plan)).toOption.map .child := rfl
      have hmoment : (env w.tick.now).answer (.spawn plan)
          = (env (w.now + 1)).answer (.spawn plan) := rfl
      rw [hcreates, hmoment]
      cases hspawn : (env (w.now + 1)).answer (.spawn plan) with
      | error error => exact .inl ⟨rfl, .inl rfl, w.daemons, w.now + 2, rfl⟩
      | ok child =>
          dsimp only
          let p : StartingProcess :=
            { instanceId := payloadText payload "instance_id"
              payload
              plan
              child
              startTime := Option.bind ((env (w.now + 2)).answer (.readStat child.processId))
                parseLinuxStatStartTime }
          have hstat : run env (processStartTime child.processId) w.tick.tick
              = (p.startTime, w.tick.tick.tick) := rfl
          rw [run_bind, createdBy_bind, createdBy_follows (follows_processStartTime child.processId),
            createdBy_follows (StartingProcess.follows_openLog deps _ store), hstat]
          have hsettles := (@StartingProcess.settles_openLog p store deps env w.tick.tick.tick).later
          rcases hsettles with ⟨hstatus, hpid, now, hworld⟩ | hrunning
          · exact .inl ⟨hpid, .inl hstatus, w.daemons, now, hworld⟩
          · have hwaits : ∃ t, w.now + 3 ≤ t ∧ (env t).answer (.tryWait p.child) = Except.ok none := by
              refine p.openLog_waits store deps w.tick.tick.tick ?_
              obtain ⟨_, _, _, _, houtcome⟩ := hrunning
              rw [houtcome]
              exact Option.some_ne_none _
            exact .inr ⟨p, rfl, hspawn, rfl, rfl, hwaits, hrunning⟩

omit deps payload store w in
theorem dockerRunResult_processId (payload : DockerPayload) (summary : String)
    (outcome : CommandOutcome) : (dockerRunResult payload summary outcome).processId = none := by
  cases outcome with
  | timedOut => rfl
  | spawnFailed error => rfl
  | exited success status stdout stderr =>
      cases success with
      | true => rfl
      | false => rfl

/-- The record of a container is written, or the start fails. -/
theorem writeContainerRecord_cases (instanceId containerId name : String)
    {result : ModelInstanceTaskResult} (hid : result.processRef = some containerId) (w : World) :
    (∃ now, (run env (writeContainerRecord instanceId name store result) w).1.instanceStatus = "failed" ∧
        (run env (writeContainerRecord instanceId name store result) w).1.processId = none ∧
        (run env (writeContainerRecord instanceId name store result) w).2 = { w with now }) ∨
      ∃ baseUrl command startedAt now,
        run env (writeContainerRecord instanceId name store result) w
          = (result, { w with
              store :=
                if store then .records (without instanceId w.store.held
                  ++ [createDockerManagedRecord instanceId containerId name baseUrl command startedAt])
                else w.store
              now }) := by
  unfold writeContainerRecord
  rw [run_await_bind, hid]
  cases store with
  | false => exact .inr ⟨"", "", 0, w.now + 1, rfl⟩
  | true =>
      rw [if_pos rfl, run_bind]
      let baseUrl := result.baseUrl.getD ""
      let command := result.command.getD ""
      generalize (env w.now).answer .nowUnixSecs = startedAt
      let record := createDockerManagedRecord instanceId containerId name baseUrl command startedAt
      rcases @run_modify env w.tick
          fun records => without instanceId records ++ [record] with
        ⟨hfails, error, now, hrun⟩ | ⟨hsucceeds, hrun⟩
      · have hupsert : run env (upsert (createDockerManagedRecord instanceId
            ((some containerId).getD "") name baseUrl command startedAt)) w.tick
            = (.error error, { w.tick with now }) := hrun
        rw [hupsert]
        exact .inl ⟨now, rfl, rfl, rfl⟩
      · have hupsert : run env (upsert (createDockerManagedRecord instanceId
            ((some containerId).getD "") name baseUrl command startedAt)) w.tick
            = (.ok (), { w.tick with
                store := .records (without instanceId w.store.held ++ [record])
                now := w.now + 3 }) := hrun
        rw [hupsert]
        exact .inr ⟨baseUrl, command, startedAt, w.now + 3, rfl⟩

theorem startDockerInstance_cases :
    NothingRecorded payload w (run env
        (startDockerInstance deps (payloadText payload "instance_id") payload store) w) ∨
      ContainerRecorded deps env payload store w
        (createdBy env (startDockerInstance deps (payloadText payload "instance_id") payload store) w)
        (run env (startDockerInstance deps (payloadText payload "instance_id") payload store) w) := by
  unfold startDockerInstance startDockerContainer
  dsimp only
  cases hargs : buildDockerRunArgs (resolveDockerPayload deps payload) with
  | error message => exact .inl ⟨rfl, .inl rfl, w.daemons, w.now, rfl⟩
  | ok dockerArgs =>
      dsimp only
      generalize hall : dockerArgs ++ buildVllmArgs deps (resolveDockerPayload deps payload) = args
      generalize dockerCommandSummary deps _ dockerArgs _ = summary
      have hrunArgs : dockerRunArgs deps payload = .ok args := by
        unfold dockerRunArgs
        dsimp only
        rw [hargs, ← hall]
        rfl
      rw [run_await_bind_bind, createdBy_await_bind_bind]
      have hcreates : (Op.call (.dockerRun args)).creates (env w.now)
          = ((env w.now).created args).map .container := rfl
      rw [hcreates]
      cases hanswer : (env w.now).answer (.dockerRun args) with
      | timedOut => exact .inl ⟨rfl, .inl rfl, w.daemons, w.now + 1, rfl⟩
      | spawnFailed error => exact .inl ⟨rfl, .inl rfl, w.daemons, w.now + 1, rfl⟩
      | exited success status stdout stderr =>
          cases success with
          | false => exact .inl ⟨rfl, .inl rfl, w.daemons, w.now + 1, rfl⟩
          | true =>
              let result := dockerRunResult (resolveDockerPayload deps payload) summary
                (.exited true status stdout stderr)
              let write := writeContainerRecord (payloadText payload "instance_id")
                (resolveDockerPayload deps payload).docker.containerName store result
              change NothingRecorded payload w (run env write w.tick) ∨
                ContainerRecorded deps env payload store w (_ ++ createdBy env write w.tick)
                  (run env write w.tick)
              have hquiet : write.Performs Quiet :=
                (follows_writeContainerRecord ..).mono fun _ => quiet_of_follows
              rw [createdBy_quiet hquiet, List.append_nil]
              rcases @writeContainerRecord_cases env store (payloadText payload "instance_id")
                  (Text.trim stdout) (resolveDockerPayload deps payload).docker.containerName
                  result rfl w.tick with
                ⟨now, hfailed, hpid, hworld⟩ | ⟨baseUrl, command, startedAt, now, hrun⟩
              · exact .inl ⟨hpid, .inl hfailed, w.daemons, now, hworld⟩
              · have hwrite : run env write w.tick = (result, containerIn deps payload store w
                    (Text.trim stdout) baseUrl command startedAt now) := hrun
                rw [hwrite]
                exact .inr ⟨args, status, stdout, stderr, hrunArgs, hanswer, rfl, rfl, rfl, baseUrl,
                  command, startedAt, now, rfl⟩

omit deps payload store in
theorem run_loadModel_processId (start : OllamaStart) (daemon : EnsuredDaemon) (w : World) :
    (run env (loadModel start.runtimeEnvId start.model start.keepAlive daemon) w).1.processId
      = none := by
  unfold loadModel
  rw [run_await_bind]
  cases (env w.now).answer (.listModels daemon.baseUrl) with
  | error error => rfl
  | ok models =>
      dsimp only
      split
      · rw [run_await_bind]
        cases (env w.tick.now).answer (.warmupModel daemon.baseUrl start.model start.keepAlive) with
        | error error => rfl
        | ok text => rfl
      · rfl

omit store in
theorem run_startOllamaInstance_processId :
    (run env (startOllamaInstance deps payload) w).1.processId = none := by
  unfold startOllamaInstance
  generalize OllamaStart.fromPayload deps payload = start
  dsimp only
  split
  · rfl
  · rw [run_bind]
    generalize run env (ensureDaemon ..) w = ensured
    obtain ⟨ensured, w'⟩ := ensured
    cases ensured with
    | error error => rfl
    | ok daemon => exact run_loadModel_processId start daemon w'

/-- What a start can do. -/
theorem start_cases :
    let program := startModelInstanceWithStore deps payload store
    NothingRecorded payload w (run env program w) ∨
      payloadText payload "deploy_type" ≠ "docker" ∧
        ProcessRecorded env payload store w (createdBy env program w) (run env program w) ∨
      ContainerRecorded deps env payload store w (createdBy env program w) (run env program w) := by
  dsimp only
  unfold startModelInstanceWithStore
  dsimp only
  by_cases hdocker : payloadText payload "deploy_type" = "docker"
  · rw [if_pos hdocker]
    rcases @startDockerInstance_cases deps env payload store w with hnothing | hcontainer
    · exact .inl hnothing
    · exact .inr (.inr hcontainer)
  · rw [if_neg hdocker]
    by_cases hollama : payloadText payload "backend" = "ollama"
    · rw [if_pos hollama]
      obtain ⟨daemons, now, hworld⟩ := run_daemonOp (daemon_startOllamaInstance deps payload) w
      exact .inl ⟨run_startOllamaInstance_processId deps payload w, .inr ⟨hdocker, hollama⟩, daemons,
        now, hworld⟩
    · rw [if_neg hollama]
      rcases @startLocalInstance_cases deps env payload store w with hnothing | hprocess
      · exact .inl hnothing
      · exact .inr (.inl ⟨hdocker, hprocess⟩)

end Start

end LightAI.Agent
