import LightAI.Agent.Probes

/-!
# Which processes the agent signals

A signal goes to a process id that has been written down when a process was spawned. By then the process
can have ended and its process id can be that of another one. The check before the signal compares start
times, but a record without a start time matches whatever has the process id.
-/

namespace LightAI.Agent

/-! ### Runs of the agent -/

structure SignalState where
  world : World
  /-- The process that the agent has spawned for the record of an instance. -/
  owner : String → Option Child := fun _ => none
  /-- The process that the agent has spawned for the record of the gateway. -/
  gatewayOwner : Option Child := none
  /-- The calls so far: the process that was spawned for the record on which the call relies, and what
  the call looked at and signalled. -/
  calls : List (Option Child × List Probe) := []

inductive AgentEvent where
  | task (event : TaskEvent)
  | gateway (task : GatewayTask)

/-- The process of a gateway task that has recorded one. -/
def spawnedGateway (created : List Created) (result : GatewayTaskResult) : Option Child :=
  if result.gatewayStatus = "running" then created.findSome? Created.child? else none

section Runs

variable (deps : External) (env : Nat → Moment) (statePath : String) (s : SignalState)

/-- The process of a start that has recorded one. -/
def spawnedFor (payload : Json) (w : World) : Option Child :=
  if (run env (handleStart deps payload) w).1.processId.isSome then
    (createdBy env (handleStart deps payload) w).findSome? Created.child?
  else none

def SignalState.call {α : Type} (owner : Option Child) (program : Async α) : SignalState :=
  { s with
    world := (run env program s.world).2
    calls := s.calls ++ [(owner, probesOf env program s.world)] }

def signalStep : AgentEvent → SignalState
  | .task (.start payload) =>
      let instanceId := payloadText payload "instance_id"
      { s.call env (s.owner instanceId) (handleStart deps payload) with
        owner := Function.update s.owner instanceId
          ((spawnedFor deps env payload s.world).or (s.owner instanceId)) }
  | .task (.stop payload) =>
      s.call env (s.owner (payloadText payload "instance_id")) (handleStop deps payload)
  | .task event => { s with world := (taskStep deps env { world := s.world } event).world }
  | .gateway task =>
      let program := task.handle deps statePath
      { s.call env s.gatewayOwner program with
        gatewayOwner := (spawnedGateway (createdBy env program s.world)
          (run env program s.world).1).or s.gatewayOwner }

/-- Every signal that has been sent went to a process id that was, when the call looked at it, held by
the process that the agent had spawned for the record. -/
def OwnSignals : Prop := ∀ call ∈ s.calls, SignalsOwner env call.1 call.2

/-! ### When it is so -/

/-- If anything has the process id at a moment, it is the process itself. -/
def NotPassedOn (m : Moment) (processId : Int) (owner : Option Child) : Prop :=
  ∀ child, owner = some child → (m.processes processId).isSome = true → m.runsChild child = true

/-- A stop that relies on a record without a start time finds the process itself, or none. -/
def StopSignals (payload : Json) : Prop :=
  let instanceId := payloadText payload "instance_id"
  match stopRoute env s.world instanceId true with
  | .recorded record => record.isDocker = false → record.processStartTime = none →
      NotPassedOn (env (s.world.now + 3)) record.processId (s.owner instanceId)
  | _ => True

/-- The same of the gateway. Its start time is read after its handle has been dropped, so that it can be
the one of another process. -/
def GatewayStopSignals : Prop :=
  match (env s.world.now).gatewayAt s.world.gateway with
  | .ok (some record) =>
      record.processStartTime ≠ s.gatewayOwner.map (·.startTime) →
        NotPassedOn (env (s.world.now + 1)) record.processId s.gatewayOwner
  | _ => True

/-- The condition on each event of a run. -/
def KeepsSignals : AgentEvent → Prop
  | .task (.stop payload) => payloadText payload "backend" = "ollama" ∨ StopSignals env s payload
  | .gateway .stop => GatewayStopSignals env s
  | .gateway (.restart payload) =>
      match gatewaySpecFromPayload payload with
      | .error _ => True
      | .ok _ => GatewayStopSignals env s
  | _ => True

end Runs

/-- What is documented of processes: `/proc` shows the start time of the process that has the process id,
and a child of which `try_wait` says that it has not exited has had its process id since it was
spawned. -/
structure SpawnApi (env : Nat → Moment) : Prop where
  stat {t : Nat} {processId : Int} {startTime : Nat} (hstat : (env t).statAt processId = some startTime) :
    (env t).processes processId = some startTime
  waits {t t' t'' : Nat} {plan : LaunchPlan} {child : Child}
    (hspawned : (env t).answer (.spawn plan) = Except.ok child) (hafter : t < t') (hbefore : t' ≤ t'')
    (hwaited : (env t'').answer (.tryWait child) = Except.ok none) : (env t').runsChild child = true

/-! ### What is recorded of the gateway -/

section GatewayRecords

variable {deps : External} {env : Nat → Moment} {w : World}

/-- After a gateway task the file records the process that the task has recorded, or what it recorded
before. -/
def KeepsGatewayOwner (w : World) (created : List Created) (outcome : GatewayTaskResult × World) :
    Prop :=
  ∃ file now, outcome.2 = { w with gateway := file, now } ∧
    ∀ record, file.recorded = some record →
      (∃ child, spawnedGateway created outcome.1 = some child ∧ child.processId = record.processId) ∨
        spawnedGateway created outcome.1 = none ∧ w.gateway.recorded = some record

/-- The operation does not write the state file of the gateway, and leaves the other accounts. -/
def Op.writesNoGateway : Op → Prop
  | .readGateway | .removeGateway | .call _ => True
  | _ => False

theorem run_writesNoGateway {α : Type} {program : Async α}
    (h : program.Performs Op.writesNoGateway) (w : World) :
    ∃ file now, (run env program w).2 = { w with gateway := file, now } ∧
      ∀ record, file.recorded = some record → w.gateway.recorded = some record := by
  refine h.run_rel (R := fun w w' => ∃ file now, w' = { w with gateway := file, now } ∧
    ∀ record, file.recorded = some record → w.gateway.recorded = some record) ?_ ?_ ?_ w
  · intro w
    exact ⟨w.gateway, w.now, rfl, fun _ h => h⟩
  · rintro s t u ⟨first, _, rfl, hfirst⟩ ⟨second, now, rfl, hsecond⟩
    exact ⟨second, now, rfl, fun record h => hfirst record (hsecond record h)⟩
  · intro op w hop
    cases op with
    | call c => exact ⟨w.gateway, w.now + 1, rfl, fun _ h => h⟩
    | readGateway => exact ⟨w.gateway, w.now + 1, rfl, fun _ h => h⟩
    | removeGateway =>
        simp only [Op.exec]
        split
        · exact ⟨w.gateway, w.now + 1, rfl, fun _ h => h⟩
        · exact ⟨.missing, w.now + 1, rfl, fun _ h => by cases h⟩
    | _ => exact hop.elim

theorem spawnedGateway_nil (result : GatewayTaskResult) : spawnedGateway [] result = none := by
  unfold spawnedGateway
  split
  · rfl
  · rfl

/-- A program that neither creates a process nor writes the file. -/
theorem KeepsGatewayOwner.of_writesNoGateway {program : Async GatewayTaskResult}
    (hquiet : program.Performs Quiet) (h : program.Performs Op.writesNoGateway) (w : World) :
    KeepsGatewayOwner w (createdBy env program w) (run env program w) := by
  obtain ⟨file, now, hworld, hrecorded⟩ := @run_writesNoGateway env _ _ h w
  refine ⟨file, now, hworld, fun record h => .inr ⟨?_, hrecorded record h⟩⟩
  rw [createdBy_quiet hquiet, spawnedGateway_nil]

/-- What comes before neither creates a process nor writes the file. -/
theorem KeepsGatewayOwner.after {α : Type} {program : Async α} {f : α → Async GatewayTaskResult}
    (hquiet : program.Performs Quiet) (h : program.Performs Op.writesNoGateway) {w : World}
    (hnext : KeepsGatewayOwner (run env program w).2
      (createdBy env (f (run env program w).1) (run env program w).2)
      (run env (f (run env program w).1) (run env program w).2)) :
    KeepsGatewayOwner w (createdBy env (program >>= f) w) (run env (program >>= f) w) := by
  rw [createdBy_quiet_bind hquiet, run_bind]
  obtain ⟨first, _, hfirst, hkept⟩ := @run_writesNoGateway env _ _ h w
  obtain ⟨file, now, hworld, hrecorded⟩ := hnext
  have hgateway : (run env program w).2.gateway = first := by rw [hfirst]
  refine ⟨file, now, ?_, fun record h => ?_⟩
  · rw [hworld, hfirst]
  · rcases hrecorded record h with hspawned | ⟨hnone, hold⟩
    · exact .inl hspawned
    · rw [hgateway] at hold
      exact .inr ⟨hnone, hkept record hold⟩

theorem writesNoGateway_loadRecord : loadRecord.Performs Op.writesNoGateway := performs_perform trivial

theorem writesNoGateway_checkGatewayRecord (record : GatewayProcessRecord) :
    (checkGatewayRecord record).Performs Op.writesNoGateway := by
  have hstat : (processStartTime record.processId).Performs Op.writesNoGateway :=
    (performs_await trivial).bind fun _ => trivial
  exact hstat.bind fun _ => trivial

theorem writesNoGateway_stopGateway : stopGateway.Performs Op.writesNoGateway := by
  refine writesNoGateway_loadRecord.bind fun loaded => ?_
  match loaded with
  | .error error => trivial
  | .ok none => trivial
  | .ok (some record) =>
      refine (writesNoGateway_checkGatewayRecord record).bind fun check => ?_
      have hremoval : Program.Performs Op.writesNoGateway (do
          let _ ← perform .removeGateway
          pure (record.result "stopped" "Gateway stopped")) :=
        (performs_perform trivial).bind fun _ => trivial
      have hkill : (killProcess record.processId).Performs Op.writesNoGateway :=
        (performs_await trivial).bind fun _ => trivial
      dsimp only
      split
      · refine hkill.bind fun killed => ?_
        cases killed with
        | error message => trivial
        | ok _ => exact hremoval
      · exact hremoval

theorem keeps_pure (result : GatewayTaskResult) (w : World) :
    KeepsGatewayOwner w (createdBy env (pure result) w) (run env (pure result) w) := by
  refine ⟨w.gateway, w.now, rfl, fun record h => .inr ⟨?_, h⟩⟩
  rw [createdBy_pure, spawnedGateway_nil]

/-- The file is written after the spawn, or it is left as it was and the task has failed. -/
theorem keeps_recordGateway (spec : GatewayProcessSpec) (child : Child) (w : World) :
    KeepsGatewayOwner w [.child child] (run env (recordGateway spec child) w) := by
  let record : GatewayProcessRecord :=
    { processId := child.processId
      processStartTime := (env w.now).statAt child.processId
      healthUrl := spec.healthUrl
      command := spec.command
      logPath := spec.logPath
      startedAt := (env (w.now + 1)).answer .nowUnixSecs }
  have hsaved := @run_saveRecord env record w.tick.tick
  change KeepsGatewayOwner w [.child child]
    (run env (saveRecord record >>= fun saved => _) w.tick.tick)
  rw [run_bind, hsaved]
  cases (env w.tick.tick.now).fileError .writeGateway with
  | some error =>
      refine ⟨w.gateway, w.now + 3, rfl, fun other h => .inr ⟨?_, h⟩⟩
      have hfailed : ¬ ("failed" : String) = "running" := by decide
      exact if_neg hfailed
  | none =>
      refine ⟨.record record, w.now + 3, rfl, fun other h => .inl ⟨child, ?_, ?_⟩⟩
      · rfl
      · have hsame : record = other := Option.some.inj h
        rw [← hsame]

theorem keeps_launchGateway (spec : GatewayProcessSpec) (w : World) :
    KeepsGatewayOwner w (createdBy env (launchGateway spec) w) (run env (launchGateway spec) w) := by
  unfold launchGateway
  refine .after (performs_await fun _ => rfl) (performs_await trivial) ?_
  rw [run_await]
  cases (env w.now).answer (.prepareGateway spec.logPath) with
  | error message => exact keeps_pure _ w.tick
  | ok _ =>
      dsimp only
      rw [run_await_bind, createdBy_await_bind]
      have hcreates : (Op.call (.spawnGateway spec.binaryPath spec.args spec.workDir)).creates
          (env w.tick.now) = ((env w.tick.now).answer
            (.spawnGateway spec.binaryPath spec.args spec.workDir)).toOption.map .child := rfl
      rw [hcreates]
      cases (env w.tick.now).answer (.spawnGateway spec.binaryPath spec.args spec.workDir) with
      | error error => exact keeps_pure _ w.tick.tick
      | ok child =>
          dsimp only
          rw [createdBy_quiet (quiet_recordGateway spec child)]
          exact keeps_recordGateway spec child w.tick.tick

theorem keeps_startGateway (statePath : String) (spec : GatewayProcessSpec) (w : World) :
    KeepsGatewayOwner w (createdBy env (startGateway deps statePath spec) w)
      (run env (startGateway deps statePath spec) w) := by
  unfold startGateway
  split
  · exact keeps_pure _ w
  · refine .after quiet_loadRecord writesNoGateway_loadRecord ?_
    rw [run_loadRecord]
    match (env w.now).gatewayAt w.gateway with
    | .error error => exact keeps_launchGateway spec w.tick
    | .ok none => exact keeps_launchGateway spec w.tick
    | .ok (some record) =>
        refine .after (quiet_checkGatewayRecord record) (writesNoGateway_checkGatewayRecord record) ?_
        dsimp only
        split
        · exact keeps_pure _ _
        · exact keeps_launchGateway spec _

theorem keeps_gatewayTask (statePath : String) (task : GatewayTask) (w : World) :
    KeepsGatewayOwner w (createdBy env (task.handle deps statePath) w)
      (run env (task.handle deps statePath) w) := by
  cases task with
  | start payload =>
      unfold GatewayTask.handle
      dsimp only
      split
      · exact keeps_pure _ w
      · exact keeps_startGateway statePath _ w
  | stop => exact .of_writesNoGateway quiet_stopGateway writesNoGateway_stopGateway w
  | restart payload =>
      unfold GatewayTask.handle
      dsimp only
      split
      · exact keeps_pure _ w
      · refine .after quiet_stopGateway writesNoGateway_stopGateway ?_
        split
        · exact keeps_pure _ _
        · exact keeps_startGateway statePath _ _
  | check =>
      refine .after quiet_loadRecord writesNoGateway_loadRecord ?_
      rw [run_loadRecord]
      match (env w.now).gatewayAt w.gateway with
      | .error error => exact keeps_pure _ w.tick
      | .ok none => exact keeps_pure _ w.tick
      | .ok (some record) =>
          refine .after (quiet_checkGatewayRecord record)
            (writesNoGateway_checkGatewayRecord record) ?_
          dsimp only
          split
          · refine .after (performs_await fun _ => rfl) (performs_await trivial) ?_
            split
            · exact keeps_pure _ _
            · exact keeps_pure _ _
          · exact keeps_pure _ _

end GatewayRecords

/-! ### The invariant -/

/-- What is recorded has been spawned for the record, with the start time that the record has of an
instance; and all signals so far have been to the right processes. -/
structure OwnedRecords (env : Nat → Moment) (s : SignalState) : Prop where
  store {record : ManagedProcessRecord} (hheld : record ∈ s.world.store.held)
    (hlocal : record.isDocker = false) :
    ∃ child, s.owner record.instanceId = some child ∧ child.processId = record.processId ∧
      ∀ startTime, record.processStartTime = some startTime → child.startTime = startTime
  gateway {record : GatewayProcessRecord} (hrecorded : s.world.gateway.recorded = some record) :
    ∃ child, s.gatewayOwner = some child ∧ child.processId = record.processId
  own : OwnSignals env s

section Keep

variable {deps : External} {env : Nat → Moment} {statePath : String} {s : SignalState}

theorem ownSignals_call {α : Type} {owner : Option Child} {program : Async α} (h : OwnSignals env s)
    (hcall : SignalsOwner env owner (probesOf env program s.world)) :
    OwnSignals env (s.call env owner program) := by
  intro call hmem
  rcases List.mem_append.mp hmem with hold | hnew
  · exact h call hold
  · rw [List.mem_singleton.mp hnew]
    exact hcall

theorem runsChild_of_processes {m : Moment} {child : Child}
    (h : m.processes child.processId = some child.startTime) : m.runsChild child = true :=
  decide_eq_true h

/-- A check finds the process of a record, if it shows a start time and that is the one of the
record. -/
theorem processCheck_running {record : ManagedProcessRecord} {current : Option Nat}
    (h : (processCheck record current).isRunning = true) :
    ∃ startTime, current = some startTime ∧
      (record.processStartTime = none ∨ record.processStartTime = some startTime) := by
  cases current with
  | none => cases h
  | some startTime =>
      refine ⟨startTime, rfl, ?_⟩
      cases hrecord : record.processStartTime with
      | none => exact .inl rfl
      | some expected =>
          by_cases hsame : startTime = expected
          · exact .inr (congrArg some hsame.symm)
          · simp [processCheck, hrecord, hsame] at h

theorem gatewayCheck_running {record : GatewayProcessRecord} {current : Option Nat}
    (h : (gatewayCheck record current).isRunning = true) :
    ∃ startTime, current = some startTime ∧
      (record.processStartTime = none ∨ record.processStartTime = some startTime) := by
  cases current with
  | none => cases h
  | some startTime =>
      refine ⟨startTime, rfl, ?_⟩
      cases hrecord : record.processStartTime with
      | none => exact .inl rfl
      | some expected =>
          by_cases hsame : startTime = expected
          · exact .inr (congrArg some hsame.symm)
          · simp [gatewayCheck, hrecord, hsame] at h

/-- The world of another event keeps what is recorded. -/
theorem OwnedRecords.of_world (h : OwnedRecords env s) (w' : World)
    (hstore : ∀ record ∈ w'.store.held, record ∈ s.world.store.held)
    (hgateway : w'.gateway = s.world.gateway) : OwnedRecords env { s with world := w' } where
  store hheld hlocal := h.store (hstore _ hheld) hlocal
  gateway hrecorded := by
    have hbefore : s.world.gateway.recorded = some _ := hgateway ▸ hrecorded
    exact h.gateway hbefore
  own := h.own

theorem spawnedFor_of_none {payload : Json} {w : World}
    (hpid : (run env (handleStart deps payload) w).1.processId = none) :
    spawnedFor deps env payload w = none := by
  unfold spawnedFor
  rw [hpid]
  rfl

theorem owned_start (hapi : SpawnApi env) (h : OwnedRecords env s) (payload : Json) :
    OwnedRecords env (signalStep deps env statePath s (.task (.start payload))) := by
  have hown : OwnSignals env (s.call env (s.owner (payloadText payload "instance_id"))
      (handleStart deps payload)) :=
    ownSignals_call h.own (.of_noSignal (noSignal_of_performs (unsignalling_handleStart payload) _))
  unfold signalStep
  dsimp only
  rcases @start_cases deps env payload true s.world with
    ⟨hpid, hend, daemons, now, hrun⟩ |
    ⟨hdocker, p, hid, hspawn, hstart, hcreated, ⟨t, ht, hwaited⟩, logTail, logPath, startedAt, now,
      hrun⟩ |
    ⟨args, status, stdout, stderr, hargs, hanswer, hcreated, hpid, hrunning, baseUrl, command,
      startedAt, now, hrun⟩
  · have hworld : (run env (handleStart deps payload) s.world).2 = { s.world with daemons, now } := hrun
    rw [spawnedFor_of_none hpid, Option.none_or, Function.update_eq_self]
    constructor
    · intro record hheld hlocal
      change record ∈ (run env (handleStart deps payload) s.world).2.store.held at hheld
      rw [hworld] at hheld
      exact h.store hheld hlocal
    · intro record hrecorded
      change (run env (handleStart deps payload) s.world).2.gateway.recorded = some record at hrecorded
      rw [hworld] at hrecorded
      exact h.gateway hrecorded
    · exact hown
  · have hworld : (run env (handleStart deps payload) s.world).2
        = p.recordedIn true s.world logPath startedAt now := congrArg Prod.snd hrun
    have hpid : (run env (handleStart deps payload) s.world).1.processId.isSome = true := by
      have hresult : (run env (handleStart deps payload) s.world).1 = p.running logTail :=
        congrArg Prod.fst hrun
      rw [hresult]
      rfl
    have hspawned : spawnedFor deps env payload s.world = some p.child := by
      have hcreated' : createdBy env (handleStart deps payload) s.world = [.child p.child] := hcreated
      unfold spawnedFor
      rw [if_pos hpid, hcreated']
      rfl
    rw [hspawned, Option.some_or]
    constructor
    · intro record hheld hlocal
      change record ∈ (run env (handleStart deps payload) s.world).2.store.held at hheld
      rw [hworld] at hheld
      rcases List.mem_append.mp hheld with hold | hnew
      · obtain ⟨hheld, hne⟩ := mem_without.mp hold
        rw [hid] at hne
        dsimp only
        rw [Function.update_of_ne hne]
        exact h.store hheld hlocal
      · have hrecord := List.mem_singleton.mp hnew
        have hinstance : record.instanceId = payloadText payload "instance_id" := by
          rw [hrecord]
          exact hid
        dsimp only
        rw [hinstance, Function.update_self]
        refine ⟨p.child, rfl, by rw [hrecord]; rfl, fun startTime hsome => ?_⟩
        have hstat : (env (s.world.now + 2)).statAt p.child.processId = some startTime := by
          rw [hrecord] at hsome
          exact hstart.symm.trans hsome
        have hholds : (env (s.world.now + 2)).runsChild p.child = true :=
          hapi.waits hspawn (by omega) (by omega) hwaited
        have hprocess : (env (s.world.now + 2)).processes p.child.processId = some p.child.startTime :=
          of_decide_eq_true hholds
        exact Option.some.inj (hprocess.symm.trans (hapi.stat hstat))
    · intro record hrecorded
      change (run env (handleStart deps payload) s.world).2.gateway.recorded = some record at hrecorded
      rw [hworld] at hrecorded
      exact h.gateway hrecorded
    · exact hown
  · have hworld : (run env (handleStart deps payload) s.world).2
        = containerIn deps payload true s.world (Text.trim stdout) baseUrl command startedAt now :=
      hrun
    rw [spawnedFor_of_none hpid, Option.none_or, Function.update_eq_self]
    constructor
    · intro record hheld hlocal
      change record ∈ (run env (handleStart deps payload) s.world).2.store.held at hheld
      rw [hworld] at hheld
      rcases List.mem_append.mp hheld with hold | hnew
      · exact h.store (mem_without.mp hold).1 hlocal
      · rw [List.mem_singleton.mp hnew] at hlocal
        cases hlocal
    · intro record hrecorded
      change (run env (handleStart deps payload) s.world).2.gateway.recorded = some record at hrecorded
      rw [hworld] at hrecorded
      exact h.gateway hrecorded
    · exact hown

/-- A stop only removes records, and does not touch the gateway. -/
theorem stop_shrinks (payload : Json) (w : World) :
    let after := (run env (stopModelInstanceWithStore deps payload true) w).2
    (∀ record ∈ after.store.held, record ∈ w.store.held) ∧ after.gateway = w.gateway := by
  have hroute := @stop_cases deps env payload w
  dsimp only at hroute ⊢
  generalize (run env (stopModelInstanceWithStore deps payload true) w).2 = after at hroute ⊢
  cases hway : stopRoute env w (payloadText payload "instance_id") true with
  | refused =>
      rw [hway] at hroute
      obtain ⟨now, rfl, -⟩ := hroute
      exact ⟨fun _ hheld => hheld, rfl⟩
  | docker record =>
      rw [hway] at hroute
      obtain ⟨now, rfl | ⟨-, rfl⟩⟩ := hroute
      · exact ⟨fun _ hheld => hheld, rfl⟩
      · exact ⟨fun _ hheld => (mem_without.mp hheld).1, rfl⟩
  | child handle =>
      rw [hway] at hroute
      obtain ⟨-, now, ⟨-, rfl⟩ | ⟨-, rfl⟩⟩ := hroute
      · exact ⟨fun _ hheld => hheld, rfl⟩
      · exact ⟨fun _ hheld => (mem_without.mp hheld).1, rfl⟩
  | recorded record =>
      rw [hway] at hroute
      obtain ⟨-, now, rfl | ⟨-, rfl⟩⟩ := hroute
      · exact ⟨fun _ hheld => hheld, rfl⟩
      · exact ⟨fun _ hheld => (mem_without.mp hheld).1, rfl⟩

theorem found_of_recorded {w : World} {instanceId : String} {record : ManagedProcessRecord}
    (h : stopRoute env w instanceId true = .recorded record) :
    record ∈ w.store.held ∧ record.instanceId = instanceId := by
  have hfound : recordAt (env (w.now + 2)) w.store instanceId true = some record := by
    unfold stopRoute at h
    split at h
    · cases h
    · split at h
      · cases h
      · split at h
        · rename_i hrecord
          rw [hrecord, StopRoute.recorded.inj h]
        · cases h
  have hheld : foundAt (env (w.now + 2)) w.store instanceId = some record := hfound
  unfold foundAt at hheld
  split at hheld
  · cases hheld
  · refine ⟨List.mem_of_find?_eq_some hheld, ?_⟩
    simpa using List.find?_some hheld

/-- The signal of a stop goes to the process that was spawned for the record. -/
theorem stop_signals (hapi : SpawnApi env) (h : OwnedRecords env s) {payload : Json}
    (hkeeps : StopSignals env s payload) :
    SignalsOwner env (s.owner (payloadText payload "instance_id"))
      (probesOf env (stopModelInstanceWithStore deps payload true) s.world) := by
  unfold StopSignals at hkeeps
  rw [probesOf_stop]
  dsimp only at hkeeps
  cases hway : stopRoute env s.world (payloadText payload "instance_id") true with
  | refused => exact .of_noSignal fun _ _ => List.not_mem_nil
  | docker record => exact .of_noSignal fun _ _ => List.not_mem_nil
  | child handle => exact .of_noSignal fun _ _ => List.not_mem_nil
  | recorded record =>
      rw [hway] at hkeeps
      obtain ⟨hheld, hid⟩ := found_of_recorded hway
      dsimp only
      unfold recordProbes
      by_cases hdocker : record.isDocker = true
      · rw [if_pos hdocker]
        exact .of_noSignal fun _ _ => List.not_mem_nil
      · rw [if_neg hdocker]
        have hlocal := eq_false_of_ne_true hdocker
        obtain ⟨child, howner, hpid, hstart⟩ := h.store hheld hlocal
        rw [hid] at howner
        split
        · rename_i hrunning
          obtain ⟨startTime, hstat, hmatches⟩ := processCheck_running hrunning
          have hprocess := hapi.stat hstat
          rw [howner]
          refine .of_pair hpid ?_
          rcases hmatches with hnone | hsome
          · refine hkeeps hlocal hnone child howner ?_
            rw [hprocess]
            rfl
          · refine runsChild_of_processes ?_
            rw [hpid, hprocess, hstart startTime hsome]
        · refine .of_noSignal fun processId t hmem => ?_
          cases List.mem_singleton.mp hmem

theorem owned_stop (hapi : SpawnApi env) (h : OwnedRecords env s) {payload : Json}
    (hkeeps : payloadText payload "backend" = "ollama" ∨ StopSignals env s payload) :
    OwnedRecords env (signalStep deps env statePath s (.task (.stop payload))) := by
  by_cases hollama : payloadText payload "backend" = "ollama"
  · have hstop : handleStop deps payload = await (.stopOllama payload) := if_pos hollama
    unfold signalStep
    dsimp only
    rw [hstop]
    have hafter := h.of_world s.world.tick (fun _ hheld => hheld) rfl
    exact ⟨hafter.store, hafter.gateway,
      ownSignals_call h.own (.of_noSignal fun _ _ => List.not_mem_nil)⟩
  · have hstop : handleStop deps payload = stopModelInstanceWithStore deps payload true :=
      if_neg hollama
    unfold signalStep
    dsimp only
    rw [hstop]
    obtain ⟨hstore, hgateway⟩ := @stop_shrinks deps env payload s.world
    have hafter := h.of_world _ hstore hgateway
    exact ⟨hafter.store, hafter.gateway,
      ownSignals_call h.own (stop_signals hapi h (hkeeps.resolve_left hollama))⟩

/-- The signal of a stop of the gateway goes to the gateway that was spawned for the record. -/
theorem stopGateway_signals (hapi : SpawnApi env) (h : OwnedRecords env s)
    (hkeeps : GatewayStopSignals env s) :
    SignalsOwner env s.gatewayOwner (probesOf env stopGateway s.world) := by
  unfold GatewayStopSignals at hkeeps
  rw [probesOf_stopGateway]
  cases hload : (env s.world.now).gatewayAt s.world.gateway with
  | error error => exact .of_noSignal fun _ _ => List.not_mem_nil
  | ok loaded =>
      rw [hload] at hkeeps
      cases loaded with
      | none => exact .of_noSignal fun _ _ => List.not_mem_nil
      | some record =>
          obtain ⟨child, howner, hpid⟩ := h.gateway (recorded_of_gatewayAt hload)
          dsimp only at hkeeps ⊢
          split
          · rename_i hrunning
            obtain ⟨startTime, hstat, hmatches⟩ := gatewayCheck_running hrunning
            have hprocess := hapi.stat hstat
            have hheld : ((env (s.world.now + 1)).processes record.processId).isSome = true := by
              rw [hprocess]
              rfl
            rw [howner] at hkeeps ⊢
            refine .of_pair hpid ?_
            by_cases hsame : record.processStartTime = some child.startTime
            · rcases hmatches with hnone | hsome
              · rw [hnone] at hsame
                cases hsame
              · refine runsChild_of_processes ?_
                rw [hpid, hprocess, ← hsome, hsame]
            · exact hkeeps hsame child rfl hheld
          · refine .of_noSignal fun processId t hmem => ?_
            cases List.mem_singleton.mp hmem

theorem gatewayTask_signals (hapi : SpawnApi env) (h : OwnedRecords env s) {task : GatewayTask}
    (hkeeps : KeepsSignals env s (.gateway task)) :
    SignalsOwner env s.gatewayOwner (probesOf env (task.handle deps statePath) s.world) := by
  cases task with
  | start payload =>
      unfold GatewayTask.handle
      dsimp only
      split
      · exact .of_noSignal fun _ _ => List.not_mem_nil
      · exact .of_noSignal (noSignal_of_performs (unsignalling_startGateway statePath _) _)
  | stop => exact stopGateway_signals hapi h hkeeps
  | restart payload =>
      unfold KeepsSignals at hkeeps
      unfold GatewayTask.handle
      dsimp only at hkeeps ⊢
      split
      · exact .of_noSignal fun _ _ => List.not_mem_nil
      · rename_i spec hspec
        rw [hspec] at hkeeps
        rw [restartGateway, probesOf_bind]
        refine (stopGateway_signals hapi h hkeeps).append ?_
        refine noSignal_of_performs ?_ _
        split
        · trivial
        · exact unsignalling_startGateway statePath spec
  | check => exact .of_noSignal (noSignal_of_performs unsignalling_checkGateway _)

theorem owned_gatewayTask (hapi : SpawnApi env) (h : OwnedRecords env s) {task : GatewayTask}
    (hkeeps : KeepsSignals env s (.gateway task)) :
    OwnedRecords env (signalStep deps env statePath s (.gateway task)) := by
  obtain ⟨file, now, hworld, hrecorded⟩ :=
    @keeps_gatewayTask deps env statePath task s.world
  constructor
  · intro record hheld hlocal
    change record ∈ (run env (task.handle deps statePath) s.world).2.store.held at hheld
    rw [hworld] at hheld
    exact h.store hheld hlocal
  · intro record hfile
    change (run env (task.handle deps statePath) s.world).2.gateway.recorded = some record at hfile
    rw [hworld] at hfile
    change ∃ child, (spawnedGateway (createdBy env (task.handle deps statePath) s.world)
      (run env (task.handle deps statePath) s.world).1).or s.gatewayOwner = some child ∧ _
    rcases hrecorded record hfile with ⟨child, hspawned, hpid⟩ | ⟨hnone, hold⟩
    · rw [hspawned, Option.some_or]
      exact ⟨child, rfl, hpid⟩
    · rw [hnone, Option.none_or]
      exact h.gateway hold
  · exact ownSignals_call h.own (gatewayTask_signals hapi h hkeeps)

theorem owned_step (hapi : SpawnApi env) (h : OwnedRecords env s) {event : AgentEvent}
    (hkeeps : KeepsSignals env s event) : OwnedRecords env (signalStep deps env statePath s event) := by
  cases event with
  | gateway task => exact owned_gatewayTask hapi h hkeeps
  | task event =>
      cases event with
      | start payload => exact owned_start hapi h payload
      | stop payload => exact owned_stop hapi h hkeeps
      | monitor instanceId =>
          refine h.of_world ((Op.monitor instanceId).exec env s.world).2 ?_ ?_
          · rcases @monitor_cases env instanceId s.world with hidle | ⟨_, _, _, hrun⟩
            · rw [hidle]
              exact fun _ hheld => hheld
            · rw [hrun]
              exact fun _ hheld => hheld
          · rcases @monitor_cases env instanceId s.world with hidle | ⟨_, _, _, hrun⟩
            · rw [hidle]
              rfl
            · rw [hrun]
              rfl
      | restart =>
          exact h.of_world { s.world.tick with
            registry := fun _ => none
            daemons := fun _ => none } (fun _ hheld => hheld) rfl
      | pause => exact h.of_world s.world.tick (fun _ hheld => hheld) rfl

end Keep

/-- In a run whose events all meet the condition, the agent signals only processes that it has spawned
for the record on which it relies. -/
theorem own_signals_always {deps : External} {env : Nat → Moment} (hapi : SpawnApi env)
    (statePath : String) (now : Nat) {events : List AgentEvent}
    (hkeeps : Trace.Along (signalStep deps env statePath) (KeepsSignals env) { world := { now } }
      events) :
    Trace.Always (signalStep deps env statePath) (OwnSignals env) { world := { now } } events := by
  have hinit : OwnedRecords env { world := { now } } := by
    constructor
    · exact fun hheld => absurd hheld List.not_mem_nil
    · exact nofun
    · exact fun _ hcall => absurd hcall List.not_mem_nil
  exact Trace.always_of_invariant (fun _ _ h hok => owned_step hapi h hok) (fun _ h => h.own) hinit
    hkeeps

/-! ### A process id that is passed on -/

/-- The `stat` of another process with the process id 7, started later. -/
def strangerStatLine : String := "7 (editor) S 1 7 7 0 -1 0 0 0 0 0 0 0 0 0 20 0 1 0 2 0"

/-- A child with the process id 7 can be spawned. From the moment `reuse` on its process id is that of
another process. `/proc` cannot be read until the child has been started. -/
def reusedFrom (reuse : Nat) (now : Nat) : Moment where
  processes pid := if pid = 7 ∧ 1 ≤ now then some (if now < reuse then 1 else 2) else none
  containers _ := false
  nameHolder _ := none
  created _ := none
  fileError _ := none
  answer
    | .prepare _ => .ok { baseUrl := "http://127.0.0.1:8081", command := "llama-server" }
    | .spawn _ => .ok { processId := 7, startTime := 1 }
    | .readStat pid =>
        if pid = 7 ∧ 12 ≤ now then some (if now < reuse then statLine else strangerStatLine) else none
    | .tryWait child =>
        if now < reuse ∧ child.processId = 7 then .ok none else .ok (some "exit status: 1")
    | .endpointReady .. => true
    | .kill _ => .exited true "exit status: 0" "" ""
    | other => other.failed

theorem reusedFrom_api (reuse : Nat) : SpawnApi (reusedFrom reuse) where
  stat {t pid startTime} hstat := by
    have hstat' : Option.bind (if pid = 7 ∧ 12 ≤ t then
        some (if t < reuse then statLine else strangerStatLine) else none)
        parseLinuxStatStartTime = some startTime := hstat
    change (if pid = 7 ∧ 1 ≤ t then some (if t < reuse then 1 else 2) else none) = some startTime
    by_cases hcase : pid = 7 ∧ 12 ≤ t
    · have hholds : pid = 7 ∧ 1 ≤ t := ⟨hcase.1, by omega⟩
      rw [if_pos hcase] at hstat'
      rw [if_pos hholds]
      by_cases hreuse : t < reuse
      · have hparsed : parseLinuxStatStartTime statLine = some 1 := by decide
        rw [if_pos hreuse] at hstat' ⊢
        exact hparsed.symm.trans hstat'
      · have hparsed : parseLinuxStatStartTime strangerStatLine = some 2 := by decide
        rw [if_neg hreuse] at hstat' ⊢
        exact hparsed.symm.trans hstat'
    · rw [if_neg hcase] at hstat'
      cases hstat'
  waits {t t' t'' plan child} hspawned hafter hbefore hwaited := by
    have hchild : child = { processId := 7, startTime := 1 } := (Except.ok.inj hspawned).symm
    have hwaited' : (if t'' < reuse ∧ child.processId = 7 then Except.ok none
        else Except.ok (some "exit status: 1") : Except String (Option String)) = Except.ok none :=
      hwaited
    have hreuse : t' < reuse := by
      by_cases hcase : t'' < reuse ∧ child.processId = 7
      · omega
      · rw [if_neg hcase] at hwaited'
        cases hwaited'
    refine runsChild_of_processes ?_
    change (if child.processId = 7 ∧ 1 ≤ t' then some (if t' < reuse then 1 else 2) else none)
      = some child.startTime
    have hholds : child.processId = 7 ∧ 1 ≤ t' := by
      rw [hchild]
      exact ⟨rfl, by omega⟩
    rw [if_pos hholds, if_pos hreuse, hchild]

/-- The start time could not be read at the start; the child has ended, and the stop after a restart of
the agent signals the process that has its process id now. -/
theorem stranger_signalled :
    SpawnApi (reusedFrom 12) ∧
      ¬ Trace.Always (signalStep noExternal (reusedFrom 12) "state") (OwnSignals (reusedFrom 12))
        { world := { now := 0 } }
        [.task (.start (portPayload 8081)), .task .restart, .task (.stop (portPayload 8081))] := by
  refine ⟨reusedFrom_api 12, fun halways => ?_⟩
  have hown := halways
    [.task (.start (portPayload 8081)), .task .restart, .task (.stop (portPayload 8081))] [] rfl
  have hcalls : (some ({ processId := 7, startTime := 1 } : Child), [.check 7 15, .signal 7 16]) ∈
      (Trace.run (signalStep noExternal (reusedFrom 12) "state") { world := { now := 0 } }
        [.task (.start (portPayload 8081)), .task .restart,
          .task (.stop (portPayload 8081))]).calls := by
    decide
  obtain ⟨earlier, checked, child, hpre, howner, -, hruns⟩ :=
    hown _ hcalls [.check 7 15] 7 16 [] rfl
  have hchild : child = { processId := 7, startTime := 1 } := (Option.some.inj howner).symm
  have hchecked : checked = 15 := by
    have hlast := congrArg List.getLast? hpre
    rw [List.getLast?_concat] at hlast
    exact (Probe.check.inj (Option.some.inj hlast)).2.symm
  rw [hchild, hchecked] at hruns
  exact absurd hruns (by decide)

/-- The child still has its process id when the stop looks at it. -/
theorem child_signalled :
    SpawnApi (reusedFrom 100) ∧
      Trace.Always (signalStep noExternal (reusedFrom 100) "state") (OwnSignals (reusedFrom 100))
        { world := { now := 0 } }
        [.task (.start (portPayload 8081)), .task .restart, .task (.stop (portPayload 8081))] := by
  have howner : ∀ child : Child, some { processId := 7, startTime := 1 } = some child →
      (reusedFrom 100 15).runsChild child = true := by
    intro child hchild
    rw [← Option.some.inj hchild]
    decide
  refine ⟨reusedFrom_api 100, own_signals_always (reusedFrom_api 100) "state" 0 ?_⟩
  exact ⟨trivial, trivial, .inr fun _ _ child hchild _ => howner child hchild, trivial⟩

end LightAI.Agent
