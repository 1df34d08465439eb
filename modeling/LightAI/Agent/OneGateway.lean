import LightAI.Agent.Created
import LightAI.Agent.Gateway
import LightAI.Base.Trace

/-!
# At most one gateway, and it is the recorded one

The record of a gateway is written after the process has been spawned and removed after it has been
signalled. In between, and when the file or `/proc` cannot be read, a gateway can be alive that nothing
records, and a start can spawn a second one.
-/

namespace LightAI.Agent

/-! ### Runs of gateway tasks -/

structure GatewayState where
  world : World
  /-- The gateways that the agent has spawned. -/
  spawned : List Child := []
  /-- The result of the task that has just been handled. -/
  last : Option GatewayTaskResult := none

inductive GatewayEvent where
  | task (task : GatewayTask)
  /-- Something else replaces the state file. -/
  | outside (file : GatewayFile)
  | pause

/-- The state after a program has been run. -/
def GatewayState.after (env : Nat → Moment) (program : Async GatewayTaskResult) (s : GatewayState) :
    GatewayState where
  world := (run env program s.world).2
  spawned := s.spawned ++ (createdBy env program s.world).filterMap Created.child?
  last := some (run env program s.world).1

def gatewayStep (deps : External) (env : Nat → Moment) (statePath : String) (s : GatewayState) :
    GatewayEvent → GatewayState
  | .task task => s.after env (task.handle deps statePath)
  | .outside file => { s with world := { s.world with gateway := file }, last := none }
  | .pause => { s with world := s.world.tick, last := none }

def GatewayProcessRecord.names (record : GatewayProcessRecord) (child : Child) : Bool :=
  record.processId = child.processId && record.processStartTime.all (child.startTime = ·)

/-- At most one gateway is alive, the state file records it, and if the last result says `stopped` then
none is alive. -/
structure OneGateway (env : Nat → Moment) (s : GatewayState) : Prop where
  one {a b : Child} (ha : a ∈ s.spawned) (hb : b ∈ s.spawned)
    (haliveA : (env s.world.now).runsChild a = true) (haliveB : (env s.world.now).runsChild b = true) :
    a = b
  recorded {a : Child} (ha : a ∈ s.spawned) (halive : (env s.world.now).runsChild a = true) :
    ∃ record, s.world.gateway.recorded = some record ∧ record.names a = true
  stopped {result : GatewayTaskResult} (hlast : s.last = some result)
    (hstatus : result.gatewayStatus = "stopped") {a : Child} (ha : a ∈ s.spawned) :
    (env s.world.now).runsChild a = false

/-! ### When it holds -/

/-- The start time that `/proc` shows for a process id at a moment. -/
def Moment.statAt (m : Moment) (pid : Int) : Option Nat :=
  Option.bind (m.answer (.readStat pid)) parseLinuxStatStartTime

/-- The record that is loaded at a moment. -/
def Moment.gatewayAt (m : Moment) (file : GatewayFile) : Except String (Option GatewayProcessRecord) :=
  match m.fileError .readGateway with
  | some error => .error error
  | none => file.loaded

section Conditions

variable (env : Nat → Moment) (w : World) (spawned : List Child)

/-- The moment at which a start goes on to spawn, unless it finds a gateway. -/
def launchAt : Option Nat :=
  match (env w.now).gatewayAt w.gateway with
  | .ok (some record) =>
      if (gatewayCheck record ((env (w.now + 1)).statAt record.processId)).isRunning then none
      else some (w.now + 2)
  | _ => some (w.now + 1)

/-- A gateway that is alive when a start looks for it can be found: the state file and the `stat` of the
process can be read. -/
def Found : Prop :=
  ∀ a ∈ spawned, (env (w.now + 1)).runsChild a = true →
    (env w.now).fileError .readGateway = none ∧
      ((env (w.now + 1)).statAt a.processId).isSome = true

/-- A gateway that is spawned can be recorded, or has ended when the start returns. -/
def LaunchKeeps (spec : GatewayProcessSpec) (t : Nat) : Prop :=
  (env t).answer (.prepareGateway spec.logPath) = Except.ok () →
    ∀ child, (env (t + 1)).answer (.spawnGateway spec.binaryPath spec.args spec.workDir)
        = Except.ok child →
      (env (t + 4)).fileError .writeGateway = none ∨ (env (t + 5)).runsChild child = false

def StartKeeps (deps : External) (statePath : String) (spec : GatewayProcessSpec) : Prop :=
  match spec.validate deps statePath with
  | .error _ => True
  | .ok _ =>
      Found env w spawned ∧
        match launchAt env w with
        | none => True
        | some t => LaunchKeeps env spec t

/-- A recorded gateway that is alive is found alive, and the signal has ended it when the stop
returns. -/
def StopKeeps : Prop :=
  match (env w.now).gatewayAt w.gateway with
  | .ok (some record) =>
      if (gatewayCheck record ((env (w.now + 1)).statAt record.processId)).isRunning then
        match gatewayKilled ((env (w.now + 2)).answer (.kill record.processId)) with
        | .error _ => True
        | .ok _ => ∀ a ∈ spawned, record.names a = true → (env (w.now + 4)).runsChild a = false
      else ∀ a ∈ spawned, record.names a = true → (env (w.now + 1)).runsChild a = true →
        ((env (w.now + 1)).statAt a.processId).isSome = true
  | _ => True

/-- The condition on each event of a run. -/
def GatewayKeeps (deps : External) (env : Nat → Moment) (statePath : String) (s : GatewayState) :
    GatewayEvent → Prop
  | .task (.start payload) =>
      match gatewaySpecFromPayload payload with
      | .error _ => True
      | .ok spec => StartKeeps env s.world s.spawned deps statePath spec
  | .task .stop => StopKeeps env s.world s.spawned
  | .task (.restart payload) =>
      match gatewaySpecFromPayload payload with
      | .error _ => True
      | .ok spec =>
          StopKeeps env s.world s.spawned ∧
            ((run env stopGateway s.world).1.gatewayStatus ≠ "failed" →
              StartKeeps env (run env stopGateway s.world).2 s.spawned deps statePath spec)
  | .task .check => True
  | .outside file =>
      ∀ a ∈ s.spawned, (env s.world.now).runsChild a = true →
        ∃ record, file.recorded = some record ∧ record.names a = true
  | .pause => True

end Conditions

/-! ### What is known of processes -/

/-- The agent has spawned the process before a moment. -/
def SpawnedBefore (env : Nat → Moment) (now : Nat) (child : Child) : Prop :=
  ∃ t < now, ∃ program args currentDir,
    (env t).answer (.spawnGateway program args currentDir) = Except.ok child

/-- What is documented of processes: `/proc` shows the start time of the process that has the process id,
and a process that has ended does not run again. -/
structure ProcessApi (env : Nat → Moment) : Prop where
  stat {t : Nat} {pid : Int} {startTime : Nat} (hstat : (env t).statAt pid = some startTime) :
    (env t).processes pid = some startTime
  lives {t t' : Nat} {child : Child} (hspawned : SpawnedBefore env t child) (hlater : t ≤ t')
    (halive : (env t').runsChild child = true) : (env t).runsChild child = true

/-- The property, with what it takes to keep it. -/
structure Gateways (env : Nat → Moment) (s : GatewayState) : Prop extends OneGateway env s where
  earlier {a : Child} (ha : a ∈ s.spawned) : SpawnedBefore env s.world.now a

section Keep

variable {deps : External} {env : Nat → Moment} {statePath : String} {s : GatewayState}

theorem after_bind (program : Async GatewayTaskResult)
    (f : GatewayTaskResult → Async GatewayTaskResult) :
    s.after env (program >>= f)
      = (s.after env program).after env (f (run env program s.world).1) := by
  unfold GatewayState.after
  rw [run_bind, createdBy_bind, List.filterMap_append, List.append_assoc]

/-- What spawns nothing only changes the world. -/
theorem after_quiet_bind {α : Type} {program : Async α} (hquiet : program.Performs Quiet)
    (f : α → Async GatewayTaskResult) :
    s.after env (program >>= f)
      = ({ s with world := (run env program s.world).2 } : GatewayState).after env
          (f (run env program s.world).1) := by
  unfold GatewayState.after
  rw [run_bind, createdBy_quiet_bind hquiet]

theorem after_pure (result : GatewayTaskResult) :
    s.after env (pure result) = { s with last := some result } := by
  unfold GatewayState.after
  rw [run_pure, createdBy_pure, List.filterMap_nil, List.append_nil]

theorem failed_ne_stopped : ("failed" : String) ≠ "stopped" := by decide

theorem SpawnedBefore.mono {now now' : Nat} {child : Child} (h : SpawnedBefore env now child)
    (hle : now ≤ now') : SpawnedBefore env now' child := by
  obtain ⟨t, ht, hspawned⟩ := h
  exact ⟨t, by omega, hspawned⟩

/-- The file is as it was, nothing has been spawned, and the result does not say `stopped`. -/
theorem Gateways.of_same (hapi : ProcessApi env) (h : Gateways env s) {s' : GatewayState}
    (hspawned : s'.spawned = s.spawned) (hfile : s'.world.gateway = s.world.gateway)
    (hnow : s.world.now ≤ s'.world.now)
    (hlast : ∀ result, s'.last = some result → result.gatewayStatus ≠ "stopped") :
    Gateways env s' where
  one ha hb haliveA haliveB := by
    rw [hspawned] at ha hb
    exact h.one ha hb (hapi.lives (h.earlier ha) hnow haliveA)
      (hapi.lives (h.earlier hb) hnow haliveB)
  recorded ha halive := by
    rw [hspawned] at ha
    rw [hfile]
    exact h.recorded ha (hapi.lives (h.earlier ha) hnow halive)
  stopped hresult hstatus := absurd hstatus (hlast _ hresult)
  earlier ha := by
    rw [hspawned] at ha
    exact (h.earlier ha).mono hnow

/-- None of the gateways is alive any more. -/
theorem Gateways.of_ended (h : Gateways env s) {s' : GatewayState}
    (hspawned : s'.spawned = s.spawned) (hnow : s.world.now ≤ s'.world.now)
    (hended : ∀ a ∈ s.spawned, (env s'.world.now).runsChild a = false) : Gateways env s' where
  one ha _ haliveA _ := by
    rw [hspawned] at ha
    rw [hended _ ha] at haliveA
    cases haliveA
  recorded ha halive := by
    rw [hspawned] at ha
    rw [hended _ ha] at halive
    cases halive
  stopped _ _ _ ha := by
    rw [hspawned] at ha
    exact hended _ ha
  earlier ha := by
    rw [hspawned] at ha
    exact (h.earlier ha).mono hnow

theorem run_loadRecord (w : World) :
    run env loadRecord w = ((env w.now).gatewayAt w.gateway, w.tick) := rfl

theorem run_checkGatewayRecord (record : GatewayProcessRecord) (w : World) :
    run env (checkGatewayRecord record) w
      = (gatewayCheck record ((env w.now).statAt record.processId), w.tick) := rfl

theorem quiet_checkGatewayRecord (record : GatewayProcessRecord) :
    (checkGatewayRecord record).Performs Quiet :=
  ((follows_processStartTime record.processId).mono fun _ => quiet_of_follows).bind fun _ => trivial

theorem quiet_loadRecord : loadRecord.Performs Quiet := performs_perform fun _ => rfl

theorem run_saveRecord (record : GatewayProcessRecord) (w : World) :
    run env (saveRecord record) w = match (env w.now).fileError .writeGateway with
      | some error => (.error error, w.tick)
      | none => (.ok (), { w.tick with gateway := .record record }) := rfl

/-! ### A start -/

/-- The state at a later moment. -/
def GatewayState.at (s : GatewayState) (t : Nat) : GatewayState :=
  { s with world := { s.world with now := t } }

/-- A start finds a gateway, or it goes on to spawn one. -/
theorem after_startGateway {spec : GatewayProcessSpec} (hvalid : spec.validate deps statePath = .ok ()) :
    match launchAt env s.world with
    | none => ∃ result, result.gatewayStatus = "running" ∧
        s.after env (startGateway deps statePath spec)
          = { s.at (s.world.now + 2) with last := some result }
    | some t => s.after env (startGateway deps statePath spec) = (s.at t).after env (launchGateway spec)
    := by
  unfold startGateway launchAt GatewayState.after
  rw [hvalid]
  dsimp only
  rw [run_bind, run_loadRecord, createdBy_bind, createdBy_quiet quiet_loadRecord, run_loadRecord]
  cases (env s.world.now).gatewayAt s.world.gateway with
  | error error => rfl
  | ok loaded =>
      cases loaded with
      | none => rfl
      | some record =>
          dsimp only
          rw [run_bind, run_checkGatewayRecord, createdBy_bind,
            createdBy_quiet (quiet_checkGatewayRecord record), run_checkGatewayRecord]
          have hmoment : (env s.world.tick.now).statAt record.processId
              = (env (s.world.now + 1)).statAt record.processId := rfl
          rw [hmoment]
          by_cases hrunning : (gatewayCheck record
              ((env (s.world.now + 1)).statAt record.processId)).isRunning = true
          · simp only [if_pos hrunning]
            refine ⟨record.result "running" "Gateway is already running", rfl, ?_⟩
            simp only [run_pure, createdBy_pure, List.append_nil, List.filterMap_nil]
            rfl
          · simp only [if_neg hrunning]
            rfl

theorem quiet_recordGateway (spec : GatewayProcessSpec) (child : Child) :
    (recordGateway spec child).Performs Quiet := by
  refine ((follows_processStartTime _).mono fun _ => quiet_of_follows).bind fun startTime => ?_
  refine (performs_await fun _ => rfl).bind fun startedAt => ?_
  refine (performs_perform fun _ => rfl).bind fun saved => ?_
  cases saved with
  | error error => trivial
  | ok _ => trivial

theorem run_recordGateway (spec : GatewayProcessSpec) (child : Child) (w : World) :
    ∃ record : GatewayProcessRecord, ∃ result, record.processId = child.processId ∧
      record.processStartTime = (env w.now).statAt child.processId ∧
      result.gatewayStatus ≠ "stopped" ∧
      run env (recordGateway spec child) w
        = (result, { w with
            gateway :=
              if (env (w.now + 2)).fileError .writeGateway = none then .record record else w.gateway
            now := w.now + 3 }) := by
  let record : GatewayProcessRecord :=
    { processId := child.processId
      processStartTime := (env w.now).statAt child.processId
      healthUrl := spec.healthUrl
      command := spec.command
      logPath := spec.logPath
      startedAt := (env (w.now + 1)).answer .nowUnixSecs }
  have hsaved := @run_saveRecord env record w.tick.tick
  have hmoment : (env w.tick.tick.now).fileError .writeGateway
      = (env (w.now + 2)).fileError .writeGateway := rfl
  have hrun : run env (recordGateway spec child) w
      = run env (match (run env (saveRecord record) w.tick.tick).1 with
          | .error error => pure (gatewayFailure ("Failed to save Gateway state: " ++ error))
          | .ok _ => pure (record.result "running" "Gateway started"))
          (run env (saveRecord record) w.tick.tick).2 := rfl
  rw [hsaved, hmoment] at hrun
  rw [hrun]
  cases (env (w.now + 2)).fileError .writeGateway with
  | some error =>
      refine ⟨record, gatewayFailure ("Failed to save Gateway state: " ++ error), rfl, rfl, ?_, rfl⟩
      exact fun h => absurd h (by decide : ("failed" : String) ≠ "stopped")
  | none =>
      refine ⟨record, record.result "running" "Gateway started", rfl, rfl, ?_, rfl⟩
      exact fun h => absurd h (by decide : ("running" : String) ≠ "stopped")

/-- A spawned gateway is recorded, unless the file cannot be written. -/
theorem after_launchGateway (spec : GatewayProcessSpec) :
    (∃ result now, result.gatewayStatus = "failed" ∧ s.world.now ≤ now ∧
        s.after env (launchGateway spec) = { s.at now with last := some result }) ∨
      (env s.world.now).answer (.prepareGateway spec.logPath) = Except.ok () ∧
        ∃ child, (env (s.world.now + 1)).answer
            (.spawnGateway spec.binaryPath spec.args spec.workDir) = Except.ok child ∧
          ∃ record : GatewayProcessRecord, record.processId = child.processId ∧
            record.processStartTime = (env (s.world.now + 2)).statAt child.processId ∧
            ∃ result, result.gatewayStatus ≠ "stopped" ∧
              s.after env (launchGateway spec)
                = { world :=
                      { s.world with
                        gateway :=
                          if (env (s.world.now + 4)).fileError .writeGateway = none then
                            .record record
                          else s.world.gateway
                        now := s.world.now + 5 }
                    spawned := s.spawned ++ [child]
                    last := some result } := by
  unfold launchGateway GatewayState.after
  rw [run_await_bind, createdBy_await_quiet fun _ => rfl]
  cases hprepared : (env s.world.now).answer (.prepareGateway spec.logPath) with
  | error message =>
      left
      refine ⟨gatewayFailure message, s.world.now + 1, rfl, by omega, ?_⟩
      simp only [run_pure, createdBy_pure, List.filterMap_nil, List.append_nil]
      rfl
  | ok value =>
      dsimp only
      rw [run_await_bind, createdBy_await_bind]
      have hcreates : (Op.call (.spawnGateway spec.binaryPath spec.args spec.workDir)).creates
          (env s.world.tick.now) = ((env (s.world.now + 1)).answer
            (.spawnGateway spec.binaryPath spec.args spec.workDir)).toOption.map .child := rfl
      have hmoment : (env s.world.tick.now).answer
          (.spawnGateway spec.binaryPath spec.args spec.workDir) = (env (s.world.now + 1)).answer
            (.spawnGateway spec.binaryPath spec.args spec.workDir) := rfl
      rw [hcreates, hmoment]
      cases hspawned : (env (s.world.now + 1)).answer
          (.spawnGateway spec.binaryPath spec.args spec.workDir) with
      | error error =>
          left
          refine ⟨gatewayFailure ("Failed to start Gateway: " ++ error), s.world.now + 2, rfl,
            by omega, ?_⟩
          simp only [run_pure, createdBy_pure, Except.toOption, Option.map_none, Option.toList_none,
            List.append_nil, List.filterMap_nil]
          rfl
      | ok child =>
          right
          dsimp only
          obtain ⟨record, result, hpid, hstart, hresult, hrun⟩ :=
            @run_recordGateway env spec child s.world.tick.tick
          rw [hrun, createdBy_quiet (quiet_recordGateway spec child)]
          exact ⟨rfl, child, rfl, record, hpid, hstart, result, hresult, rfl⟩

/-- A gateway that is alive is found by the check of its record, if its `stat` can be read. -/
theorem gatewayCheck_of_alive (hapi : ProcessApi env) {t : Nat} {record : GatewayProcessRecord}
    {a : Child} (hnames : record.names a = true) (halive : (env t).runsChild a = true)
    (hstat : ((env t).statAt a.processId).isSome = true) :
    (gatewayCheck record ((env t).statAt record.processId)).isRunning = true := by
  unfold GatewayProcessRecord.names at hnames
  rw [Bool.and_eq_true, decide_eq_true_eq] at hnames
  obtain ⟨hpid, hstart⟩ := hnames
  obtain ⟨startTime, hsome⟩ := Option.isSome_iff_exists.mp hstat
  have hprocess := hapi.stat hsome
  have hruns : (env t).processes a.processId = some a.startTime := of_decide_eq_true halive
  have hsame : startTime = a.startTime := Option.some.inj (hprocess.symm.trans hruns)
  rw [hpid, hsome, hsame]
  unfold gatewayCheck
  cases hexpected : record.processStartTime with
  | none => rfl
  | some expected =>
      rw [hexpected] at hstart
      have heq : a.startTime = expected := of_decide_eq_true hstart
      simp [heq]

/-- A start that goes on to spawn does so when no gateway is alive. -/
theorem ended_of_launch (hapi : ProcessApi env) (h : Gateways env s)
    (hfound : Found env s.world s.spawned) {t : Nat} (hlaunch : launchAt env s.world = some t) :
    s.world.now ≤ t ∧ ∀ a ∈ s.spawned, (env t).runsChild a = false := by
  have hlater : s.world.now + 1 ≤ t := by
    unfold launchAt at hlaunch
    split at hlaunch
    · split at hlaunch
      · cases hlaunch
      · have := Option.some.inj hlaunch
        omega
    · have := Option.some.inj hlaunch
      omega
  refine ⟨by omega, fun a ha => ?_⟩
  rw [Bool.eq_false_iff]
  intro halive
  have hspawned := h.earlier ha
  have hsoon := hapi.lives (hspawned.mono (by omega)) hlater halive
  have hnow := hapi.lives hspawned (by omega) hsoon
  obtain ⟨hread, hstat⟩ := hfound a ha hsoon
  obtain ⟨record, hrecord, hnames⟩ := h.recorded ha hnow
  have hfile : (env s.world.now).gatewayAt s.world.gateway = .ok (some record) := by
    unfold Moment.gatewayAt
    rw [hread]
    cases hgateway : s.world.gateway with
    | missing => rw [hgateway] at hrecord; cases hrecord
    | unparsable error => rw [hgateway] at hrecord; cases hrecord
    | record saved =>
        rw [hgateway] at hrecord
        rw [← Option.some.inj hrecord]
        rfl
  have hrunning := gatewayCheck_of_alive hapi hnames hsoon hstat
  unfold launchAt at hlaunch
  rw [hfile] at hlaunch
  dsimp only at hlaunch
  rw [if_pos hrunning] at hlaunch
  cases hlaunch

theorem gateways_launch (hapi : ProcessApi env) (h : Gateways env s) {spec : GatewayProcessSpec}
    {t : Nat} (hlater : s.world.now ≤ t) (hended : ∀ a ∈ s.spawned, (env t).runsChild a = false)
    (hkeeps : LaunchKeeps env spec t) :
    Gateways env ((s.at t).after env (launchGateway spec)) := by
  rcases @after_launchGateway env (s.at t) spec with
    ⟨result, now, hresult, hnow, hafter⟩ |
    ⟨hprepared, child, hspawned, record, hpid, hstart, result, hresult, hafter⟩
  · rw [hafter]
    refine h.of_same hapi rfl rfl (Nat.le_trans hlater hnow) fun result' hlast => ?_
    rw [← Option.some.inj hlast, hresult]
    decide
  · have hchild : SpawnedBefore env (t + 2) child := ⟨t + 1, by omega, _, _, _, hspawned⟩
    have hearlier : ∀ a ∈ s.spawned ++ [child], SpawnedBefore env (t + 5) a := by
      intro a ha
      rcases List.mem_append.mp ha with ha | ha
      · exact (h.earlier ha).mono (by omega)
      · rw [List.mem_singleton.mp ha]
        exact hchild.mono (by omega)
    have honly : ∀ a ∈ s.spawned ++ [child], (env (t + 5)).runsChild a = true → a = child := by
      intro a ha halive
      rcases List.mem_append.mp ha with ha | ha
      · have hbefore := hapi.lives ((h.earlier ha).mono hlater) (by omega) halive
        rw [hended a ha] at hbefore
        cases hbefore
      · exact List.mem_singleton.mp ha
    have hnow : ((s.at t).after env (launchGateway spec)).world.now = t + 5 := by
      rw [hafter]
      rfl
    have hgateway : ((s.at t).after env (launchGateway spec)).world.gateway
        = if (env (t + 4)).fileError .writeGateway = none then .record record
          else s.world.gateway := by
      rw [hafter]
      rfl
    have hall : ((s.at t).after env (launchGateway spec)).spawned = s.spawned ++ [child] := by
      rw [hafter]
      rfl
    have hlast : ((s.at t).after env (launchGateway spec)).last = some result := by
      rw [hafter]
    generalize (s.at t).after env (launchGateway spec) = s' at hnow hgateway hall hlast ⊢
    constructor
    · constructor
      · intro a b ha hb haliveA haliveB
        rw [hall] at ha hb
        rw [hnow] at haliveA haliveB
        rw [honly a ha haliveA, honly b hb haliveB]
      · intro a ha halive
        rw [hall] at ha
        rw [hnow] at halive
        obtain rfl := honly a ha halive
        have hwritten : (env (t + 4)).fileError .writeGateway = none := by
          rcases hkeeps hprepared a hspawned with hwritten | hgone
          · exact hwritten
          · rw [hgone] at halive
            cases halive
        rw [hgateway, if_pos hwritten]
        refine ⟨record, rfl, ?_⟩
        have hsoon := hapi.lives hchild (by omega) halive
        have hruns : (env (t + 2)).processes a.processId = some a.startTime :=
          of_decide_eq_true hsoon
        have hshown : record.processStartTime.all (a.startTime = ·) = true := by
          rw [hstart]
          change Option.all _ ((env (t + 2)).statAt a.processId) = true
          cases hstat : (env (t + 2)).statAt a.processId with
          | none => rfl
          | some startTime =>
              have hsame := Option.some.inj ((hapi.stat hstat).symm.trans hruns)
              exact decide_eq_true hsame.symm
        unfold GatewayProcessRecord.names
        rw [hshown, hpid]
        simp
      · intro result' hresult' hstatus
        rw [hlast] at hresult'
        rw [← Option.some.inj hresult'] at hstatus
        exact absurd hstatus hresult
    · intro a ha
      rw [hall] at ha
      rw [hnow]
      exact hearlier a ha

theorem gateways_startGateway (hapi : ProcessApi env) (h : Gateways env s) {spec : GatewayProcessSpec}
    (hkeeps : StartKeeps env s.world s.spawned deps statePath spec) :
    Gateways env (s.after env (startGateway deps statePath spec)) := by
  unfold StartKeeps at hkeeps
  cases hvalid : spec.validate deps statePath with
  | error message =>
      unfold startGateway
      rw [hvalid]
      dsimp only
      rw [after_pure]
      refine h.of_same hapi rfl rfl (Nat.le_refl _) fun result hlast => ?_
      rw [← Option.some.inj hlast]
      exact failed_ne_stopped
  | ok value =>
      rw [hvalid] at hkeeps
      obtain ⟨hfound, hlaunch⟩ := hkeeps
      have hstart := @after_startGateway _ env statePath s _ hvalid
      cases hat : launchAt env s.world with
      | none =>
          rw [hat] at hstart
          obtain ⟨result, hresult, hafter⟩ := hstart
          rw [hafter]
          have hlater : s.world.now ≤ s.world.now + 2 := by omega
          refine h.of_same hapi rfl rfl hlater fun result' hlast => ?_
          rw [← Option.some.inj hlast, hresult]
          decide
      | some t =>
          rw [hat] at hstart hlaunch
          obtain ⟨hlater, hended⟩ := ended_of_launch hapi h hfound hat
          rw [hstart]
          exact gateways_launch hapi h hlater hended hlaunch

/-! ### A stop -/

theorem after_stopGateway :
    s.after env stopGateway = match (env s.world.now).gatewayAt s.world.gateway with
      | .error error =>
          { s.at (s.world.now + 1) with
            last := some (gatewayFailure ("Failed to load Gateway state: " ++ error)) }
      | .ok none =>
          { s.at (s.world.now + 1) with
            last := some { gatewayStatus := "stopped", message := "Gateway is not running" } }
      | .ok (some record) => (s.at (s.world.now + 1)).after env (stopRecordedGateway record) := by
  rw [stopGateway, after_quiet_bind quiet_loadRecord, run_loadRecord]
  cases (env s.world.now).gatewayAt s.world.gateway with
  | error error =>
      dsimp only
      rw [after_pure]
      rfl
  | ok loaded =>
      cases loaded with
      | none =>
          dsimp only
          rw [after_pure]
          rfl
      | some record => rfl

/-- The end of a stop, once the gateway has been signalled or not found. -/
theorem after_removal (result : GatewayTaskResult) :
    ∃ file, s.after env (do
        let _ ← perform .removeGateway
        pure result)
      = { world := { s.world with gateway := file, now := s.world.now + 1 }
          spawned := s.spawned
          last := some result } := by
  have hquiet : (perform .removeGateway).Performs Quiet := performs_perform fun _ => rfl
  have hremoved : run env (perform .removeGateway) s.world
      = match (env s.world.now).fileError .removeGateway with
        | some error => (.error error, s.world.tick)
        | none => (.ok (), { s.world.tick with gateway := .missing }) := rfl
  rw [after_quiet_bind hquiet, after_pure, hremoved]
  cases (env s.world.now).fileError .removeGateway with
  | some error => exact ⟨s.world.gateway, rfl⟩
  | none => exact ⟨.missing, rfl⟩

theorem after_stopRecordedGateway (record : GatewayProcessRecord) :
    if (gatewayCheck record ((env s.world.now).statAt record.processId)).isRunning then
      match gatewayKilled ((env (s.world.now + 1)).answer (.kill record.processId)) with
      | .error message => s.after env (stopRecordedGateway record)
          = { s.at (s.world.now + 2) with last := some (gatewayFailure message) }
      | .ok _ => ∃ file result, s.after env (stopRecordedGateway record)
          = { world := { s.world with gateway := file, now := s.world.now + 3 }
              spawned := s.spawned
              last := some result }
    else ∃ file result, s.after env (stopRecordedGateway record)
      = { world := { s.world with gateway := file, now := s.world.now + 2 }
          spawned := s.spawned
          last := some result } := by
  rw [stopRecordedGateway, after_quiet_bind (quiet_checkGatewayRecord record),
    run_checkGatewayRecord]
  dsimp only
  by_cases hrunning : (gatewayCheck record ((env s.world.now).statAt record.processId)).isRunning = true
  · simp only [if_pos hrunning]
    have hkill : (killProcess record.processId).Performs Quiet :=
      (performs_await fun _ => rfl).bind fun _ => trivial
    have hkilled : run env (killProcess record.processId) s.world.tick
        = (gatewayKilled ((env (s.world.now + 1)).answer (.kill record.processId)),
          s.world.tick.tick) := rfl
    rw [after_quiet_bind hkill, hkilled]
    cases gatewayKilled ((env (s.world.now + 1)).answer (.kill record.processId)) with
    | error message =>
        dsimp only
        rw [after_pure]
        rfl
    | ok value =>
        obtain ⟨file, hremoved⟩ := @after_removal env
          { s with world := s.world.tick.tick } (record.result "stopped" "Gateway stopped")
        exact ⟨file, _, hremoved⟩
  · simp only [if_neg hrunning]
    obtain ⟨file, hremoved⟩ := @after_removal env { s with world := s.world.tick }
      (record.result "stopped" "Gateway stopped")
    exact ⟨file, _, hremoved⟩

theorem recorded_of_gatewayAt {m : Moment} {file : GatewayFile}
    {loaded : Option GatewayProcessRecord} (h : m.gatewayAt file = .ok loaded) :
    file.recorded = loaded := by
  unfold Moment.gatewayAt at h
  cases hread : m.fileError .readGateway with
  | some error =>
      rw [hread] at h
      cases h
  | none =>
      rw [hread] at h
      cases file with
      | missing => exact Except.ok.inj h
      | unparsable error => cases h
      | record saved => exact Except.ok.inj h

/-- A gateway that the loaded record does not name is not alive. -/
theorem ended_of_unnamed (hapi : ProcessApi env) (h : Gateways env s) {t : Nat}
    (hlater : s.world.now ≤ t) {loaded : Option GatewayProcessRecord}
    (hfile : (env s.world.now).gatewayAt s.world.gateway = .ok loaded)
    (hended : ∀ record, loaded = some record → ∀ a ∈ s.spawned, record.names a = true →
      (env t).runsChild a = false) :
    ∀ a ∈ s.spawned, (env t).runsChild a = false := by
  intro a ha
  rw [Bool.eq_false_iff]
  intro halive
  have hnow := hapi.lives (h.earlier ha) hlater halive
  obtain ⟨record, hrecord, hnames⟩ := h.recorded ha hnow
  rw [recorded_of_gatewayAt hfile] at hrecord
  rw [hended record hrecord a ha hnames] at halive
  cases halive

theorem gateways_stopGateway (hapi : ProcessApi env) (h : Gateways env s)
    (hkeeps : StopKeeps env s.world s.spawned) : Gateways env (s.after env stopGateway) := by
  rw [after_stopGateway]
  unfold StopKeeps at hkeeps
  cases hfile : (env s.world.now).gatewayAt s.world.gateway with
  | error error =>
      have hlater : s.world.now ≤ s.world.now + 1 := by omega
      refine h.of_same hapi rfl rfl hlater fun result hlast => ?_
      rw [← Option.some.inj hlast]
      exact failed_ne_stopped
  | ok loaded =>
      rw [hfile] at hkeeps
      cases loaded with
      | none =>
          have hlater : s.world.now ≤ s.world.now + 1 := by omega
          exact h.of_ended rfl hlater (ended_of_unnamed hapi h hlater hfile nofun)
      | some record =>
          dsimp only at hkeeps ⊢
          have hafter := @after_stopRecordedGateway env (s.at (s.world.now + 1)) record
          have hsame : (env (s.at (s.world.now + 1)).world.now).statAt record.processId
              = (env (s.world.now + 1)).statAt record.processId := rfl
          have hkill : (env ((s.at (s.world.now + 1)).world.now + 1)).answer (.kill record.processId)
              = (env (s.world.now + 2)).answer (.kill record.processId) := rfl
          rw [hsame, hkill] at hafter
          by_cases hrunning : (gatewayCheck record
              ((env (s.world.now + 1)).statAt record.processId)).isRunning = true
          · rw [if_pos hrunning] at hkeeps hafter
            cases hkilled : gatewayKilled
                ((env (s.world.now + 2)).answer (.kill record.processId)) with
            | error message =>
                rw [hkilled] at hafter
                have hlater : s.world.now ≤ s.world.now + 3 := by omega
                rw [hafter]
                refine h.of_same hapi rfl rfl hlater fun result hlast => ?_
                rw [← Option.some.inj hlast]
                exact failed_ne_stopped
            | ok value =>
                rw [hkilled] at hafter hkeeps
                obtain ⟨file, result, hafter⟩ := hafter
                have hlater : s.world.now ≤ s.world.now + 4 := by omega
                rw [hafter]
                refine h.of_ended rfl hlater (ended_of_unnamed hapi h hlater hfile ?_)
                intro record' hrecord' a ha hnames
                rw [← Option.some.inj hrecord'] at hnames
                exact hkeeps a ha hnames
          · rw [if_neg hrunning] at hkeeps hafter
            obtain ⟨file, result, hafter⟩ := hafter
            have hlater : s.world.now ≤ s.world.now + 3 := by omega
            rw [hafter]
            refine h.of_ended rfl hlater (ended_of_unnamed hapi h hlater hfile ?_)
            intro record' hrecord' a ha hnames
            rw [← Option.some.inj hrecord'] at hnames
            rw [Bool.eq_false_iff]
            intro halive
            have hspawned := (h.earlier ha).mono (by omega : s.world.now ≤ s.world.now + 1)
            have hend : s.world.now + 1 ≤ s.world.now + 3 := by omega
            have hsoon := hapi.lives hspawned hend halive
            exact hrunning (gatewayCheck_of_alive hapi hnames hsoon (hkeeps a ha hnames hsoon))

theorem quiet_stopGateway : stopGateway.Performs Quiet := by
  refine quiet_loadRecord.bind fun loaded => ?_
  match loaded with
  | .error error => trivial
  | .ok none => trivial
  | .ok (some record) =>
      refine (quiet_checkGatewayRecord record).bind fun check => ?_
      have hremoval : Program.Performs Quiet (do
          let _ ← perform .removeGateway
          pure (record.result "stopped" "Gateway stopped")) :=
        (performs_perform fun _ => rfl).bind fun _ => trivial
      have hkill : (killProcess record.processId).Performs Quiet :=
        (performs_await fun _ => rfl).bind fun _ => trivial
      dsimp only
      split
      · refine hkill.bind fun killed => ?_
        cases killed with
        | error message => trivial
        | ok _ => exact hremoval
      · exact hremoval

/-! ### The other tasks, and runs -/

/-- A check only takes time, and does not answer `stopped`. -/
theorem after_checkGateway : ∃ now result, s.world.now ≤ now ∧ result.gatewayStatus ≠ "stopped" ∧
    s.after env checkGateway = { s.at now with last := some result } := by
  rw [checkGateway, after_quiet_bind quiet_loadRecord, run_loadRecord]
  dsimp only
  cases (env s.world.now).gatewayAt s.world.gateway with
  | error error => exact ⟨_, _, Nat.le_succ _, failed_ne_stopped, after_pure _⟩
  | ok loaded =>
      cases loaded with
      | none => exact ⟨_, _, Nat.le_succ _, failed_ne_stopped, after_pure _⟩
      | some record =>
          dsimp only
          rw [after_quiet_bind (quiet_checkGatewayRecord record), run_checkGatewayRecord]
          dsimp only
          have hlater : s.world.now ≤ s.world.now + 2 := by omega
          split
          · have hquiet : (await (.gatewayHealth record.healthUrl)).Performs Quiet :=
              performs_await fun _ => rfl
            rw [after_quiet_bind hquiet, run_await]
            have hend : s.world.now ≤ s.world.now + 3 := by omega
            dsimp only
            split
            · refine ⟨_, _, hend, ?_, after_pure _⟩
              exact fun h => absurd h (by decide : ("running" : String) ≠ "stopped")
            · exact ⟨_, _, hend, failed_ne_stopped, after_pure _⟩
          · exact ⟨_, _, hlater, failed_ne_stopped, after_pure _⟩

theorem gateways_failure (hapi : ProcessApi env) (h : Gateways env s) (message : String) :
    Gateways env (s.after env (pure (gatewayFailure message))) := by
  rw [after_pure]
  refine h.of_same hapi rfl rfl (Nat.le_refl _) fun result hlast => ?_
  rw [← Option.some.inj hlast]
  exact failed_ne_stopped

theorem gateways_step (hapi : ProcessApi env) (h : Gateways env s) {event : GatewayEvent}
    (hkeeps : GatewayKeeps deps env statePath s event) :
    Gateways env (gatewayStep deps env statePath s event) := by
  cases event with
  | outside file =>
      constructor
      · constructor
        · exact fun ha hb => h.one ha hb
        · exact fun ha halive => hkeeps _ ha halive
        · exact fun hlast => nomatch hlast
      · exact fun ha => h.earlier ha
  | pause => exact h.of_same hapi rfl rfl (Nat.le_succ _) fun result hlast => nomatch hlast
  | task task =>
      cases task with
      | check =>
          obtain ⟨now, result, hlater, hresult, hafter⟩ := @after_checkGateway env s
          have hstep : gatewayStep deps env statePath s (.task .check)
              = { s.at now with last := some result } := hafter
          rw [hstep]
          refine h.of_same hapi rfl rfl hlater fun result' hlast => ?_
          rwa [← Option.some.inj hlast]
      | stop => exact gateways_stopGateway hapi h hkeeps
      | start payload =>
          unfold GatewayKeeps at hkeeps
          unfold gatewayStep GatewayTask.handle
          dsimp only at hkeeps ⊢
          cases hspec : gatewaySpecFromPayload payload with
          | error message => exact gateways_failure hapi h message
          | ok spec =>
              rw [hspec] at hkeeps
              exact gateways_startGateway hapi h hkeeps
      | restart payload =>
          unfold GatewayKeeps at hkeeps
          unfold gatewayStep GatewayTask.handle
          dsimp only at hkeeps ⊢
          cases hspec : gatewaySpecFromPayload payload with
          | error message => exact gateways_failure hapi h message
          | ok spec =>
              rw [hspec] at hkeeps
              obtain ⟨hstop, hstart⟩ := hkeeps
              have hstopped := gateways_stopGateway hapi h hstop
              dsimp only
              rw [restartGateway, after_bind]
              have hspawned : (s.after env stopGateway).spawned = s.spawned := by
                unfold GatewayState.after
                rw [createdBy_quiet quiet_stopGateway, List.filterMap_nil, List.append_nil]
              by_cases hfailed : (run env stopGateway s.world).1.gatewayStatus = "failed"
              · rw [if_pos hfailed, after_pure]
                refine hstopped.of_same hapi rfl rfl (Nat.le_refl _) fun result hlast => ?_
                rw [← Option.some.inj hlast, hfailed]
                exact failed_ne_stopped
              · rw [if_neg hfailed]
                have hkeeps : StartKeeps env (s.after env stopGateway).world
                    (s.after env stopGateway).spawned deps statePath spec := by
                  rw [hspawned]
                  exact hstart hfailed
                exact gateways_startGateway hapi hstopped hkeeps

end Keep

section Theorem

variable {deps : External} {env : Nat → Moment} {statePath : String}

/-- In a run whose events all meet the condition there is never more than one gateway, and it is the
recorded one. -/
theorem one_gateway_always (hapi : ProcessApi env) (w : World) {events : List GatewayEvent}
    (hkeeps : Trace.Along (gatewayStep deps env statePath) (GatewayKeeps deps env statePath)
      { world := w } events) :
    Trace.Always (gatewayStep deps env statePath) (OneGateway env) { world := w } events := by
  have hinit : Gateways env { world := w } := by
    constructor
    · constructor
      · exact fun ha => absurd ha List.not_mem_nil
      · exact fun ha => absurd ha List.not_mem_nil
      · exact fun hlast => nomatch hlast
    · exact fun ha => absurd ha List.not_mem_nil
  exact Trace.always_of_invariant (fun s event h hok => gateways_step hapi h hok)
    (fun s h => h.toOneGateway) hinit hkeeps

end Theorem

/-! ### A gateway that does not end at once -/

/-- Every health URL is well formed. -/
def localUrls : External :=
  { noExternal with
    parseUrl _ := some
      { scheme := "http", host := some "127.0.0.1", path := "/health", query := none } }

def gatewayPayload : Json :=
  .obj [("binary_path", .str "/opt/gateway"), ("config_path", .str "gateway.toml"),
    ("work_dir", .str "/opt"), ("log_path", .str "lightai-gateway.log"),
    ("health_url", .str "http://127.0.0.1:18082/health")]

/-- The `stat` of a process with the start time 1. -/
def statLine : String := "7 (gateway) S 1 7 7 0 -1 0 0 0 0 0 0 0 0 0 20 0 1 0 1 0"

/-- A gateway with the process id 7 can be spawned at any moment, and signals are sent; it is alive
until a given moment. -/
def gatewayUntil (last : Nat) (now : Nat) : Moment where
  processes pid := if pid = 7 ∧ now ≤ last then some 1 else none
  containers _ := false
  nameHolder _ := none
  created _ := none
  fileError _ := none
  answer
    | .prepareGateway _ => .ok ()
    | .spawnGateway .. => .ok { processId := 7, startTime := 1 }
    | .readStat pid => if pid = 7 ∧ now ≤ last then some statLine else none
    | .kill _ => .exited true "exit status: 0" "" ""
    | other => other.failed

/-- The gateway is still alive when the stop answers `stopped`. -/
theorem gateway_alive_after_stop :
    ¬ Trace.Always (gatewayStep localUrls (gatewayUntil 100) "state") (OneGateway (gatewayUntil 100))
      { world := {} } [.task (.start gatewayPayload), .task .stop] := by
  intro halways
  have hone := halways [.task (.start gatewayPayload), .task .stop] [] rfl
  have hlast : (Trace.run (gatewayStep localUrls (gatewayUntil 100) "state") { world := {} }
      [.task (.start gatewayPayload), .task .stop]).last.map (·.gatewayStatus) = some "stopped" := by
    decide
  have hspawned : ({ processId := 7, startTime := 1 } : Child) ∈
      (Trace.run (gatewayStep localUrls (gatewayUntil 100) "state") { world := {} }
        [.task (.start gatewayPayload), .task .stop]).spawned := by
    decide
  obtain ⟨result, hresult, hstatus⟩ := Option.map_eq_some_iff.mp hlast
  have hended := hone.stopped hresult hstatus hspawned
  have halive : (gatewayUntil 100 (Trace.run (gatewayStep localUrls (gatewayUntil 100) "state")
      { world := {} } [.task (.start gatewayPayload), .task .stop]).world.now).runsChild
      { processId := 7, startTime := 1 } = true := by
    decide
  rw [halive] at hended
  cases hended

theorem gatewayUntil_api (last : Nat) : ProcessApi (gatewayUntil last) where
  stat {t pid startTime} hstat := by
    have hstat' : Option.bind (if pid = 7 ∧ t ≤ last then some statLine else none)
        parseLinuxStatStartTime = some startTime := hstat
    change (if pid = 7 ∧ t ≤ last then some 1 else none) = some startTime
    by_cases hcase : pid = 7 ∧ t ≤ last
    · have hparsed : parseLinuxStatStartTime statLine = some 1 := by decide
      rw [if_pos hcase] at hstat' ⊢
      exact hparsed.symm.trans hstat'
    · rw [if_neg hcase] at hstat'
      cases hstat'
  lives {t t' child} _ hlater halive := by
    have hruns : (if child.processId = 7 ∧ t' ≤ last then some 1 else none) = some child.startTime :=
      of_decide_eq_true halive
    by_cases hcase : child.processId = 7 ∧ t' ≤ last
    · have hearly : child.processId = 7 ∧ t ≤ last := ⟨hcase.1, by omega⟩
      rw [if_pos hcase] at hruns
      refine decide_eq_true ?_
      exact (if_pos hearly).trans hruns
    · rw [if_neg hcase] at hruns
      cases hruns

/-- The gateway has ended when the stop returns. -/
theorem one_gateway_started_and_stopped :
    Trace.Always (gatewayStep localUrls (gatewayUntil 9) "state") (OneGateway (gatewayUntil 9))
      { world := {} } [.task (.start gatewayPayload), .task .stop] := by
  have hstart : Found (gatewayUntil 9) {} [] ∧
      LaunchKeeps (gatewayUntil 9)
        { binaryPath := "/opt/gateway"
          configPath := "gateway.toml"
          workDir := "/opt"
          logPath := "lightai-gateway.log"
          healthUrl := "http://127.0.0.1:18082/health" } 1 :=
    ⟨nofun, fun _ _ _ => .inl rfl⟩
  have hstop : ∀ a ∈ [({ processId := 7, startTime := 1 } : Child)],
      (⟨7, some 1, "", "", "", 0⟩ : GatewayProcessRecord).names a = true →
        (gatewayUntil 9 10).runsChild a = false := by decide
  exact one_gateway_always (gatewayUntil_api 9) {} ⟨hstart, hstop, trivial⟩

end LightAI.Agent
