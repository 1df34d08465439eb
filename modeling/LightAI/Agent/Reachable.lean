import LightAI.Agent.Starts
import LightAI.Base.Trace

/-!
# Whether what runs can still be reached

Both accounts of the agent have one place for an instance. A start takes that place without looking at
what is there, and a stop clears it without waiting for the end of what it names; so what an earlier
start has created can run on with nothing left that refers to it.
-/

namespace LightAI.Agent

/-! ### Runs of starts and stops -/

/-- Something that a successful start has created. -/
structure Owned where
  instanceId : String
  created : Created
  /-- The moment at which the start has returned. -/
  since : Nat

structure TaskState where
  world : World
  started : List Owned := []

inductive TaskEvent where
  | start (payload : Json)
  | stop (payload : Json)
  /-- A round of the monitor of an instance. -/
  | monitor (instanceId : String)
  /-- The agent is restarted and loses what it has in memory. -/
  | restart
  | pause

/-- How the agent handles a stop. Its task loop always has a store. -/
def handleStop (deps : External) (payload : Json) : Async ModelInstanceTaskResult :=
  if payloadText payload "backend" = "ollama" then await (.stopOllama payload)
  else stopModelInstanceWithStore deps payload true

def handleStart (deps : External) (payload : Json) : Async ModelInstanceTaskResult :=
  startModelInstanceWithStore deps payload true

section Runs

variable (deps : External) (env : Nat → Moment)

/-- What a start has created, if it has been successful. -/
def startedBy (payload : Json) (w : World) : List Owned :=
  let outcome := run env (handleStart deps payload) w
  if outcome.1.instanceStatus = "running" then
    (createdBy env (handleStart deps payload) w).map fun created =>
      { instanceId := payloadText payload "instance_id", created, since := outcome.2.now }
  else []

def taskStep (s : TaskState) : TaskEvent → TaskState
  | .start payload =>
      { world := (run env (handleStart deps payload) s.world).2
        started := s.started ++ startedBy deps env payload s.world }
  | .stop payload => { s with world := (run env (handleStop deps payload) s.world).2 }
  | .monitor instanceId => { s with world := ((Op.monitor instanceId).exec env s.world).2 }
  | .restart =>
      { s with
        world := { s.world.tick with registry := fun _ => none, daemons := fun _ => none } }
  | .pause => { s with world := s.world.tick }

end Runs

/-! ### What refers to a process or container -/

/-- It has not stopped running since it has been started. -/
def Owned.stillRuns (env : Nat → Moment) (o : Owned) (now : Nat) : Prop :=
  ∀ t, o.since ≤ t → t ≤ now → (env t).has o.created = true

/-- The registry has the handle of the child. -/
def Owned.inRegistry (w : World) (o : Owned) : Prop :=
  ∃ handle, w.registry o.instanceId = some handle ∧ o.created = .child handle.child

/-- Whether a record is about a process or container. -/
def ManagedProcessRecord.refersTo (record : ManagedProcessRecord) : Created → Bool
  | .child child => record.names child
  | .container containerId => record.isDocker && record.containerRef = some containerId

/-- A record of the instance is about it. -/
def Owned.inStore (w : World) (o : Owned) : Prop :=
  ∃ record ∈ w.store.held, record.instanceId = o.instanceId ∧ record.refersTo o.created = true

/-- Everything that a successful start has created and that still runs is in the registry or in the store,
under its instance. -/
def AllReachable (env : Nat → Moment) (s : TaskState) : Prop :=
  ∀ o ∈ s.started, o.stillRuns env s.world.now → o.inRegistry s.world ∨ o.inStore s.world

/-! ### When it stays so -/

section Conditions

variable (deps : External) (env : Nat → Moment) (s : TaskState)

/-- What has been started for an instance and still runs at a moment. -/
def StillRunning (instanceId : String) (now : Nat) (o : Owned) : Prop :=
  o ∈ s.started ∧ o.instanceId = instanceId ∧ o.stillRuns env now

/-- The start of an Ollama instance finds no daemon and spawns one. -/
def SpawnsDaemon (payload : Json) : Prop :=
  let start := OllamaStart.fromPayload deps payload
  (env s.world.now).answer (.apiTagsReachable start.cfg.apiBase) = false ∧
    ∃ t child, liveAt env s.world.tick start.runtimeEnvId = (none, t) ∧
      (env (t + 2)).answer (.spawnDaemon start.binaryPath start.cfg.env) = Except.ok child

/-- A successful start finds nothing running of its instance, or it is one of a container and what runs is
in the registry. It is not one that has started a daemon of Ollama. -/
def StartReaches (payload : Json) : Prop :=
  let outcome := run env (handleStart deps payload) s.world
  outcome.1.instanceStatus = "running" →
    (∀ o, StillRunning env s (payloadText payload "instance_id") outcome.2.now o →
      payloadText payload "deploy_type" = "docker" ∧ o.inRegistry s.world) ∧
    (payloadText payload "deploy_type" ≠ "docker" → payloadText payload "backend" = "ollama" →
      ¬ SpawnsDaemon deps env s payload)

/-- A stop that clears the store, or takes the handle, leaves nothing running that only they refer to. -/
def StopReaches (payload : Json) : Prop :=
  let instanceId := payloadText payload "instance_id"
  let now := (run env (handleStop deps payload) s.world).2.now
  match stopRoute env s.world instanceId true with
  | .refused => True
  | .docker record =>
      UpdateFails env (s.world.now + 1 + stopTicks record) s.world.store ∨
        ∀ o, StillRunning env s instanceId now o → o.inRegistry s.world
  | .child handle =>
      ∀ o, StillRunning env s instanceId now o → o.inStore s.world ∧
        ((∃ error, (env (s.world.now + 2)).answer (.killChild handle.child) = Except.error error) ∨
          UpdateFails env (s.world.now + 3) s.world.store)
  | .recorded record =>
      UpdateFails env (s.world.now + 3 + killTicks deps (env (s.world.now + 3)) record)
          s.world.store ∨
        ∀ o, ¬ StillRunning env s instanceId now o

/-- The condition on each event of a run. A monitor gives up the handle of a child that has exited, or
of which it cannot be found out. -/
def KeepsReachable : TaskEvent → Prop
  | .start payload => StartReaches deps env s payload
  | .stop payload => payloadText payload "backend" = "ollama" ∨ StopReaches deps env s payload
  | .monitor instanceId =>
      ∀ handle, s.world.registry instanceId = some handle →
        (env s.world.now).answer (.tryWait handle.child) ≠ Except.ok none →
          ∀ o, StillRunning env s instanceId (s.world.now + 1) o → o.inStore s.world
  | .restart => ∀ o ∈ s.started, o.stillRuns env (s.world.now + 1) → o.inStore s.world
  | .pause => True

end Conditions

/-- `docker run` prints the id of the container that it has created. -/
def PrintsContainerId (env : Nat → Moment) : Prop :=
  ∀ t args status stdout stderr containerId,
    (env t).answer (.dockerRun args) = CommandOutcome.exited true status stdout stderr →
      (env t).created args = some containerId → Text.trim stdout = containerId

/-! ### What stays where it is -/

section Frame

variable {env : Nat → Moment} {w w' : World} {o : Owned}

theorem Owned.stillRuns.earlier {now now' : Nat} (h : o.stillRuns env now') (hle : now ≤ now') :
    o.stillRuns env now :=
  fun t hsince ht => h t hsince (Nat.le_trans ht hle)

theorem Owned.inRegistry.frame (h : o.inRegistry w)
    (hsame : w'.registry o.instanceId = w.registry o.instanceId) : o.inRegistry w' := by
  obtain ⟨handle, hhandle, hchild⟩ := h
  exact ⟨handle, hsame.trans hhandle, hchild⟩

theorem Owned.inStore.frame (h : o.inStore w)
    (hkept : ∀ record ∈ w.store.held, record.instanceId = o.instanceId → record ∈ w'.store.held) :
    o.inStore w' := by
  obtain ⟨record, hheld, hid, hrefers⟩ := h
  exact ⟨record, hkept record hheld hid, hid, hrefers⟩

theorem update_of_ne {registry : String → Option ProcessHandle} {instanceId other : String}
    {handle : Option ProcessHandle} (hne : other ≠ instanceId) :
    Function.update registry instanceId handle other = registry other :=
  Function.update_of_ne hne handle registry

theorem mem_without_append {instanceId : String} {records added : List ManagedProcessRecord}
    {record : ManagedProcessRecord} (hmem : record ∈ records) (hne : record.instanceId ≠ instanceId) :
    record ∈ without instanceId records ++ added :=
  List.mem_append_left _ (mem_without.mpr ⟨hmem, hne⟩)

end Frame

section Keep

variable {deps : External} {env : Nat → Moment} {s : TaskState}

/-- What has been started of other instances is not touched, and of this instance nothing is lost. -/
theorem AllReachable.of_frame (h : AllReachable env s) (w' : World) (instanceId : String)
    (hnow : s.world.now ≤ w'.now)
    (hregistry : ∀ other, other ≠ instanceId → w'.registry other = s.world.registry other)
    (hstore : ∀ record ∈ s.world.store.held, record.instanceId ≠ instanceId →
      record ∈ w'.store.held)
    (hown : ∀ o, StillRunning env s instanceId w'.now o →
      o.inRegistry s.world ∨ o.inStore s.world → o.inRegistry w' ∨ o.inStore w')
    {o : Owned} (ho : o ∈ s.started) (hruns : o.stillRuns env w'.now) :
    o.inRegistry w' ∨ o.inStore w' := by
  have hbefore := h o ho (hruns.earlier hnow)
  by_cases hid : o.instanceId = instanceId
  · exact hown o ⟨ho, hid, hruns⟩ hbefore
  · rcases hbefore with hregistered | hrecorded
    · exact .inl (hregistered.frame (hregistry o.instanceId hid))
    · refine .inr (hrecorded.frame fun record hheld hrecord => hstore record hheld ?_)
      rw [hrecord]
      exact hid

theorem mem_startedBy {payload : Json} {w : World} {o : Owned}
    (h : o ∈ startedBy deps env payload w) :
    (run env (handleStart deps payload) w).1.instanceStatus = "running" ∧
      o.instanceId = payloadText payload "instance_id" ∧
      o.created ∈ createdBy env (handleStart deps payload) w := by
  unfold startedBy at h
  dsimp only at h
  split at h
  · obtain ⟨created, hcreated, rfl⟩ := List.mem_map.mp h
    exact ⟨‹_›, rfl, hcreated⟩
  · exact absurd h List.not_mem_nil

theorem createdBy_launchDaemon (start : OllamaStart) (w : World)
    (hspawns : ∀ child, (env (w.now + 1)).answer
      (.spawnDaemon start.binaryPath start.cfg.env) ≠ Except.ok child) :
    createdBy env
      (launchDaemon start.runtimeEnvId start.binaryPath start.logDir start.cfg >>= start.load) w
        = [] := by
  unfold launchDaemon
  rw [createdBy_await_bind_bind]
  cases (env w.now).answer (.daemonLogPath start.logDir start.runtimeEnvId) with
  | error error => rfl
  | ok logPath =>
      dsimp only
      have hcreates : (Op.call (.spawnDaemon start.binaryPath start.cfg.env)).creates
          (env w.tick.now) = ((env (w.now + 1)).answer
            (.spawnDaemon start.binaryPath start.cfg.env)).toOption.map .child := rfl
      have hmoment : (env w.tick.now).answer (.spawnDaemon start.binaryPath start.cfg.env)
          = (env (w.now + 1)).answer (.spawnDaemon start.binaryPath start.cfg.env) := rfl
      rw [createdBy_await_bind_bind, hcreates, hmoment]
      cases hspawned : (env (w.now + 1)).answer
          (.spawnDaemon start.binaryPath start.cfg.env) with
      | ok child => exact absurd hspawned (hspawns child)
      | error startErr =>
          exact createdBy_quiet (quiet_of_daemon
            ((quiet_daemon_daemonNotSpawned ..).bind (quiet_daemon_load start))) w.tick.tick

/-- An Ollama start that spawns no daemon creates nothing. -/
theorem createdBy_ollama {payload : Json} (hdaemon : ¬ SpawnsDaemon deps env s payload) :
    createdBy env (startOllamaInstance deps payload) s.world = [] := by
  unfold SpawnsDaemon at hdaemon
  unfold startOllamaInstance
  generalize OllamaStart.fromPayload deps payload = start at hdaemon ⊢
  dsimp only at hdaemon ⊢
  by_cases hblank : Text.isBlank start.model = true
  · simp only [if_pos hblank]
    rfl
  · simp only [if_neg hblank]
    unfold ensureDaemon
    rw [createdBy_await_bind_bind]
    cases hreachable : (env s.world.now).answer (.apiTagsReachable start.cfg.apiBase) with
    | true =>
        refine createdBy_quiet (Program.Performs.bind ?_ fun ensured =>
          quiet_of_daemon (quiet_daemon_load start ensured)) s.world.tick
        exact (performs_await fun _ => rfl).bind fun _ => trivial
    | false =>
        simp only [Bool.false_eq_true, if_false]
        rw [createdBy_quiet_bind_bind (quiet_of_daemon (quiet_daemon_liveDaemon _)), run_liveDaemon]
        cases hlive : liveAt env s.world.tick start.runtimeEnvId with
        | mk handle t =>
            cases handle with
            | some handle =>
                exact createdBy_quiet
                  (quiet_of_daemon (quiet_daemon_load start (.ok
                    { baseUrl := start.cfg.apiBase
                      logPath := handle.logPath
                      action := "reused_existing_daemon" }))) { s.world.tick with now := t }
            | none =>
                have hspawns : ∀ child, (env (t + 2)).answer
                    (.spawnDaemon start.binaryPath start.cfg.env) ≠ Except.ok child :=
                  fun child hspawned => hdaemon ⟨hreachable, t, child, hlive, hspawned⟩
                exact createdBy_launchDaemon start
                  { s.world.tick with
                    daemons := Function.update s.world.daemons start.runtimeEnvId none
                    now := t + 1 } hspawns

theorem reachable_start (hprints : PrintsContainerId env) (h : AllReachable env s) {payload : Json}
    (hkeeps : StartReaches deps env s payload) :
    AllReachable env (taskStep deps env s (.start payload)) := by
  have hnow : s.world.now ≤ (run env (handleStart deps payload) s.world).2.now := now_le_run _ _
  have hworld : (taskStep deps env s (.start payload)).world
      = (run env (handleStart deps payload) s.world).2 := rfl
  intro o ho hruns
  rw [hworld] at hruns ⊢
  rcases @start_cases deps env payload true s.world with
    ⟨hpid, hend, daemons, now, hrun⟩ |
    ⟨hdocker, p, hid, hspawn, hstart, hcreated, hwaits, logTail, logPath, startedAt, now, hrun⟩ |
    ⟨args, status, stdout, stderr, hargs, hanswer, hcreated, hpid, hrunning, baseUrl, command,
      startedAt, now, hrun⟩
  · have hrun' : (run env (handleStart deps payload) s.world).2
        = { s.world with daemons, now } := hrun
    rcases List.mem_append.mp ho with hold | hnew
    · have hbefore := h o hold (hruns.earlier hnow)
      rw [hrun']
      exact hbefore
    · obtain ⟨hrunning, hid, hcreated⟩ := mem_startedBy hnew
      rcases hend with hfailed | ⟨hdocker, hollama⟩
      · exact absurd (hfailed.symm.trans hrunning) (by decide)
      · have hstart : handleStart deps payload = startOllamaInstance deps payload := by
          unfold handleStart startModelInstanceWithStore
          simp only [if_neg hdocker, if_pos hollama]
        rw [hstart, createdBy_ollama ((hkeeps hrunning).2 hdocker hollama)] at hcreated
        cases hcreated
  · have hrun' : run env (handleStart deps payload) s.world
        = (p.running logTail, p.recordedIn true s.world logPath startedAt now) := hrun
    have hrunning : (run env (handleStart deps payload) s.world).1.instanceStatus = "running" := by
      rw [hrun']
      rfl
    rcases List.mem_append.mp ho with hold | hnew
    · have hother : o.instanceId ≠ payloadText payload "instance_id" := by
        intro hsame
        exact hdocker ((hkeeps hrunning).1 o ⟨hold, hsame, hruns⟩).1
      rw [← hid] at hother
      rw [hrun']
      rcases h o hold (hruns.earlier hnow) with hregistered | hrecorded
      · exact .inl (hregistered.frame (update_of_ne hother))
      · refine .inr (hrecorded.frame fun record hheld hrecord => ?_)
        refine mem_without_append hheld ?_
        rwa [hrecord]
    · obtain ⟨_, hinstance, hmem⟩ := mem_startedBy hnew
      have hmem' : o.created ∈ [Created.child p.child] := hcreated ▸ hmem
      rw [hrun']
      refine .inl ⟨{ child := p.child, command := p.plan.command }, ?_, List.mem_singleton.mp hmem'⟩
      rw [hinstance, ← hid]
      exact Function.update_self ..
  · have hrun' : (run env (handleStart deps payload) s.world).2
        = containerIn deps payload true s.world (Text.trim stdout) baseUrl command startedAt now :=
      hrun
    rcases List.mem_append.mp ho with hold | hnew
    · rw [hrun']
      by_cases hsame : o.instanceId = payloadText payload "instance_id"
      · have hregistered := ((hkeeps hrunning).1 o ⟨hold, hsame, hruns⟩).2
        exact .inl (hregistered.frame rfl)
      · rcases h o hold (hruns.earlier hnow) with hregistered | hrecorded
        · exact .inl (hregistered.frame rfl)
        · refine .inr (hrecorded.frame fun record hheld hrecord => ?_)
          refine mem_without_append hheld ?_
          rwa [hrecord]
    · obtain ⟨_, hinstance, hmem⟩ := mem_startedBy hnew
      have hmem' : o.created ∈ (((env s.world.now).created args).map Created.container).toList :=
        hcreated ▸ hmem
      cases hcontainer : (env s.world.now).created args with
      | none =>
          rw [hcontainer] at hmem'
          cases hmem'
      | some containerId =>
          rw [hcontainer] at hmem'
          have hprinted := hprints _ _ _ _ _ _ hanswer hcontainer
          rw [hrun', hprinted]
          refine .inr ⟨_, List.mem_append_right _ (List.mem_singleton.mpr rfl), hinstance.symm, ?_⟩
          rw [List.mem_singleton.mp hmem']
          simp [ManagedProcessRecord.refersTo, createDockerManagedRecord,
            ManagedProcessRecord.isDocker, ManagedProcessRecord.containerRef]

/-- What a stop can do to the accounts of its instance, by the route that it takes. -/
theorem stop_cases (payload : Json) (w : World) :
    let instanceId := payloadText payload "instance_id"
    let after := (run env (stopModelInstanceWithStore deps payload true) w).2
    match stopRoute env w instanceId true with
    | .refused => ∃ now, after = w.withoutHandle instanceId now ∧ w.registry instanceId = none
    | .docker record => ∃ now, after = { w with now } ∨
        ¬ UpdateFails env (w.now + 1 + stopTicks record) w.store ∧
          after = { w with store := .records (without instanceId w.store.held), now }
    | .child handle => w.registry instanceId = some handle ∧ ∃ now,
        ((∃ error, (env (w.now + 2)).answer (.killChild handle.child) = Except.error error) ∨
          UpdateFails env (w.now + 3) w.store) ∧ after = w.withoutHandle instanceId now ∨
        ¬ ((∃ error, (env (w.now + 2)).answer (.killChild handle.child) = Except.error error) ∨
          UpdateFails env (w.now + 3) w.store) ∧
          after = { w.withoutHandle instanceId now with
            store := .records (without instanceId w.store.held) }
    | .recorded record => w.registry instanceId = none ∧ ∃ now,
        after = w.withoutHandle instanceId now ∨
        ¬ UpdateFails env (w.now + 3 + killTicks deps (env (w.now + 3)) record) w.store ∧
          after = { w.withoutHandle instanceId now with
            store := .records (without instanceId w.store.held) } := by
  dsimp only
  unfold stopRoute
  cases hdocker : dockerAt (env w.now) w.store (payloadText payload "instance_id") true with
  | some record =>
      dsimp only
      rw [run_stop_docker deps hdocker]
      rcases (@run_stopDockerInstance env { w with now := w.now + 1 }
          (payloadText payload "instance_id") record).2 with
        ⟨hfails, now, hworld⟩ | ⟨hsucceeds, hworld⟩
      · exact ⟨now, .inl hworld⟩
      · exact ⟨_, .inr ⟨hsucceeds, hworld⟩⟩
  | none =>
      dsimp only
      rw [run_stop_of_not_docker deps hdocker]
      cases hhandle : w.registry (payloadText payload "instance_id") with
      | some handle =>
          dsimp only
          refine ⟨rfl, ?_⟩
          rcases @run_stopChild env
              (w.withoutHandle (payloadText payload "instance_id") (childKillAt true w))
              (payloadText payload "instance_id") true handle with
            ⟨hstatus, hfails, now, hworld⟩ | ⟨hkilled, hremoved, hstatus, hworld⟩
          · refine ⟨now, .inl ⟨?_, hworld⟩⟩
            rcases hfails with hkill | ⟨_, hfails⟩
            · exact .inl hkill
            · exact .inr hfails
          · refine ⟨w.now + 6, .inr ⟨?_, hworld⟩⟩
            rintro (hkill | hfails)
            · exact hkilled hkill
            · exact hremoved rfl hfails
      | none =>
          dsimp only
          have hrecorded := @run_stopRecorded deps env
            (w.withoutHandle (payloadText payload "instance_id") (childKillAt true w))
            (payloadText payload "instance_id") true
          have hmoment : childKillAt true w = w.now + 2 := rfl
          rw [withoutHandle_store, withoutHandle_now, hmoment] at hrecorded
          cases hrecord : recordAt (env (w.now + 2)) w.store (payloadText payload "instance_id")
              true with
          | none =>
              rw [hrecord] at hrecorded
              obtain ⟨_, now, hworld⟩ := hrecorded
              exact ⟨now, hworld, rfl⟩
          | some record =>
              rw [hrecord] at hrecorded
              refine ⟨rfl, ?_⟩
              rcases hrecorded with ⟨hfails, now, hworld⟩ | ⟨hsucceeds, hstatus, hworld⟩
              · exact ⟨now, .inl hworld⟩
              · exact ⟨w.now + 3 + killTicks deps (env (w.now + 3)) record + 2,
                  .inr ⟨hsucceeds, hworld⟩⟩

theorem reachable_stop (h : AllReachable env s) {payload : Json}
    (hkeeps : payloadText payload "backend" = "ollama" ∨ StopReaches deps env s payload) :
    AllReachable env (taskStep deps env s (.stop payload)) := by
  have hnow : s.world.now ≤ (run env (handleStop deps payload) s.world).2.now := now_le_run _ _
  intro o ho hruns
  by_cases hollama : payloadText payload "backend" = "ollama"
  · have hworld : (taskStep deps env s (.stop payload)).world = s.world.tick := by
      change (run env (handleStop deps payload) s.world).2 = _
      rw [handleStop, if_pos hollama]
      rfl
    rw [hworld] at hruns ⊢
    exact h o ho (hruns.earlier (Nat.le_succ _))
  · have hstop : handleStop deps payload = stopModelInstanceWithStore deps payload true :=
      if_neg hollama
    have hkeeps := hkeeps.resolve_left hollama
    have hroute := @stop_cases deps env payload s.world
    rw [← hstop] at hroute
    unfold StopReaches at hkeeps
    dsimp only at hkeeps hroute
    change o.inRegistry (run env (handleStop deps payload) s.world).2
      ∨ o.inStore (run env (handleStop deps payload) s.world).2
    change o.stillRuns env (run env (handleStop deps payload) s.world).2.now at hruns
    generalize (run env (handleStop deps payload) s.world).2 = w' at hnow hruns hkeeps hroute ⊢
    generalize payloadText payload "instance_id" = instanceId at hkeeps hroute
    have hunregistered : s.world.registry instanceId = none → ∀ o, StillRunning env s instanceId
        w'.now o → o.inRegistry s.world ∨ o.inStore s.world → o.inStore s.world := by
      rintro hnone o ⟨_, hid, _⟩ (⟨handle, hhandle, _⟩ | hrecorded)
      · rw [hid, hnone] at hhandle
        cases hhandle
      · exact hrecorded
    cases hway : stopRoute env s.world instanceId true with
    | refused =>
        rw [hway] at hroute
        obtain ⟨now, rfl, hnone⟩ := hroute
        refine h.of_frame _ instanceId hnow (fun other hne => update_of_ne hne) (fun _ hheld _ => hheld)
          (fun o hstill hbefore => ?_) ho hruns
        exact .inr (hunregistered hnone o hstill hbefore)
    | docker record =>
        rw [hway] at hroute hkeeps
        obtain ⟨now, rfl | ⟨hsucceeds, rfl⟩⟩ := hroute
        · exact h.of_frame _ instanceId hnow (fun _ _ => rfl) (fun _ hheld _ => hheld)
            (fun _ _ hbefore => hbefore) ho hruns
        · refine h.of_frame _ instanceId hnow (fun _ _ => rfl)
            (fun record hheld hne => mem_without.mpr ⟨hheld, hne⟩) (fun o hstill _ => ?_) ho hruns
          exact .inl (hkeeps.resolve_left hsucceeds o hstill)
    | child handle =>
        rw [hway] at hroute hkeeps
        obtain ⟨hhandle, now, ⟨hfails, rfl⟩ | ⟨hsucceeds, rfl⟩⟩ := hroute
        · exact h.of_frame _ instanceId hnow (fun other hne => update_of_ne hne)
            (fun _ hheld _ => hheld) (fun o hstill _ => .inr (hkeeps o hstill).1) ho hruns
        · refine h.of_frame _ instanceId hnow (fun other hne => update_of_ne hne)
            (fun record hheld hne => mem_without.mpr ⟨hheld, hne⟩) (fun o hstill _ => ?_) ho hruns
          exact absurd (hkeeps o hstill).2 hsucceeds
    | recorded record =>
        rw [hway] at hroute hkeeps
        obtain ⟨hnone, now, rfl | ⟨hsucceeds, rfl⟩⟩ := hroute
        · refine h.of_frame _ instanceId hnow (fun other hne => update_of_ne hne)
            (fun _ hheld _ => hheld) (fun o hstill hbefore => ?_) ho hruns
          exact .inr (hunregistered hnone o hstill hbefore)
        · refine h.of_frame _ instanceId hnow (fun other hne => update_of_ne hne)
            (fun record hheld hne => mem_without.mpr ⟨hheld, hne⟩) (fun o hstill _ => ?_) ho hruns
          exact absurd hstill (hkeeps.resolve_left hsucceeds o)

/-- What a round of a monitor can do. -/
theorem monitor_cases (instanceId : String) (w : World) :
    (Op.monitor instanceId).exec env w = ((), w.tick) ∨
      ∃ handle, w.registry instanceId = some handle ∧
        (env w.now).answer (.tryWait handle.child) ≠ Except.ok none ∧
        (Op.monitor instanceId).exec env w
          = ((), { w.tick with registry := Function.update w.registry instanceId none }) := by
  simp only [Op.exec]
  split
  · exact .inl rfl
  · split
    · exact .inl rfl
    · rename_i handle hhandle _ hexited
      exact .inr ⟨handle, hhandle, hexited, rfl⟩

theorem reachable_monitor (h : AllReachable env s) {instanceId : String}
    (hkeeps : KeepsReachable deps env s (.monitor instanceId)) :
    AllReachable env (taskStep deps env s (.monitor instanceId)) := by
  intro o ho hruns
  have hnow : (taskStep deps env s (.monitor instanceId)).world.now = s.world.now + 1 := exec_now ..
  rw [hnow] at hruns
  change o.inRegistry ((Op.monitor instanceId).exec env s.world).2
    ∨ o.inStore ((Op.monitor instanceId).exec env s.world).2
  rcases @monitor_cases env instanceId s.world with hidle | ⟨handle, hhandle, hexited, hrun⟩
  · rw [hidle]
    exact h o ho (hruns.earlier (Nat.le_succ _))
  · rw [hrun]
    refine h.of_frame { s.world.tick with
      registry := Function.update s.world.registry instanceId none } instanceId
      (Nat.le_succ _) (fun other hne => update_of_ne hne) (fun _ hheld _ => hheld)
      (fun o hstill _ => ?_) ho hruns
    exact .inr (hkeeps handle hhandle hexited o hstill)

theorem reachable_step (hprints : PrintsContainerId env) (h : AllReachable env s) {event : TaskEvent}
    (hkeeps : KeepsReachable deps env s event) : AllReachable env (taskStep deps env s event) := by
  cases event with
  | start payload => exact reachable_start hprints h hkeeps
  | stop payload => exact reachable_stop h hkeeps
  | monitor instanceId => exact reachable_monitor h hkeeps
  | restart =>
      intro o ho hruns
      exact .inr (hkeeps o ho hruns)
  | pause =>
      intro o ho hruns
      exact h o ho (hruns.earlier (Nat.le_succ _))

end Keep

def portPayload (port : Int) : Json :=
  .obj [("instance_id", .str "i"), ("params", .obj [("port", .int port)])]

/-- The first child has the process id 7 and the next one 8. Both run on once they have been spawned, and
their endpoints answer. -/
def serving (now : Nat) : Moment where
  processes pid :=
    if pid = 7 ∧ 1 ≤ now then some 1 else if pid = 8 ∧ 12 ≤ now then some 2 else none
  containers _ := false
  nameHolder _ := none
  created _ := none
  fileError _ := none
  answer
    | .prepare _ => .ok { baseUrl := "http://127.0.0.1:8081", command := "llama-server" }
    | .spawn _ =>
        .ok (if now < 11 then { processId := 7, startTime := 1 }
          else { processId := 8, startTime := 2 })
    | .tryWait _ => .ok none
    | .endpointReady .. => true
    | other => other.failed

theorem serving_prints : PrintsContainerId serving := by
  intro t args status stdout stderr containerId hanswer
  cases hanswer

end LightAI.Agent
