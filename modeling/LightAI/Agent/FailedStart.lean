import LightAI.Agent.HonestStop

/-!
# What a failed start leaves running

A start can fail after it has created a process or a container. At some of these exits it has seen the
process end, or has killed it; at the others it only returns.
-/

namespace LightAI.Agent

/-- A start that does not answer `running` leaves nothing running of what it has created. -/
def LeavesNothingRunning (deps : External) (env : Nat → Moment) (payload : Json) (store : Bool)
    (w : World) : Prop :=
  let program := startModelInstanceWithStore deps payload store
  let outcome := run env program w
  outcome.1.instanceStatus ≠ "running" →
    ∀ created ∈ createdBy env program w, (env outcome.2.now).has created = false

/-- What is documented of the handle of a child: an exit status is there only once the process has ended,
and a kill that succeeds has waited for its end. A process that has ended does not run again. -/
structure ChildApi (env : Nat → Moment) : Prop where
  exited {t t' : Nat} {child : Child} {status : String}
    (hanswer : (env t).answer (.tryWait child) = .ok (some status)) (hlater : t ≤ t') :
    (env t').runsChild child = false
  killed {t t' : Nat} {child : Child} (hanswer : (env t).answer (.killChild child) = .ok ())
    (hlater : t < t') : (env t').runsChild child = false

/-! ### The exits that end nothing

Each of these says that a part of a start that begins at the moment `t` returns at the moment `t'`
without having ended what has been created. -/

/-- A failed kill; the output of the child is read after it. -/
def KillFails (env : Nat → Moment) (child : Child) (t t' : Nat) : Prop :=
  (∃ error, (env t).answer (.killChild child) = Except.error error) ∧ t' = t + 2

/-- How many moments an update of the store takes. -/
def updateTicks (env : Nat → Moment) (t : Nat) (file : StoreFile) : Nat :=
  match (env t).fileError .readStore, file with
  | none, .unparsable _ => 1
  | none, _ => 2
  | some _, _ => 1

namespace StartingProcess

variable (deps : External) (env : Nat → Moment) (p : StartingProcess) (store : Bool)
  (file : StoreFile) (t t' : Nat)

def WriteGivesUp : Prop :=
  store = true ∧ UpdateFails env (t + 2) file ∧
    KillFails env p.child (t + 2 + updateTicks env (t + 2) file) t'

def VerifyGivesUp : Prop :=
  match (env t).answer (.tryWait p.child) with
  | .ok none => p.WriteGivesUp env store file (t + 1) t'
  | .ok (some _) => False
  | .error _ => KillFails env p.child (t + 1) t'

/-- Whether the service is found to be ready at a moment. -/
def readyAt (m : Moment) : Bool :=
  if isCustomScript p.payload && !probePathsSet deps p.payload then
    match m.answer (.tryWait p.child) with
    | .ok none => true
    | _ => false
  else m.answer (.endpointReady p.plan p.payload)

def ReadyGivesUp : Prop :=
  if p.readyAt deps (env t) then p.VerifyGivesUp env store file (t + 1) t'
  else KillFails env p.child (t + 1) t'

/-- The first look at the child may fail: then nothing kills it. -/
def AwaitGivesUp : Prop :=
  match (env t).answer (.tryWait p.child) with
  | .ok none => p.ReadyGivesUp deps env store file (t + 1) t'
  | .ok (some _) => False
  | .error _ => t' = t + 2

/-- The log directory may be unavailable: then nothing kills the child. -/
def OpenGivesUp : Prop :=
  match ((p.payload.getStr "log_dir").map Text.trim).filter (· ≠ "") with
  | none => p.AwaitGivesUp deps env store file t t'
  | some logDir =>
      match (env t).answer (.controlledLogPath logDir p.instanceId) with
      | .ok _ => p.AwaitGivesUp deps env store file (t + 1) t'
      | .error _ => t' = t + 1

end StartingProcess

section GivesUp

variable (deps : External) (env : Nat → Moment) (payload : Json) (store : Bool) (w : World)
  (created : Created) (t' : Nat)

def LocalGivesUp (instanceId : String) : Prop :=
  match (env w.now).answer (.prepare payload) with
  | .error _ => False
  | .ok plan =>
      match (env (w.now + 1)).answer (.spawn plan) with
      | .error _ => False
      | .ok child =>
          let startTime := Option.bind ((env (w.now + 2)).answer (.readStat child.processId))
            parseLinuxStatStartTime
          created = .child child ∧
            StartingProcess.OpenGivesUp deps env { instanceId, payload, plan, child, startTime }
              store w.store (w.now + 3) t'

def CommandOutcome.succeeds : CommandOutcome → Bool
  | .exited success .. => success
  | _ => false

/-- `docker run` has created a container and has not succeeded, or the record of the container cannot be
written: nothing removes the container. -/
def DockerGivesUp : Prop :=
  let dockerPayload := resolveDockerPayload deps payload
  match buildDockerRunArgs dockerPayload with
  | .error _ => False
  | .ok dockerArgs =>
      let args := dockerArgs ++ buildVllmArgs deps dockerPayload
      match (env w.now).created args with
      | none => False
      | some containerId =>
          created = .container containerId ∧
            if ((env w.now).answer (.dockerRun args)).succeeds then
              store = true ∧ UpdateFails env (w.now + 2) w.store ∧
                t' = w.now + 2 + updateTicks env (w.now + 2) w.store
            else t' = w.now + 1

/-- Whether a daemon answers within a number of rounds, and when it is known. -/
def daemonReady (env : Nat → Moment) (baseUrl : String) : Nat → Nat → Bool × Nat
  | 0, t => (false, t)
  | rounds + 1, t =>
      if (env t).answer (.apiTagsReachable baseUrl) then (true, t + 1)
      else daemonReady env baseUrl rounds (t + 1)

/-- The daemon has been started for an instance whose model it does not have or cannot load; or it was
too slow and the kill has failed. -/
def DaemonGivesUp (start : OllamaStart) (child : Child) (t : Nat) : Prop :=
  match daemonReady env start.cfg.apiBase ((env t).answer .daemonRounds) (t + 1) with
  | (true, ready) =>
      match (env (ready + 1)).answer (.listModels start.cfg.apiBase) with
      | .error _ => t' = ready + 2
      | .ok models =>
          if start.model ∈ models then
            (∃ error, (env (ready + 2)).answer
              (.warmupModel start.cfg.apiBase start.model start.keepAlive) = Except.error error) ∧
              t' = ready + 3
          else t' = ready + 2
  | (false, late) => KillFails env child late t'

/-- The daemon of the registry that is found alive, and when it is known. -/
def liveAt (env : Nat → Moment) (w : World) (runtimeEnvId : String) : Option DaemonHandle × Nat :=
  match w.daemons runtimeEnvId with
  | none => (none, w.now + 1)
  | some handle =>
      match (env (w.now + 1)).answer (.tryWait handle.child) with
      | .ok none => (some handle, w.now + 2)
      | _ => (none, w.now + 2)

def OllamaGivesUp : Prop :=
  let start := OllamaStart.fromPayload deps payload
  if Text.isBlank start.model then False
  else if (env w.now).answer (.apiTagsReachable start.cfg.apiBase) then False
  else match liveAt env w.tick start.runtimeEnvId with
    | (some _, _) => False
    | (none, t) =>
        match (env (t + 1)).answer (.daemonLogPath start.logDir start.runtimeEnvId) with
        | .error _ => False
        | .ok _ =>
            match (env (t + 2)).answer (.spawnDaemon start.binaryPath start.cfg.env) with
            | .error _ => False
            | .ok child => created = .child child ∧ DaemonGivesUp env t' start child (t + 3)

/-- A start returns at the moment `t'` without having ended what it has created. -/
def StartGivesUp : Prop :=
  if payloadText payload "deploy_type" = "docker" then
    DockerGivesUp deps env payload store w created t'
  else if payloadText payload "backend" = "ollama" then OllamaGivesUp deps env payload w created t'
  else LocalGivesUp deps env payload store w created t' (payloadText payload "instance_id")

end GivesUp

theorem run_modify_now {env : Nat → Moment} {w : World}
    (f : List ManagedProcessRecord → List ManagedProcessRecord) :
    (run env (modify f) w).2.now = w.now + updateTicks env w.now w.store := by
  unfold updateTicks
  cases hread : (env w.now).fileError .readStore with
  | some error =>
      rw [modify, run_bind, run_load_of_error hread]
      rfl
  | none =>
      rw [modify, run_bind, run_load_of_readable hread]
      cases w.store with
      | unparsable error => rfl
      | missing => exact exec_now _ _
      | records held => exact exec_now _ _

/-! ### A part of a start and its exits -/

/-- A part of a start that fails returns at one of the exits `gives`, or after what was created has
ended; and at none of these exits does it answer `running`. -/
structure Accounted (env : Nat → Moment) (created : Created) (gives : Nat → Prop)
    (outcome : ModelInstanceTaskResult × World) : Prop where
  failed {t' : Nat} (hgives : gives t') :
    outcome.1.instanceStatus ≠ "running" ∧ outcome.2.now = t'
  ended (hfailed : outcome.1.instanceStatus ≠ "running") :
    gives outcome.2.now ∨ (env outcome.2.now).has created = false

namespace Accounted

variable {env : Nat → Moment} {created : Created} {gives : Nat → Prop}
  {outcome : ModelInstanceTaskResult × World}

theorem of_running (hstatus : outcome.1.instanceStatus = "running") (hgives : ∀ t', ¬ gives t') :
    Accounted env created gives outcome where
  failed h := absurd h (hgives _)
  ended hfailed := absurd hstatus hfailed

theorem of_returns {t : Nat} (hstatus : outcome.1.instanceStatus = "failed")
    (hnow : outcome.2.now = t) : Accounted env created (fun t' => t' = t) outcome where
  failed h := by
    rw [hstatus]
    exact ⟨by decide, hnow.trans h.symm⟩
  ended _ := .inl hnow

theorem of_ended (hended : (env outcome.2.now).has created = false) (hgives : ∀ t', ¬ gives t') :
    Accounted env created gives outcome where
  failed h := absurd h (hgives _)
  ended _ := .inr hended

theorem of_iff {gives' : Nat → Prop} (h : Accounted env created gives outcome)
    (hiff : ∀ t', gives' t' ↔ gives t') : Accounted env created gives' outcome where
  failed hgives := h.failed ((hiff _).mp hgives)
  ended hfailed := (h.ended hfailed).imp_left (hiff _).mpr

end Accounted

section Phases

variable (deps : External) {env : Nat → Moment} (hapi : ChildApi env)

include hapi

/-- A kill, a look at the output, and a failure. -/
theorem accounted_killed (child : Child) (output : Call)
    (message : output.Answer → ModelInstanceTaskResult)
    (hmessage : ∀ answer, (message answer).instanceStatus = "failed") (w : World) :
    Accounted env (.child child) (KillFails env child w.now)
      (run env (do
        let _ ← await (.killChild child)
        let answer ← await output
        pure (message answer)) w) := by
  have hrun : run env (do
        let _ ← await (.killChild child)
        let answer ← await output
        pure (message answer)) w
      = (message ((env (w.now + 1)).answer output), w.tick.tick) := rfl
  rw [hrun]
  constructor
  · rintro t' ⟨-, rfl⟩
    refine ⟨?_, rfl⟩
    rw [hmessage]
    decide
  · intro _
    cases hanswer : (env w.now).answer (.killChild child) with
    | error error => exact .inl ⟨⟨error, hanswer⟩, rfl⟩
    | ok value =>
        have hlater : w.now < w.now + 2 := by omega
        exact .inr (hapi.killed hanswer hlater)

namespace StartingProcess

variable (p : StartingProcess) (store : Bool) (logPath : Option String) (w : World)

theorem accounted_writeRecord :
    Accounted env (.child p.child) (p.WriteGivesUp env store w.store w.now)
      (run env (p.writeRecord store logPath) w) := by
  cases store with
  | false => exact .of_running rfl fun t' h => Bool.noConfusion h.1
  | true =>
      rw [writeRecord, run_bind, run_await]
      simp only [if_true]
      rw [run_bind, run_await, run_bind]
      dsimp only
      generalize p.record logPath _ = record
      have hnow := @run_modify_now env w.tick.tick
        fun records => without record.instanceId records ++ [record]
      rcases @run_modify env w.tick.tick
          fun records => without record.instanceId records ++ [record] with
        ⟨hfails, error, now, hrun⟩ | ⟨hsucceeds, hrun⟩
      · rw [hrun] at hnow
        rw [upsert, hrun]
        have hkilled := accounted_killed hapi p.child (.readLog p.child)
          (p.failure ("failed to write managed process record; instance stopped: " ++ error))
          (fun _ => rfl) { w.tick.tick with now }
        refine hkilled.of_iff fun t' => ?_
        constructor
        · rintro ⟨-, -, hkill⟩
          exact hnow ▸ hkill
        · intro hkill
          exact ⟨rfl, hfails, hnow ▸ hkill⟩
      · rw [upsert, hrun]
        exact .of_running rfl fun t' h => hsucceeds h.2.1

theorem accounted_verify :
    Accounted env (.child p.child) (p.VerifyGivesUp env store w.store w.now)
      (run env (p.verify store logPath) w) := by
  rw [verify, run_bind, run_await]
  unfold VerifyGivesUp
  dsimp only
  cases hanswer : (env w.now).answer (.tryWait p.child) with
  | error error => exact accounted_killed hapi p.child (.readLog p.child) _ (fun _ => rfl) w.tick
  | ok exit =>
      cases exit with
      | none => exact p.accounted_writeRecord hapi store logPath w.tick
      | some status =>
          have hlater : w.now ≤ w.now + 2 := by omega
          exact .of_ended (hapi.exited hanswer hlater) fun _ h => h

omit hapi in
theorem run_serviceReady :
    run env (p.serviceReady deps) w = (p.readyAt deps (env w.now), w.tick) := by
  unfold serviceReady readyAt
  split
  · rw [run_bind, run_await]
    dsimp only
    cases (env w.now).answer (.tryWait p.child) with
    | error error => rfl
    | ok exit =>
        cases exit with
        | none => rfl
        | some status => rfl
  · rfl

theorem accounted_awaitReady :
    Accounted env (.child p.child) (p.ReadyGivesUp deps env store w.store w.now)
      (run env (p.awaitReady deps store logPath) w) := by
  rw [awaitReady, run_bind, p.run_serviceReady]
  unfold ReadyGivesUp
  dsimp only
  cases p.readyAt deps (env w.now) with
  | true => exact p.accounted_verify hapi store logPath w.tick
  | false => exact accounted_killed hapi p.child (.readLog p.child) _ (fun _ => rfl) w.tick

theorem accounted_awaitStart :
    Accounted env (.child p.child) (p.AwaitGivesUp deps env store w.store w.now)
      (run env (p.awaitStart deps store logPath) w) := by
  rw [awaitStart, run_bind, run_await]
  unfold AwaitGivesUp
  dsimp only
  cases hanswer : (env w.now).answer (.tryWait p.child) with
  | error error => exact .of_returns rfl rfl
  | ok exit =>
      cases exit with
      | none => exact p.accounted_awaitReady deps hapi store logPath w.tick
      | some status =>
          have hlater : w.now ≤ w.now + 2 := by omega
          exact .of_ended (hapi.exited hanswer hlater) fun _ h => h

theorem accounted_openLog :
    Accounted env (.child p.child) (p.OpenGivesUp deps env store w.store w.now)
      (run env (p.openLog deps store) w) := by
  unfold openLog OpenGivesUp
  cases ((p.payload.getStr "log_dir").map Text.trim).filter (· ≠ "") with
  | none => exact p.accounted_awaitStart deps hapi store none w
  | some logDir =>
      dsimp only
      rw [run_bind, run_await]
      dsimp only
      cases (env w.now).answer (.controlledLogPath logDir p.instanceId) with
      | ok path => exact p.accounted_awaitStart deps hapi store (some path) w.tick
      | error message => exact .of_returns rfl rfl

end StartingProcess

end Phases

/-! ### A whole start -/

/-- Of each thing that a start has created it is known how the start leaves it. -/
structure AllAccounted (env : Nat → Moment) (created : List Created) (gives : Created → Nat → Prop)
    (outcome : ModelInstanceTaskResult × World) : Prop where
  mem {c : Created} {t' : Nat} (hgives : gives c t') : c ∈ created
  accounted {c : Created} (hcreated : c ∈ created) : Accounted env c (gives c) outcome

namespace AllAccounted

variable {env : Nat → Moment} {gives : Created → Nat → Prop}
  {outcome : ModelInstanceTaskResult × World}

theorem of_nothing (hgives : ∀ c t', ¬ gives c t') : AllAccounted env [] gives outcome where
  mem h := absurd h (hgives _ _)
  accounted h := absurd h List.not_mem_nil

theorem of_one {c : Created} {own : Nat → Prop} (hgives : ∀ c' t', gives c' t' ↔ c' = c ∧ own t')
    (haccounted : Accounted env c own outcome) : AllAccounted env [c] gives outcome where
  mem h := List.mem_singleton.mpr ((hgives _ _).mp h).1
  accounted hcreated := by
    obtain rfl := List.mem_singleton.mp hcreated
    constructor
    · intro t' h
      exact haccounted.failed ((hgives _ _).mp h).2
    · intro hfailed
      rcases haccounted.ended hfailed with hown | hended
      · exact .inl ((hgives _ _).mpr ⟨rfl, hown⟩)
      · exact .inr hended

theorem ends_iff {created : List Created} (h : AllAccounted env created gives outcome) :
    (outcome.1.instanceStatus ≠ "running" → ∀ c ∈ created, (env outcome.2.now).has c = false) ↔
      ∀ c t', gives c t' → (env t').has c = false := by
  constructor
  · intro hends c t' hgives
    have hcreated := h.mem hgives
    obtain ⟨hfailed, hnow⟩ := (h.accounted hcreated).failed hgives
    rw [← hnow]
    exact hends hfailed c hcreated
  · intro hends hfailed c hcreated
    rcases (h.accounted hcreated).ended hfailed with hgives | hended
    · exact hends c _ hgives
    · exact hended

end AllAccounted

section Start

variable (deps : External) {env : Nat → Moment} (payload : Json) (store : Bool) (w : World)

theorem all_accounted_local (hapi : ChildApi env) (instanceId : String) :
    AllAccounted env (createdBy env (startLocalInstance deps instanceId payload store) w)
      (fun created t' => LocalGivesUp deps env payload store w created t' instanceId)
      (run env (startLocalInstance deps instanceId payload store) w) := by
  unfold startLocalInstance LocalGivesUp
  rw [run_await_bind, createdBy_await_bind]
  cases (env w.now).answer (.prepare payload) with
  | error message => exact .of_nothing fun c t' h => h
  | ok plan =>
      dsimp only
      rw [run_await_bind, createdBy_await_bind]
      have hcreates : (Op.call (.spawn plan)).creates (env w.tick.now)
          = ((env (w.now + 1)).answer (.spawn plan)).toOption.map .child := rfl
      have hmoment : (env w.tick.now).answer (.spawn plan)
          = (env (w.now + 1)).answer (.spawn plan) := rfl
      rw [hcreates, hmoment]
      cases (env (w.now + 1)).answer (.spawn plan) with
      | error error => exact .of_nothing fun c t' h => h
      | ok child =>
          dsimp only
          let startTime := Option.bind ((env (w.now + 2)).answer (.readStat child.processId))
            parseLinuxStatStartTime
          have hstat : run env (processStartTime child.processId) w.tick.tick
              = (startTime, w.tick.tick.tick) := rfl
          rw [run_bind, createdBy_bind, createdBy_follows (follows_processStartTime child.processId),
            createdBy_follows (StartingProcess.follows_openLog deps _ store), hstat]
          refine .of_one (fun _ _ => Iff.rfl) ?_
          exact StartingProcess.accounted_openLog deps hapi
            { instanceId, payload, plan, child, startTime } store w.tick.tick.tick

omit deps payload store w in
theorem dockerRunResult_status (payload : DockerPayload) (summary : String)
    (outcome : CommandOutcome) :
    (dockerRunResult payload summary outcome).instanceStatus
      = if outcome.succeeds then "running" else "failed" := by
  cases outcome with
  | timedOut => rfl
  | spawnFailed error => rfl
  | exited success status stdout stderr =>
      cases success with
      | true => rfl
      | false => rfl

omit deps payload w in
theorem accounted_writeContainerRecord (created : Created) (instanceId containerName : String)
    {result : ModelInstanceTaskResult} (hresult : result.instanceStatus = "running") (w : World) :
    Accounted env created
      (fun t' => store = true ∧ UpdateFails env (w.now + 1) w.store ∧
        t' = w.now + 1 + updateTicks env (w.now + 1) w.store)
      (run env (writeContainerRecord instanceId containerName store result) w) := by
  unfold writeContainerRecord
  rw [run_await_bind]
  cases store with
  | false => exact .of_running hresult fun t' h => Bool.noConfusion h.1
  | true =>
      rw [if_pos rfl, run_bind]
      generalize createDockerManagedRecord _ _ _ _ _ _ = record
      have hnow := @run_modify_now env w.tick
        fun records => without record.instanceId records ++ [record]
      rcases @run_modify env w.tick
          fun records => without record.instanceId records ++ [record] with
        ⟨hfails, error, now, hrun⟩ | ⟨hsucceeds, hrun⟩
      · rw [hrun] at hnow
        rw [upsert, hrun]
        have hreturns : Accounted env created
            (fun t' => t' = w.now + 1 + updateTicks env (w.now + 1) w.store)
            (instanceFailureWithDetails ("failed to write Docker managed record: " ++ error) none
              (some (result.command.getD "")), { w.tick with now }) := .of_returns rfl hnow
        refine hreturns.of_iff fun t' => ?_
        constructor
        · rintro ⟨-, -, h⟩
          exact h
        · intro h
          exact ⟨rfl, hfails, h⟩
      · rw [upsert, hrun]
        exact .of_running hresult fun t' h => hsucceeds h.2.1

theorem all_accounted_docker (instanceId : String) :
    AllAccounted env (createdBy env (startDockerInstance deps instanceId payload store) w)
      (DockerGivesUp deps env payload store w)
      (run env (startDockerInstance deps instanceId payload store) w) := by
  unfold startDockerInstance DockerGivesUp
  dsimp only
  unfold startDockerContainer
  cases buildDockerRunArgs (resolveDockerPayload deps payload) with
  | error message => exact .of_nothing fun c t' h => h
  | ok dockerArgs =>
      dsimp only
      generalize dockerArgs ++ buildVllmArgs deps (resolveDockerPayload deps payload) = args
      generalize dockerCommandSummary deps _ dockerArgs _ = summary
      let rest (outcome : CommandOutcome) : Async ModelInstanceTaskResult :=
        let result := dockerRunResult (resolveDockerPayload deps payload) summary outcome
        if result.instanceStatus = "running" then
          writeContainerRecord instanceId
            (resolveDockerPayload deps payload).docker.containerName store result
        else pure result
      change AllAccounted env (createdBy env (await (.dockerRun args) >>= rest) w) _
        (run env (await (.dockerRun args) >>= rest) w)
      have hquiet : ∀ outcome, (rest outcome).Performs Quiet := by
        intro outcome
        dsimp only [rest]
        split
        · exact (follows_writeContainerRecord ..).mono fun _ => quiet_of_follows
        · trivial
      have hcreates : (Op.call (.dockerRun args)).creates (env w.now)
          = ((env w.now).created args).map .container := rfl
      rw [run_await_bind, createdBy_await_bind, createdBy_quiet (hquiet _), hcreates]
      cases (env w.now).created args with
      | none => exact .of_nothing fun c t' h => h
      | some containerId =>
          refine .of_one (fun _ _ => Iff.rfl) ?_
          have hstatus := dockerRunResult_status (resolveDockerPayload deps payload) summary
            ((env w.now).answer (.dockerRun args))
          dsimp only [rest]
          cases hsucceeds : ((env w.now).answer (.dockerRun args)).succeeds with
          | true =>
              rw [hsucceeds, if_pos rfl] at hstatus
              rw [if_pos hstatus]
              exact accounted_writeContainerRecord store _ instanceId _ hstatus w.tick
          | false =>
              rw [hsucceeds] at hstatus
              have hnot : (dockerRunResult (resolveDockerPayload deps payload) summary
                  ((env w.now).answer (.dockerRun args))).instanceStatus ≠ "running" := by
                rw [hstatus]
                decide
              rw [if_neg hnot]
              exact .of_returns hstatus rfl

/-! ### The daemon of an Ollama instance -/

omit deps payload store in
theorem run_awaitDaemon (baseUrl : String) (rounds : Nat) (w : World) :
    run env (awaitDaemon baseUrl rounds) w
      = ((daemonReady env baseUrl rounds w.now).1,
        { w with now := (daemonReady env baseUrl rounds w.now).2 }) := by
  induction rounds generalizing w with
  | zero => rfl
  | succ rounds ih =>
      rw [awaitDaemon, run_await_bind, daemonReady]
      cases (env w.now).answer (.apiTagsReachable baseUrl) with
      | true => rfl
      | false => exact ih w.tick

omit deps payload store in
theorem run_liveDaemon (runtimeEnvId : String) (w : World) :
    run env (liveDaemon runtimeEnvId) w
      = ((liveAt env w runtimeEnvId).1, { w with now := (liveAt env w runtimeEnvId).2 }) := by
  have hfound : run env (perform (.findDaemon runtimeEnvId)) w = (w.daemons runtimeEnvId, w.tick) :=
    rfl
  rw [liveDaemon, run_bind, hfound]
  unfold liveAt
  dsimp only
  cases w.daemons runtimeEnvId with
  | none => rfl
  | some handle =>
      dsimp only
      have hmoment : (env w.tick.now).answer (.tryWait handle.child)
          = (env (w.now + 1)).answer (.tryWait handle.child) := rfl
      rw [run_await_bind, hmoment]
      cases (env (w.now + 1)).answer (.tryWait handle.child) with
      | error error => rfl
      | ok exit =>
          cases exit with
          | none => rfl
          | some status => rfl

omit deps payload store in
theorem accounted_loadModel (created : Created) (start : OllamaStart) (logPath action : String)
    (w : World) :
    Accounted env created
      (fun t' => match (env w.now).answer (.listModels start.cfg.apiBase) with
        | .error _ => t' = w.now + 1
        | .ok models =>
            if start.model ∈ models then
              (∃ error, (env (w.now + 1)).answer
                (.warmupModel start.cfg.apiBase start.model start.keepAlive) = Except.error error) ∧
                t' = w.now + 2
            else t' = w.now + 1)
      (run env (loadModel start.runtimeEnvId start.model start.keepAlive
        { baseUrl := start.cfg.apiBase, logPath, action }) w) := by
  unfold loadModel
  rw [run_await_bind]
  dsimp only
  cases (env w.now).answer (.listModels start.cfg.apiBase) with
  | error error => exact .of_returns rfl rfl
  | ok models =>
      dsimp only
      by_cases hmodel : start.model ∈ models
      · have hmoment : (env w.tick.now).answer
            (.warmupModel start.cfg.apiBase start.model start.keepAlive)
            = (env (w.now + 1)).answer
                (.warmupModel start.cfg.apiBase start.model start.keepAlive) := rfl
        simp only [if_pos hmodel]
        rw [run_await_bind, hmoment]
        cases (env (w.now + 1)).answer
            (.warmupModel start.cfg.apiBase start.model start.keepAlive) with
        | error error =>
            have hreturns : Accounted env created (fun t' => t' = w.now + 2)
                (instanceFailureWithDetails ("ollama warmup failed: " ++ error) none
                  (some (loadCommand start.model
                    { baseUrl := start.cfg.apiBase, logPath, action }
                    ("warmup=POST /api/generate; warmup_error=" ++ error))),
                  w.tick.tick) := .of_returns rfl rfl
            refine hreturns.of_iff fun t' => ?_
            constructor
            · rintro ⟨-, h⟩
              exact h
            · intro h
              exact ⟨⟨error, rfl⟩, h⟩
        | ok text =>
            refine .of_running rfl fun t' h => ?_
            obtain ⟨⟨error, herror⟩, -⟩ := h
            cases herror
      · simp only [if_neg hmodel]
        exact .of_returns rfl rfl

omit deps payload store in
theorem accounted_adoptDaemon (hapi : ChildApi env) (start : OllamaStart) (logPath : String)
    (child : Child) (w : World) :
    Accounted env (.child child) (fun t' => DaemonGivesUp env t' start child w.now)
      (run env (adoptDaemon start.runtimeEnvId start.logDir start.cfg.apiBase logPath child
        >>= start.load) w) := by
  rw [run_bind, adoptDaemon, run_await_bind, run_bind, run_awaitDaemon]
  unfold DaemonGivesUp
  generalize hready : daemonReady env start.cfg.apiBase ((env w.now).answer .daemonRounds)
    (w.now + 1) = ready
  have hready' : daemonReady env start.cfg.apiBase ((env w.now).answer .daemonRounds) w.tick.now
      = ready := hready
  rw [hready']
  obtain ⟨answered, t⟩ := ready
  cases answered with
  | true =>
      exact accounted_loadModel (.child child) start logPath "started_ollama_serve"
        { w.tick with
          daemons := Function.update w.daemons start.runtimeEnvId (some { child, logPath })
          now := t + 1 }
  | false =>
      exact accounted_killed hapi child (.readDaemonLog start.runtimeEnvId start.logDir 4096)
        (fun tail => start.daemonFailure (daemonTooSlow tail)) (fun _ => rfl) { w.tick with now := t }

/-- Where a program creates nothing and no exit gives up anything, all is accounted for. -/
theorem all_accounted_quiet {program : Async ModelInstanceTaskResult} (hquiet : program.Performs Quiet)
    {gives : Created → Nat → Prop} (hgives : ∀ c t', ¬ gives c t') :
    AllAccounted env (createdBy env program w) gives (run env program w) := by
  rw [createdBy_quiet hquiet]
  exact .of_nothing hgives

omit deps payload store in
theorem all_accounted_launchDaemon (hapi : ChildApi env) (start : OllamaStart) :
    AllAccounted env
      (createdBy env
        (launchDaemon start.runtimeEnvId start.binaryPath start.logDir start.cfg >>= start.load) w)
      (fun created t' =>
        match (env w.now).answer (.daemonLogPath start.logDir start.runtimeEnvId) with
        | .error _ => False
        | .ok _ =>
            match (env (w.now + 1)).answer (.spawnDaemon start.binaryPath start.cfg.env) with
            | .error _ => False
            | .ok child =>
                created = .child child ∧ DaemonGivesUp env t' start child (w.now + 2))
      (run env
        (launchDaemon start.runtimeEnvId start.binaryPath start.logDir start.cfg >>= start.load)
        w) := by
  unfold launchDaemon
  rw [run_await_bind_bind, createdBy_await_bind_bind]
  cases (env w.now).answer (.daemonLogPath start.logDir start.runtimeEnvId) with
  | error error => exact .of_nothing fun c t' h => h
  | ok logPath =>
      dsimp only
      rw [run_await_bind_bind, createdBy_await_bind_bind]
      have hcreates : (Op.call (.spawnDaemon start.binaryPath start.cfg.env)).creates
          (env w.tick.now) = ((env (w.now + 1)).answer
            (.spawnDaemon start.binaryPath start.cfg.env)).toOption.map .child := rfl
      have hmoment : (env w.tick.now).answer (.spawnDaemon start.binaryPath start.cfg.env)
          = (env (w.now + 1)).answer (.spawnDaemon start.binaryPath start.cfg.env) := rfl
      rw [hcreates, hmoment]
      cases (env (w.now + 1)).answer (.spawnDaemon start.binaryPath start.cfg.env) with
      | error startErr =>
          exact all_accounted_quiet w.tick.tick
            (quiet_of_daemon ((quiet_daemon_daemonNotSpawned ..).bind (quiet_daemon_load start))) fun c t' h => h
      | ok child =>
          have hquiet := quiet_of_daemon ((quiet_daemon_adoptDaemon start.runtimeEnvId start.logDir
            start.cfg.apiBase logPath child).bind (quiet_daemon_load start))
          dsimp only
          rw [createdBy_quiet hquiet]
          refine .of_one (fun _ _ => Iff.rfl) ?_
          exact accounted_adoptDaemon hapi start logPath child w.tick.tick

theorem all_accounted_ollama (hapi : ChildApi env) :
    AllAccounted env (createdBy env (startOllamaInstance deps payload) w)
      (OllamaGivesUp deps env payload w) (run env (startOllamaInstance deps payload) w) := by
  unfold startOllamaInstance OllamaGivesUp
  generalize OllamaStart.fromPayload deps payload = start
  dsimp only
  by_cases hblank : Text.isBlank start.model = true
  · simp only [if_pos hblank]
    exact .of_nothing fun c t' h => h
  · simp only [if_neg hblank]
    unfold ensureDaemon
    rw [run_await_bind_bind, createdBy_await_bind_bind]
    cases (env w.now).answer (.apiTagsReachable start.cfg.apiBase) with
    | true =>
        refine all_accounted_quiet w.tick ?_ fun c t' h => h
        refine Program.Performs.bind ?_ fun ensured => quiet_of_daemon (quiet_daemon_load start ensured)
        exact (performs_await fun _ => rfl).bind fun _ => trivial
    | false =>
        simp only [Bool.false_eq_true, if_false]
        have hlive := @run_liveDaemon env start.runtimeEnvId w.tick
        rw [run_bind_bind, createdBy_quiet_bind_bind (quiet_of_daemon (quiet_daemon_liveDaemon _)), hlive]
        generalize liveAt env w.tick start.runtimeEnvId = live
        obtain ⟨handle, t⟩ := live
        cases handle with
        | some handle =>
            exact all_accounted_quiet { w.tick with now := t }
              (quiet_of_daemon (quiet_daemon_load start (.ok
                { baseUrl := start.cfg.apiBase
                  logPath := handle.logPath
                  action := "reused_existing_daemon" }))) fun c t' h => h
        | none =>
            let cleared : World :=
              { w.tick with
                daemons := Function.update w.daemons start.runtimeEnvId none
                now := t + 1 }
            exact all_accounted_launchDaemon cleared hapi start

/-! ### The theorem -/

end Start

/-! ### A log directory that is not available -/

def orphan : Child := { processId := 7, startTime := 1 }

/-- A child can be spawned and runs, but its log file cannot be opened. -/
def unlogged : Moment where
  processes pid := if pid = orphan.processId then some orphan.startTime else none
  containers _ := false
  nameHolder _ := none
  created _ := none
  fileError _ := none
  answer
    | .prepare _ => .ok { baseUrl := "http://127.0.0.1:8080", command := "llama-server" }
    | .spawn _ => .ok orphan
    | .tryWait _ => .ok none
    | other => other.failed

def loggedPayload : Json := .obj [("instance_id", .str "i"), ("log_dir", .str "logs")]

end LightAI.Agent
