import LightAI.Agent.DockerBackend
import LightAI.Server.Rows

/-!
# The managed-instance store and the checks of its records

Every update of the store reads the whole file and writes the whole file. A check answers yes or no:
that a process cannot be found and that nothing could be found out about it are the same answer.
-/

namespace LightAI.Agent

open Server (ManagedInstanceReport)

/-! ### Processes -/

/-- The start time in `/proc/{pid}/stat`, which follows the name of the command in parentheses. -/
def parseLinuxStatStartTime (stat : String) : Option Nat := do
  let afterComm ← Text.afterLast ") " stat
  let value ← (Text.splitWhitespace afterComm)[19]?
  Text.parseU64 value

def processStartTime (pid : Int) : Async (Option Nat) := do
  let stat ← await (.readStat pid)
  pure (Option.bind stat parseLinuxStatStartTime)

def platformKilled : CommandOutcome → Except String Unit
  | .exited true .. => .ok ()
  | .exited false status _ _ =>
      .error ("Failed to stop managed process: kill exit status " ++ status)
  | .spawnFailed error => .error ("Failed to stop managed process: " ++ error)
  | .timedOut => .error "Failed to stop managed process"

def platformKillProcess (pid : Int) : Async (Except String Unit) := do
  let outcome ← await (.kill pid)
  pure (platformKilled outcome)

def processCheck (record : ManagedProcessRecord) : Option Nat → ProcessCheck
  | none =>
      { isRunning := false
        message := "Managed process not found; may have exited abnormally" }
  | some currentStartTime =>
      if record.processStartTime.any (currentStartTime ≠ ·) then
        { isRunning := false
          message := "PID reused by another process; cannot confirm as platform managed " ++
            "instance; management stopped" }
      else
        { isRunning := true
          message := "Agent restarted and recovered managed process: still running" }

def checkRecord (deps : External) (record : ManagedProcessRecord) : Async ProcessCheck :=
  if record.isDocker then checkDockerRecord deps record
  else do
    let currentStartTime ← processStartTime record.processId
    pure (processCheck record currentStartTime)

def killManaged (deps : External) (record : ManagedProcessRecord) : Async (Except String Unit) :=
  if record.isDocker then stopDockerContainer record
  else do
    let check ← checkRecord deps record
    if check.isRunning then platformKillProcess record.processId
    else pure (.error check.message)

/-! ### The store -/

def load : Async (Except String (List ManagedProcessRecord)) := perform .readStore

def save (records : List ManagedProcessRecord) : Async (Except String Unit) :=
  perform (.writeStore records)

/-- Loads the records, changes them and saves them. -/
def modify (f : List ManagedProcessRecord → List ManagedProcessRecord) : Async (Except String Unit) := do
  let records ← load
  match records with
  | .error error => pure (.error error)
  | .ok records => save (f records)

def without (instanceId : String) (records : List ManagedProcessRecord) :
    List ManagedProcessRecord :=
  records.filter (·.instanceId ≠ instanceId)

theorem mem_without {instanceId : String} {records : List ManagedProcessRecord}
    {record : ManagedProcessRecord} :
    record ∈ without instanceId records ↔ record ∈ records ∧ record.instanceId ≠ instanceId := by
  simp [without]

def upsert (record : ManagedProcessRecord) : Async (Except String Unit) :=
  modify fun records => without record.instanceId records ++ [record]

def remove (instanceId : String) : Async (Except String Unit) := modify (without instanceId)

def find (instanceId : String) : Async (Except String (Option ManagedProcessRecord)) := do
  let records ← load
  pure (records.map (·.find? (·.instanceId = instanceId)))

/-! ### Reports -/

def report (record : ManagedProcessRecord) (check : ProcessCheck) : ManagedInstanceReport :=
  { instanceId := record.instanceId
    status := if check.isRunning then "running" else "failed"
    message := check.message
    processId := some record.processId
    processRef := some record.instanceId
    baseUrl := record.baseUrl
    endpointUrl := record.endpointUrl
    command := record.command
    logPath := record.logPath }

/-- The checks of the records, one after the other. -/
def checkRecords (deps : External) :
    List ManagedProcessRecord → Async (List (ManagedProcessRecord × ProcessCheck))
  | [] => pure []
  | record :: records => do
      let check ← checkRecord deps record
      let checks ← checkRecords deps records
      pure ((record, check) :: checks)

def reports (deps : External) : Async (List ManagedInstanceReport) := do
  let records ← load
  match records with
  | .error _ => pure []
  | .ok records => do
      let checks ← checkRecords deps records
      let _ ← save ((checks.filter (·.2.isRunning)).map Prod.fst)
      pure (checks.map fun entry => report entry.1 entry.2)

/-! ### What loading and saving do -/

section Store

variable {env : Nat → Moment} {w : World}

theorem run_load_of_error {error : String} (h : (env w.now).fileError .readStore = some error) :
    run env load w = (.error error, w.tick) := by
  change Op.exec env .readStore w = (.error error, w.tick)
  simp only [Op.exec, h]

theorem run_load_of_readable (h : (env w.now).fileError .readStore = none) :
    run env load w = (w.store.loaded, w.tick) := by
  change Op.exec env .readStore w = (w.store.loaded, w.tick)
  simp only [Op.exec, h]

theorem run_save_of_error {error : String} (h : (env w.now).fileError .writeStore = some error)
    (records : List ManagedProcessRecord) :
    run env (save records) w = (.error error, w.tick) := by
  change Op.exec env (.writeStore records) w = (.error error, w.tick)
  simp only [Op.exec, h]

theorem run_save_of_writable (h : (env w.now).fileError .writeStore = none)
    (records : List ManagedProcessRecord) :
    run env (save records) w = (.ok (), { w.tick with store := .records records }) := by
  change Op.exec env (.writeStore records) w = (.ok (), { w.tick with store := .records records })
  simp only [Op.exec, h]

/-- An update of the store fails if the file cannot be read, is not a list of records, or cannot be
written. -/
def UpdateFails (env : Nat → Moment) (now : Nat) (file : StoreFile) : Prop :=
  (env now).fileError .readStore ≠ none ∨ (∃ error, file = .unparsable error) ∨
    (env (now + 1)).fileError .writeStore ≠ none

/-- An update does all of its work, or none. -/
theorem run_modify (f : List ManagedProcessRecord → List ManagedProcessRecord) :
    (UpdateFails env w.now w.store ∧
        ∃ error now, run env (modify f) w = (.error error, { w with now })) ∨
      (¬ UpdateFails env w.now w.store ∧
        run env (modify f) w
          = (.ok (), { w with store := .records (f w.store.held), now := w.now + 2 })) := by
  cases hread : (env w.now).fileError .readStore with
  | some error =>
      left
      refine ⟨.inl (by simp [hread]), error, w.now + 1, ?_⟩
      rw [modify, run_bind, run_load_of_error hread]
      rfl
  | none =>
      cases hloaded : w.store.loaded with
      | error error =>
          left
          have hparse : ∃ error, w.store = .unparsable error := by
            cases hstore : w.store with
            | missing => rw [hstore] at hloaded; exact nomatch hloaded
            | unparsable error' => exact ⟨error', rfl⟩
            | records held => rw [hstore] at hloaded; exact nomatch hloaded
          refine ⟨.inr (.inl hparse), error, w.now + 1, ?_⟩
          rw [modify, run_bind, run_load_of_readable hread, hloaded]
          rfl
      | ok records =>
          have hstep : run env (modify f) w = run env (save (f records)) w.tick := by
            rw [modify, run_bind, run_load_of_readable hread, hloaded]
          have hparse : ¬ ∃ error, w.store = .unparsable error := by
            rintro ⟨error, hstore⟩
            rw [hstore] at hloaded
            exact nomatch hloaded
          rw [hstep, StoreFile.held_of_loaded hloaded]
          cases hwrite : (env (w.now + 1)).fileError .writeStore with
          | some error =>
              left
              refine ⟨.inr (.inr (by simp [hwrite])), error, w.now + 2, ?_⟩
              rw [run_save_of_error (w := w.tick) hwrite]
              rfl
          | none =>
              right
              refine ⟨?_, ?_⟩
              · rintro (hbad | hbad | hbad)
                · exact hbad hread
                · exact hparse hbad
                · exact hbad hwrite
              · rw [run_save_of_writable (w := w.tick) hwrite]
                rfl

theorem run_find_of_readable (h : (env w.now).fileError .readStore = none) (instanceId : String) :
    run env (find instanceId) w
      = (w.store.loaded.map (·.find? (·.instanceId = instanceId)), w.tick) := by
  rw [find, run_bind, run_load_of_readable h]
  rfl

theorem run_find_of_error {error : String} (h : (env w.now).fileError .readStore = some error)
    (instanceId : String) : run env (find instanceId) w = (.error error, w.tick) := by
  rw [find, run_bind, run_load_of_error h]
  rfl

end Store

end LightAI.Agent
