import LightAI.Agent.Heartbeat
import LightAI.Server.GpuPresence

/-!
# Failed runs and the errors of a heartbeat

The server takes a device for missing only on the word of a heartbeat without errors, so a run that went
wrong should leave an error there. Some runs go wrong in a way that only their output tells, and not all of
these leave one.
-/

namespace LightAI.Collectors

open Agent (RegistryEntry)
open Heartbeats (heartbeatRequest enhanceCollectorErrors)
open Nodes (NodesDb HeartbeatRequest recordHeartbeat)

variable {sha256 : Bytes → String} {host : Host} {config : DirConfig} {registry : List RegistryEntry}
  {dir : CollectorDir} {record : Execution}

/-! ### Failed runs -/

/-- Whether an output of the script can be read. -/
def parses (host : Host) (script : Script) (stdout : String) : Prop :=
  match script with
  | .discover => ∃ discovery, parseDiscovery stdout = .ok discovery
  | .metrics => ∃ metrics, parseMetrics host.bytesOfMb stdout = .ok metrics

/-- The run did not start or did not end in time, or ended with another code than zero, or its output was
cut off, cannot be read, or says in its last `STATUS` row that something is wrong. -/
def Failed (host : Host) (maxOutputBytes : Nat) (record : Execution) : Prop :=
  match record.run with
  | none => True
  | some (.notSpawned _) => True
  | some .notWritten => True
  | some (.notAwaited _) => True
  | some (.exited code stdout _) =>
      code ≠ some 0 ∨ maxOutputBytes < stdout.utf8ByteSize ∨ ¬ parses host record.script stdout ∨
        lastStatus stdout = some "error" ∨ lastStatus stdout = some "not_available"

/-- The output that is read of a run that was in time and ended with zero. -/
def textOf (config : DirConfig) (record : Execution) : Option String :=
  match record.run with
  | some (.exited code stdout _) =>
      if code = some 0 then some (truncateBytes stdout config.maxOutputBytes) else none
  | _ => none

def headerOf (host : Host) (script : Script) (text : String) : Option Header :=
  match script with
  | .discover => (parseDiscovery text).toOption.map (·.header)
  | .metrics => (parseMetrics host.bytesOfMb text).toOption.map (·.header)

/-- The last `STATUS` row of the output, if the run gave one that can be read. -/
def statusOf (host : Host) (config : DirConfig) (record : Execution) : Option Header :=
  (textOf config record).bind (headerOf host record.script)

def CutOff (config : DirConfig) (record : Execution) : Prop :=
  ∃ code stdout stderr, record.run = some (.exited code stdout stderr) ∧
    config.maxOutputBytes < stdout.utf8ByteSize

/-- The run gives an error: nothing can be read of it, or the discovery says why it found nothing. -/
def LoudRun (host : Host) (config : DirConfig) (record : Execution) : Prop :=
  statusOf host config record = none ∨
    ∃ header, statusOf host config record = some header ∧ record.script = .discover ∧
      header.status = .notAvailable ∧ header.statusMessage ≠ none

/-- The run ended well and its output can be read, but the output was cut off or says that something is
wrong, and a discovery that is not available does not say why. -/
def SilentRun (host : Host) (config : DirConfig) (record : Execution) : Prop :=
  ∃ header, statusOf host config record = some header ∧
    (CutOff config record ∨ header.status = .error ∨
      (header.status = .notAvailable ∧ (record.script = .metrics ∨ header.statusMessage = none)))

theorem parse_eq_error {status : String} : CollectorStatus.parse status = some .error ↔ status = "error" := by
  constructor
  · intro hparse
    unfold CollectorStatus.parse at hparse
    split at hparse <;> simp_all
  · rintro rfl
    rfl

theorem parse_eq_notAvailable {status : String} :
    CollectorStatus.parse status = some .notAvailable ↔ status = "not_available" := by
  constructor
  · intro hparse
    unfold CollectorStatus.parse at hparse
    split at hparse <;> simp_all
  · rintro rfl
    rfl

theorem headerOf_eq_none {script : Script} {text : String} :
    headerOf host script text = none ↔ ¬ parses host script text := by
  cases script with
  | discover =>
      simp only [headerOf, parses]
      cases parseDiscovery text <;> simp [Except.toOption]
  | metrics =>
      simp only [headerOf, parses]
      cases parseMetrics host.bytesOfMb text <;> simp [Except.toOption]

/-- The status of an output is that of its last `STATUS` row. -/
theorem lastStatus_of_headerOf {script : Script} {text : String} {header : Header}
    (hheader : headerOf host script text = some header) :
    (lastStatus text).bind CollectorStatus.parse = some header.status := by
  cases script with
  | discover =>
      simp only [headerOf] at hheader
      cases hparse : parseDiscovery text with
      | error e =>
          rw [hparse] at hheader
          cases hheader
      | ok discovery =>
          rw [hparse] at hheader
          cases hheader
          exact status_parseOutput hparse
  | metrics =>
      simp only [headerOf] at hheader
      cases hparse : parseMetrics host.bytesOfMb text with
      | error e =>
          rw [hparse] at hheader
          cases hheader
      | ok metrics =>
          rw [hparse] at hheader
          cases hheader
          exact status_parseOutput hparse

/-- The last status is written in the one way that is read as `expected` if the output has that status. -/
theorem lastStatus_iff {text written : String} {status : CollectorStatus} (expected : CollectorStatus)
    (hlast : (lastStatus text).bind CollectorStatus.parse = some status)
    (hwritten : ∀ value, CollectorStatus.parse value = some expected ↔ value = written) :
    lastStatus text = some written ↔ status = expected := by
  cases hvalue : lastStatus text with
  | none =>
      rw [hvalue] at hlast
      cases hlast
  | some value =>
      rw [hvalue, Option.bind_some] at hlast
      constructor
      · intro hsame
        have hparse := (hwritten value).mpr (Option.some.inj hsame)
        rw [hlast] at hparse
        exact Option.some.inj hparse
      · intro hstatus
        rw [hstatus] at hlast
        rw [(hwritten value).mp hlast]

theorem truncateBytes_of_le {value : String} {maxBytes : Nat} (hfits : value.utf8ByteSize ≤ maxBytes) :
    truncateBytes value maxBytes = value := if_pos hfits

/-- Once the output has been read, all depends on whether it is whole and on its status. -/
theorem loud_or_silent_iff {header : Header} (hstatus : statusOf host config record = some header) :
    LoudRun host config record ∨ SilentRun host config record ↔
      CutOff config record ∨ header.status = .error ∨ header.status = .notAvailable := by
  constructor
  · rintro ((hnone | ⟨header', hsome, -, hunavailable, -⟩) |
      ⟨header', hsome, hcut | herror | ⟨hunavailable, -⟩⟩)
    · rw [hstatus] at hnone
      cases hnone
    · rw [hstatus] at hsome
      cases hsome
      exact Or.inr (Or.inr hunavailable)
    · exact Or.inl hcut
    · rw [hstatus] at hsome
      cases hsome
      exact Or.inr (Or.inl herror)
    · rw [hstatus] at hsome
      cases hsome
      exact Or.inr (Or.inr hunavailable)
  · rintro (hcut | herror | hunavailable)
    · exact Or.inr ⟨header, hstatus, Or.inl hcut⟩
    · exact Or.inr ⟨header, hstatus, Or.inr (Or.inl herror)⟩
    · cases hscript : record.script with
      | metrics => exact Or.inr ⟨header, hstatus, Or.inr (Or.inr ⟨hunavailable, Or.inl hscript⟩)⟩
      | discover =>
          by_cases hmessage : header.statusMessage = none
          · exact Or.inr ⟨header, hstatus, Or.inr (Or.inr ⟨hunavailable, Or.inr hmessage⟩)⟩
          · exact Or.inl (Or.inr ⟨header, hstatus, hscript, hunavailable, hmessage⟩)

theorem cutOff_iff {code : Option Int} {stdout stderr : String}
    (hrun : record.run = some (.exited code stdout stderr)) :
    CutOff config record ↔ config.maxOutputBytes < stdout.utf8ByteSize := by
  constructor
  · rintro ⟨code', stdout', stderr', hrun', hcut⟩
    rw [hrun] at hrun'
    cases hrun'
    exact hcut
  · intro hcut
    exact ⟨code, stdout, stderr, hrun, hcut⟩

theorem failed_exited {code : Option Int} {stdout stderr : String} {maxOutputBytes : Nat}
    (hrun : record.run = some (.exited code stdout stderr)) :
    Failed host maxOutputBytes record ↔
      code ≠ some 0 ∨ maxOutputBytes < stdout.utf8ByteSize ∨ ¬ parses host record.script stdout ∨
        lastStatus stdout = some "error" ∨ lastStatus stdout = some "not_available" := by
  unfold Failed
  rw [hrun]

/-- A whole output that can be read fails by its status. -/
theorem failed_whole {stdout stderr : String} {header : Header}
    (hrun : record.run = some (.exited (some 0) stdout stderr))
    (hfits : stdout.utf8ByteSize ≤ config.maxOutputBytes)
    (hheader : headerOf host record.script stdout = some header) :
    Failed host config.maxOutputBytes record ↔
      header.status = .error ∨ header.status = .notAvailable := by
  have hread : parses host record.script stdout := by
    by_contra hunread
    rw [headerOf_eq_none.mpr hunread] at hheader
    cases hheader
  have hlast := lastStatus_of_headerOf hheader
  have herror := lastStatus_iff .error hlast fun _ => parse_eq_error
  have hunavailable := lastStatus_iff .notAvailable hlast fun _ => parse_eq_notAvailable
  rw [failed_exited hrun, herror, hunavailable]
  constructor
  · rintro (hcode | hcut | hunread | hwrong)
    · exact absurd rfl hcode
    · exact absurd hcut (not_lt.mpr hfits)
    · exact absurd hread hunread
    · exact hwrong
  · intro hwrong
    exact Or.inr (Or.inr (Or.inr hwrong))

/-- What can go wrong with a run is loud or silent. -/
theorem failed_iff :
    Failed host config.maxOutputBytes record ↔
      LoudRun host config record ∨ SilentRun host config record := by
  have hunfinished (hfailed : Failed host config.maxOutputBytes record)
      (htext : textOf config record = none) :
      Failed host config.maxOutputBytes record ↔
        LoudRun host config record ∨ SilentRun host config record := by
    have hloud : LoudRun host config record := by
      left
      rw [statusOf, htext, Option.bind_none]
    exact iff_of_true hfailed (Or.inl hloud)
  cases hrun : record.run with
  | none =>
      apply hunfinished
      · simp [Failed, hrun]
      · simp [textOf, hrun]
  | some run =>
    cases run with
    | notSpawned e | notWritten | notAwaited e =>
        apply hunfinished
        · simp [Failed, hrun]
        · simp [textOf, hrun]
    | exited code stdout stderr =>
      by_cases hcode : code = some 0
      · subst hcode
        have htext : textOf config record = some (truncateBytes stdout config.maxOutputBytes) := by
          simp [textOf, hrun]
        cases hstatus : statusOf host config record with
        | none =>
            -- Nothing could be read of what was left of the output.
            refine iff_of_true ?_ (Or.inl (Or.inl hstatus))
            rw [failed_exited hrun]
            rw [statusOf, htext, Option.bind_some, headerOf_eq_none] at hstatus
            by_cases hcut : config.maxOutputBytes < stdout.utf8ByteSize
            · exact Or.inr (Or.inl hcut)
            · rw [truncateBytes_of_le (not_lt.mp hcut)] at hstatus
              exact Or.inr (Or.inr (Or.inl hstatus))
        | some header =>
            rw [loud_or_silent_iff hstatus, cutOff_iff hrun]
            by_cases hcut : config.maxOutputBytes < stdout.utf8ByteSize
            · exact iff_of_true ((failed_exited hrun).mpr (Or.inr (Or.inl hcut))) (Or.inl hcut)
            · rw [statusOf, htext, Option.bind_some, truncateBytes_of_le (not_lt.mp hcut)] at hstatus
              rw [failed_whole hrun (not_lt.mp hcut) hstatus]
              simp [hcut]
      · apply hunfinished
        · exact (failed_exited hrun).mpr (Or.inl hcode)
        · simp [textOf, hrun, hcode]

/-! ### The errors of a visit -/

theorem finished_ok (collectorName file : String) {text : String}
    (htext : textOf config record = some text) :
    finished collectorName file (record.output config) = .ok text := by
  unfold textOf at htext
  cases hrun : record.run with
  | none => simp [hrun] at htext
  | some run =>
    cases run with
    | notSpawned e | notWritten | notAwaited e => simp [hrun] at htext
    | exited code stdout stderr =>
      simp only [hrun] at htext
      by_cases hcode : code = some 0
      · rw [if_pos hcode] at htext
        cases htext
        simp [finished, Execution.output, executeScript, runScript, hrun, hcode]
      · rw [if_neg hcode] at htext
        cases htext

theorem finished_error (collectorName file : String) (htext : textOf config record = none) :
    ∃ e, finished collectorName file (record.output config) = .error e := by
  unfold textOf at htext
  cases hrun : record.run with
  | none => simp [finished, Execution.output, executeScript, hrun]
  | some run =>
    cases run with
    | notSpawned e | notWritten | notAwaited e =>
        simp [finished, Execution.output, executeScript, runScript, hrun]
    | exited code stdout stderr =>
      simp only [hrun] at htext
      by_cases hcode : code = some 0
      · rw [if_pos hcode] at htext
        cases htext
      · simp [finished, Execution.output, executeScript, runScript, hrun, hcode]

theorem discovered_unread (dir : CollectorDir) (hscript : record.script = .discover)
    (hstatus : statusOf host config record = none) :
    ∃ e, discovered config dir record = .error [e] := by
  cases htext : textOf config record with
  | none =>
      obtain ⟨e, he⟩ := finished_error dir.manifest.id "discover.sh" htext
      exact ⟨e, by rw [discovered, he]⟩
  | some text =>
      rw [statusOf, htext, hscript, Option.bind_some] at hstatus
      cases hparse : parseDiscovery text with
      | error e =>
          simp only [discovered, finished_ok _ _ htext, hparse]
          exact ⟨_, rfl⟩
      | ok discovery => simp [headerOf, hparse, Except.toOption] at hstatus

/-- A discovery that can be read: if the tool is not available its message is all there is. -/
theorem discovered_read (dir : CollectorDir) (hscript : record.script = .discover) {header : Header}
    (hstatus : statusOf host config record = some header) :
    (header.status = .notAvailable → ∃ errors, discovered config dir record = .error errors ∧
        (errors = [] ↔ header.statusMessage = none)) ∧
      (header.status ≠ .notAvailable → ∃ discovery, discovered config dir record = .ok discovery) := by
  cases htext : textOf config record with
  | none =>
      rw [statusOf, htext] at hstatus
      cases hstatus
  | some text =>
      rw [statusOf, htext, hscript, Option.bind_some] at hstatus
      cases hparse : parseDiscovery text with
      | error e => simp [headerOf, hparse, Except.toOption] at hstatus
      | ok discovery =>
          have hheader : discovery.header = header := by
            simpa [headerOf, hparse, Except.toOption] using hstatus
          simp only [discovered, finished_ok _ _ htext, hparse, hheader]
          constructor
          · intro hunavailable
            rw [if_pos hunavailable]
            refine ⟨_, rfl, ?_⟩
            cases header.statusMessage with
            | none => simp
            | some message => simp
          · intro havailable
            rw [if_neg havailable]
            exact ⟨discovery, rfl⟩

theorem measured_unread (dir : CollectorDir) (hscript : record.script = .metrics)
    (hstatus : statusOf host config record = none) :
    ∃ e, measured host config dir record = .error e := by
  cases htext : textOf config record with
  | none =>
      obtain ⟨e, he⟩ := finished_error dir.manifest.id "metrics.sh" htext
      exact ⟨e, by rw [measured, he]⟩
  | some text =>
      rw [statusOf, htext, hscript, Option.bind_some] at hstatus
      cases hparse : parseMetrics host.bytesOfMb text with
      | error e =>
          simp only [measured, finished_ok _ _ htext, hparse]
          exact ⟨_, rfl⟩
      | ok metrics => simp [headerOf, hparse, Except.toOption] at hstatus

theorem measured_read (dir : CollectorDir) (hscript : record.script = .metrics) {header : Header}
    (hstatus : statusOf host config record = some header) :
    ∃ metrics, measured host config dir record = .ok metrics := by
  cases htext : textOf config record with
  | none =>
      rw [statusOf, htext] at hstatus
      cases hstatus
  | some text =>
      rw [statusOf, htext, hscript, Option.bind_some] at hstatus
      cases hparse : parseMetrics host.bytesOfMb text with
      | error e => simp [headerOf, hparse, Except.toOption] at hstatus
      | ok metrics =>
          simp only [measured, finished_ok _ _ htext, hparse]
          exact ⟨metrics, rfl⟩

/-- The runs of a collector give an error. The metrics are asked for only after a discovery that found
the tool. -/
def LoudScripts (host : Host) (config : DirConfig) (dir : CollectorDir) (scripts : Bytes × Bytes) :
    Prop :=
  LoudRun host config (execution host dir .discover scripts.1) ∨
    ∃ discovery, discovered config dir (execution host dir .discover scripts.1) = .ok discovery ∧
      (LoudRun host config (execution host dir .metrics scripts.2) ∨
        ∃ metrics, measured host config dir (execution host dir .metrics scripts.2) = .ok metrics ∧
          unmatched discovery metrics ≠ [])

/-- A run of the collector fails silently. -/
def SilentScripts (host : Host) (config : DirConfig) (dir : CollectorDir) (scripts : Bytes × Bytes) :
    Prop :=
  SilentRun host config (execution host dir .discover scripts.1) ∨
    SilentRun host config (execution host dir .metrics scripts.2)

theorem not_loudRun_of_message {header : Header} (hstatus : statusOf host config record = some header)
    (hquiet : header.status ≠ .notAvailable ∨ header.statusMessage = none) :
    ¬ LoudRun host config record := by
  rintro (hnone | ⟨header', hsome, -, hunavailable, hmessage⟩)
  · rw [hstatus] at hnone
    cases hnone
  · rw [hstatus] at hsome
    cases hsome
    rcases hquiet with hquiet | hquiet
    · exact hquiet hunavailable
    · exact hmessage hquiet

theorem not_loudRun_of_metrics (hscript : record.script = .metrics) {header : Header}
    (hstatus : statusOf host config record = some header) : ¬ LoudRun host config record := by
  rintro (hnone | ⟨header', -, hdiscover, -⟩)
  · rw [hstatus] at hnone
    cases hnone
  · rw [hscript] at hdiscover
    cases hdiscover

/-- After a discovery that found the tool, both scripts run. -/
theorem runScripts_of_discovered {scripts : Bytes × Bytes} {discovery : DiscoveryResult}
    (hdiscovered : discovered config dir (execution host dir .discover scripts.1) = .ok discovery)
    (hquiet : ¬ LoudRun host config (execution host dir .discover scripts.1)) :
    ((runScripts host config dir scripts).errors ≠ [] ↔ LoudScripts host config dir scripts) ∧
      (runScripts host config dir scripts).executed
        = [execution host dir .discover scripts.1, execution host dir .metrics scripts.2] := by
  have hloud : LoudScripts host config dir scripts ↔
      LoudRun host config (execution host dir .metrics scripts.2) ∨
        ∃ metrics, measured host config dir (execution host dir .metrics scripts.2) = .ok metrics ∧
          unmatched discovery metrics ≠ [] := by
    constructor
    · rintro (hloud | ⟨discovery', hdiscovered', hmetrics⟩)
      · exact absurd hloud hquiet
      · rw [hdiscovered] at hdiscovered'
        cases hdiscovered'
        exact hmetrics
    · intro hmetrics
      exact Or.inr ⟨discovery, hdiscovered, hmetrics⟩
  cases hstatus : statusOf host config (execution host dir .metrics scripts.2) with
  | none =>
      obtain ⟨e, he⟩ := measured_unread dir
        (rfl : (execution host dir .metrics scripts.2).script = .metrics) hstatus
      constructor
      · refine iff_of_true ?_ (hloud.mpr (Or.inl (Or.inl hstatus)))
        simp [runScripts, hdiscovered, he]
      · simp [runScripts, hdiscovered, he]
  | some header =>
      have hscript : (execution host dir .metrics scripts.2).script = .metrics := rfl
      obtain ⟨metrics, hmetrics⟩ := measured_read dir hscript hstatus
      constructor
      · rw [hloud]
        constructor
        · intro herrors
          refine Or.inr ⟨metrics, hmetrics, fun hnone => herrors ?_⟩
          simp [runScripts, hdiscovered, hmetrics, mergeIntoGpuMetrics, hnone]
        · rintro (hloud' | ⟨metrics', hmetrics', hunmatched⟩)
          · exact absurd hloud' (not_loudRun_of_metrics hscript hstatus)
          · rw [hmetrics] at hmetrics'
            cases hmetrics'
            simpa [runScripts, hdiscovered, hmetrics, mergeIntoGpuMetrics] using hunmatched
      · simp [runScripts, hdiscovered, hmetrics]

/-- The ways in which the runs of a collector end: with an error of the discovery, with a tool that is
not there and no word of it, or with both scripts run. -/
theorem runScripts_cases (host : Host) (config : DirConfig) (dir : CollectorDir)
    (scripts : Bytes × Bytes) :
    let discover := execution host dir .discover scripts.1
    let metrics := execution host dir .metrics scripts.2
    let result := runScripts host config dir scripts
    (LoudRun host config discover ∧ result.errors ≠ [] ∧ result.executed = [discover]) ∨
      (SilentRun host config discover ∧ ¬ LoudScripts host config dir scripts ∧ result.errors = [] ∧
        result.executed = [discover]) ∨
      (¬ LoudRun host config discover ∧ (result.errors ≠ [] ↔ LoudScripts host config dir scripts) ∧
        result.executed = [discover, metrics]) := by
  intro discover metrics result
  have hscript : discover.script = .discover := rfl
  cases hstatus : statusOf host config discover with
  | none =>
      obtain ⟨e, he⟩ := discovered_unread dir hscript hstatus
      left
      refine ⟨Or.inl hstatus, ?_, ?_⟩
      · simp [result, runScripts, discover, he]
      · simp [result, runScripts, discover, he]
  | some header =>
      obtain ⟨hunavailable, havailable⟩ := discovered_read dir hscript hstatus
      by_cases hstate : header.status = .notAvailable
      · obtain ⟨errors, herrors, hempty⟩ := hunavailable hstate
        by_cases hmessage : header.statusMessage = none
        · right
          left
          refine ⟨⟨header, hstatus, Or.inr (Or.inr ⟨hstate, Or.inr hmessage⟩)⟩, ?_, ?_, ?_⟩
          · rintro (hloud | ⟨discovery, hdiscovery, -⟩)
            · exact not_loudRun_of_message hstatus (Or.inr hmessage) hloud
            · rw [herrors] at hdiscovery
              cases hdiscovery
          · simpa [result, runScripts, discover, herrors] using hempty.mpr hmessage
          · simp [result, runScripts, discover, herrors]
        · left
          refine ⟨Or.inr ⟨header, hstatus, hscript, hstate, hmessage⟩, ?_, ?_⟩
          · simpa [result, runScripts, discover, herrors] using fun hnone => hmessage (hempty.mp hnone)
          · simp [result, runScripts, discover, herrors]
      · obtain ⟨discovery, hdiscovery⟩ := havailable hstate
        have hquiet := not_loudRun_of_message hstatus (Or.inl hstate)
        right
        right
        exact ⟨hquiet, runScripts_of_discovered hdiscovery hquiet⟩

theorem errors_runScripts (scripts : Bytes × Bytes) :
    (runScripts host config dir scripts).errors ≠ [] ↔ LoudScripts host config dir scripts := by
  rcases runScripts_cases host config dir scripts with
    ⟨hloud, herrors, -⟩ | ⟨-, hquiet, herrors, -⟩ | ⟨-, hiff, -⟩
  · exact iff_of_true herrors (Or.inl hloud)
  · simp [herrors, hquiet]
  · exact hiff

/-- A failed run is seen in the error list or is one of the silent kind. -/
theorem failed_runScripts {scripts : Bytes × Bytes}
    (hrecord : record ∈ (runScripts host config dir scripts).executed)
    (hfailed : Failed host config.maxOutputBytes record) :
    (runScripts host config dir scripts).errors ≠ [] ∨ SilentScripts host config dir scripts := by
  rcases runScripts_cases host config dir scripts with
    ⟨-, herrors, -⟩ | ⟨hsilent, -, -, -⟩ | ⟨hquiet, hiff, hexecuted⟩
  · exact Or.inl herrors
  · exact Or.inr (Or.inl hsilent)
  · rw [hexecuted] at hrecord
    rcases List.mem_pair.mp hrecord with hrecord | hrecord
    · rw [hrecord] at hfailed
      rcases failed_iff.mp hfailed with hloud | hsilent
      · exact absurd hloud hquiet
      · exact Or.inr (Or.inl hsilent)
    · rw [hrecord] at hfailed
      rcases failed_iff.mp hfailed with hloud | hsilent
      · -- The metrics have run, so the discovery has found the tool.
        left
        apply hiff.mpr
        cases hdiscovered : discovered config dir (execution host dir .discover scripts.1) with
        | error errors => simp [runScripts, hdiscovered] at hexecuted
        | ok discovery => exact Or.inr ⟨discovery, hdiscovered, Or.inl hloud⟩
      · exact Or.inr (Or.inr hsilent)

/-- A silent failure happens, unless something else of the collector gives an error. -/
theorem silent_runScripts {scripts : Bytes × Bytes} (hsilent : SilentScripts host config dir scripts)
    (herrors : (runScripts host config dir scripts).errors = []) :
    ∃ record ∈ (runScripts host config dir scripts).executed,
      Failed host config.maxOutputBytes record := by
  rcases runScripts_cases host config dir scripts with
    ⟨-, hsome, -⟩ | ⟨hdiscover, -, -, hexecuted⟩ | ⟨-, -, hexecuted⟩
  · exact absurd herrors hsome
  · refine ⟨_, ?_, failed_iff.mpr (Or.inr hdiscover)⟩
    rw [hexecuted]
    simp
  · rcases hsilent with hsilent | hsilent
    · refine ⟨_, ?_, failed_iff.mpr (Or.inr hsilent)⟩
      rw [hexecuted]
      simp
    · refine ⟨_, ?_, failed_iff.mpr (Or.inr hsilent)⟩
      rw [hexecuted]
      simp

/-! ### The errors of a collection -/

/-- The collector passes every check, and these are its scripts. -/
def Selected (sha256 : Bytes → String) (host : Host) (config : DirConfig) (registry : List RegistryEntry)
    (dir : CollectorDir) (scripts : Bytes × Bytes) : Prop :=
  dir.checkEnabled config registry = .allowed ∧ readScripts sha256 host registry dir = .ok scripts

/-- The collector is refused with an error, its scripts are not what they should be, or its runs give an
error. -/
def LoudVisit (sha256 : Bytes → String) (host : Host) (config : DirConfig)
    (registry : List RegistryEntry) (dir : CollectorDir) : Prop :=
  (∃ message, dir.refusal (dir.checkEnabled config registry) = some message) ∨
    (dir.checkEnabled config registry = .allowed ∧
      ∃ message, readScripts sha256 host registry dir = .error message) ∨
    ∃ scripts, Selected sha256 host config registry dir scripts ∧ LoudScripts host config dir scripts

theorem visit_of_selected {scripts : Bytes × Bytes}
    (hselected : Selected sha256 host config registry dir scripts) :
    visit sha256 host config registry dir = runScripts host config dir scripts := by
  unfold visit
  simp only [hselected.1, hselected.2]

theorem errors_visit :
    (visit sha256 host config registry dir).errors ≠ [] ↔
      LoudVisit sha256 host config registry dir := by
  unfold LoudVisit
  cases hstatus : dir.checkEnabled config registry with
  | allowed =>
      cases hread : readScripts sha256 host registry dir with
      | error message => simp [visit, hstatus, hread]
      | ok scripts =>
          rw [visit_of_selected ⟨hstatus, hread⟩, errors_runScripts]
          simp [CollectorDir.refusal, Selected, hstatus, hread]
  | notListed => simp [visit, hstatus, CollectorDir.refusal, Selected]
  | disabled | notRegistered | registryDisabled | discoverHashMismatch | metricsHashMismatch =>
      simp [visit, hstatus, CollectorDir.refusal]

/-- The registry is empty while there are collectors, or one of them gives an error. -/
def LoudCollection (sha256 : Bytes → String) (host : Host) (config : DirConfig)
    (registry : List RegistryEntry) : Prop :=
  (registry = [] ∧ scanCollectorDirs sha256 host config.root ≠ []) ∨
    ∃ dir ∈ scanCollectorDirs sha256 host config.root, LoudVisit sha256 host config registry dir

/-- A selected collector fails silently. -/
def SilentCollection (sha256 : Bytes → String) (host : Host) (config : DirConfig)
    (registry : List RegistryEntry) : Prop :=
  ∃ dir ∈ scanCollectorDirs sha256 host config.root, ∃ scripts,
    Selected sha256 host config registry dir scripts ∧ SilentScripts host config dir scripts

theorem errors_collectViaDirs :
    (collectViaDirs sha256 host config registry).errors ≠ [] ↔
      LoudCollection sha256 host config registry := by
  have herrors : (collectViaDirs sha256 host config registry).errors
      = (if registry = [] ∧ scanCollectorDirs sha256 host config.root ≠ [] then [emptyRegistryError]
          else [])
        ++ (scanCollectorDirs sha256 host config.root).flatMap fun dir =>
          (visit sha256 host config registry dir).errors := by
    simp only [collectViaDirs, foldl_visits]
  unfold LoudCollection
  rw [herrors, ne_eq, List.append_eq_nil_iff, List.flatMap_eq_nil_iff, not_and_or]
  refine or_congr ?_ ?_
  · by_cases hempty : registry = [] ∧ scanCollectorDirs sha256 host config.root ≠ []
    · simp [hempty]
    · simp [hempty]
  · simp only [not_forall]
    constructor
    · rintro ⟨dir, hdir, hsome⟩
      exact ⟨dir, hdir, errors_visit.mp hsome⟩
    · rintro ⟨dir, hdir, hloud⟩
      exact ⟨dir, hdir, errors_visit.mpr hloud⟩

theorem enhanceCollectorErrors_eq_nil {errors : List String} :
    enhanceCollectorErrors errors registry = [] ↔ errors = [] := by
  unfold enhanceCollectorErrors
  by_cases hregistry : registry = []
  · rw [if_pos hregistry]
    cases errors.findIdx? fun e => Text.contains e "registry is empty" with
    | none => exact Iff.rfl
    | some pos => simp
  · rw [if_neg hregistry]

/-! ### The server's side -/

theorem mem_samples_missing (nodeId : String) (sampledAt : Int) (gpus : List Nodes.GpuMetrics)
    (db : NodesDb) {row : Nodes.GpuStatus}
    (hrow : row ∈ (gpus.foldl (Nodes.upsertGpuStatus nodeId sampledAt) db).gpuStatus.rows)
    (hmissing : row.status = some "missing") : row ∈ db.gpuStatus.rows := by
  induction gpus generalizing db with
  | nil => exact hrow
  | cons gpu gpus ih =>
      have hbefore := ih (Nodes.upsertGpuStatus nodeId sampledAt db gpu) hrow
      rcases Table.mem_upsert hbefore with hwritten | ⟨hkept, -⟩
      · -- A row that a sample has written has no status.
        exfalso
        rw [hwritten] at hmissing
        cases hfind : db.gpuStatus.find? (Nodes.gpuRow nodeId sampledAt gpu).key with
        | none =>
            rw [hfind] at hmissing
            cases hmissing
        | some old =>
            rw [hfind] at hmissing
            cases hmissing
      · exact hkept

/-- A heartbeat with errors marks nothing as missing. -/
theorem missing_of_errors {request : HeartbeatRequest} (herrors : request.collectorErrors ≠ [])
    (db : NodesDb) :
    ∀ row ∈ (recordHeartbeat request db).gpuStatus.rows, row.status = some "missing" →
      row ∈ db.gpuStatus.rows := by
  intro row hrow hmissing
  have hnonempty : request.collectorErrors.isEmpty = false := by
    cases herrorList : request.collectorErrors with
    | nil => exact absurd herrorList herrors
    | cons e rest => rfl
  unfold recordHeartbeat at hrow
  simp only [hnonempty, Bool.false_eq_true, if_false] at hrow
  have hkept := mem_samples_missing _ _ _ _ hrow hmissing
  exact hkept

/-- A failed run leaves an error in the heartbeat, and the server marks nothing as missing. -/
def Reported (host : Host) (maxOutputBytes : Nat) (executed : List Execution)
    (request : HeartbeatRequest) : Prop :=
  (∃ record ∈ executed, Failed host maxOutputBytes record) →
    request.collectorErrors ≠ [] ∧
      ∀ db : NodesDb, ∀ row ∈ (recordHeartbeat request db).gpuStatus.rows,
        row.status = some "missing" → row ∈ db.gpuStatus.rows

theorem executed_collection :
    record ∈ (collectViaDirs sha256 host config registry).executed ↔
      ∃ dir ∈ scanCollectorDirs sha256 host config.root, ∃ scripts,
        Selected sha256 host config registry dir scripts ∧
          record ∈ (runScripts host config dir scripts).executed := by
  rw [executed_collectViaDirs, List.mem_flatMap]
  constructor
  · rintro ⟨dir, hdir, hrecord⟩
    obtain ⟨hallowed, scripts, hread, hrun⟩ := mem_executed_visit hrecord
    exact ⟨dir, hdir, scripts, ⟨hallowed, hread⟩, hrun⟩
  · rintro ⟨dir, hdir, scripts, hselected, hrun⟩
    refine ⟨dir, hdir, ?_⟩
    rwa [visit_of_selected hselected]

/-- A collection without errors has a failed run exactly if one of its collectors fails silently. -/
theorem failed_collection_iff (hquiet : ¬ LoudCollection sha256 host config registry) :
    (∃ record ∈ (collectViaDirs sha256 host config registry).executed,
        Failed host config.maxOutputBytes record) ↔
      SilentCollection sha256 host config registry := by
  have hnone {dir : CollectorDir} {scripts : Bytes × Bytes}
      (hdir : dir ∈ scanCollectorDirs sha256 host config.root)
      (hselected : Selected sha256 host config registry dir scripts) :
      (runScripts host config dir scripts).errors = [] := by
    by_contra hsome
    apply hquiet
    rw [← visit_of_selected hselected] at hsome
    exact Or.inr ⟨dir, hdir, errors_visit.mp hsome⟩
  constructor
  · rintro ⟨record, hrecord, hfailed⟩
    obtain ⟨dir, hdir, scripts, hselected, hrun⟩ := executed_collection.mp hrecord
    rcases failed_runScripts hrun hfailed with hsome | hsilent
    · exact absurd (hnone hdir hselected) hsome
    · exact ⟨dir, hdir, scripts, hselected, hsilent⟩
  · rintro ⟨dir, hdir, scripts, hselected, hsilent⟩
    obtain ⟨record, hrun, hfailed⟩ := silent_runScripts hsilent (hnone hdir hselected)
    exact ⟨record, executed_collection.mpr ⟨dir, hdir, scripts, hselected, hrun⟩, hfailed⟩

/-- A failed run is reported unless it fails silently and nothing else gives an error. -/
theorem failed_run_reported_iff (sha256 : Bytes → String) (host : Host) (config : CollectorConfig)
    (nodeId : String) (sampledAt : Int) :
    Reported host config.collectorMaxOutputBytes (collectGpus sha256 host config).executed
        (heartbeatRequest nodeId sampledAt config.collectorRegistry (collectGpus sha256 host config)) ↔
      ∀ dirConfig, config.toDirConfig = some dirConfig →
        LoudCollection sha256 host dirConfig config.collectorRegistry ∨
          ¬ SilentCollection sha256 host dirConfig config.collectorRegistry := by
  cases hconfig : config.toDirConfig with
  | none =>
      have hnothing : (collectGpus sha256 host config).executed = [] := by
        simp [collectGpus, hconfig]
      constructor
      · intro _ dirConfig hsome
        cases hsome
      · rintro _ ⟨record, hrecord, -⟩
        rw [hnothing] at hrecord
        cases hrecord
  | some dirConfig =>
      have hlimit : config.collectorMaxOutputBytes = dirConfig.maxOutputBytes := by
        cases hroot : config.collectorRoot with
        | none => simp [CollectorConfig.toDirConfig, hroot] at hconfig
        | some root =>
            simp only [CollectorConfig.toDirConfig, hroot, Option.map_some, Option.some.injEq] at hconfig
            rw [← hconfig]
      have hcollected : collectGpus sha256 host config
          = collectViaDirs sha256 host dirConfig config.collectorRegistry := by
        simp only [collectGpus, hconfig]
      have herrors (collected : Visit) :
          (heartbeatRequest nodeId sampledAt config.collectorRegistry collected).collectorErrors ≠ [] ↔
            collected.errors ≠ [] := not_congr enhanceCollectorErrors_eq_nil
      rw [hcollected, hlimit]
      simp only [Option.some.injEq, forall_eq']
      by_cases hloud : LoudCollection sha256 host dirConfig config.collectorRegistry
      · refine iff_of_true (fun _ => ?_) (Or.inl hloud)
        have hsome := (herrors _).mpr (errors_collectViaDirs.mpr hloud)
        exact ⟨hsome, missing_of_errors hsome⟩
      · have hnone : ¬ (collectViaDirs sha256 host dirConfig config.collectorRegistry).errors ≠ [] :=
          fun hsome => hloud (errors_collectViaDirs.mp hsome)
        constructor
        · intro hreported
          right
          intro hsilent
          have hfailed := (failed_collection_iff hloud).mpr hsilent
          exact hnone ((herrors _).mp (hreported hfailed).1)
        · rintro (hloud' | hquiet)
          · exact absurd hloud' hloud
          · intro hfailed
            exact absurd ((failed_collection_iff hloud).mp hfailed) hquiet

/-! ### A discovery that says it went wrong -/

def brokenDiscovery : String := "STATUS\t1\terror\tnvidia\tnvidia\tnvidia-smi failed\n"

/-- The discovery prints an error and no devices, and the metrics are empty. -/
def brokenHost : Host :=
  nvidiaHost fun script =>
    match script with
    | .discover => some (.exited (some 0) brokenDiscovery "")
    | .metrics => some (.exited (some 0) "STATUS\t1\tok\tnvidia\tnvidia\t\n" "")

theorem failed_run_not_reported :
    ¬ Reported brokenHost (nvidiaConfig [nvidiaEntry]).collectorMaxOutputBytes
        (collectGpus (fun _ => emptySha256) brokenHost (nvidiaConfig [nvidiaEntry])).executed
        (heartbeatRequest "node-a" 100 [nvidiaEntry]
          (collectGpus (fun _ => emptySha256) brokenHost (nvidiaConfig [nvidiaEntry]))) := by
  intro hreported
  have hfailed : Failed brokenHost (nvidiaConfig [nvidiaEntry]).collectorMaxOutputBytes
      (discoverRun (some (.exited (some 0) brokenDiscovery ""))) := by
    rw [failed_exited rfl]
    exact Or.inr (Or.inr (Or.inr (Or.inl (by decide))))
  have herrors := (hreported ⟨_, by decide, hfailed⟩).1
  exact herrors (by decide)

end LightAI.Collectors
