import LightAI.Agent.RuntimeConfig
import LightAI.Agent.Scripts

/-!
# The collectors of a host

A collector is a directory with a manifest and two scripts. What is found there is compared with the
policy and the registry when the directories are scanned, and the scripts are read and compared once more
before they run. The files may change at any time between.
-/

namespace LightAI.Collectors

open Agent (RegistryEntry)
open Nodes (GpuMetrics)

/-! ### Directories -/

structure CollectorManifest where
  id : String
  vendor : String
  name : String
  version : String
  discover : String
  metrics : String
  priority : Nat := 100
  deriving DecidableEq

def hasSeparator (value : String) : Bool := Text.contains value "/" || Text.contains value "\\"

/-- The checks of `manifest::parse`, after the file has been read as TOML. -/
def validateManifest (manifest : CollectorManifest) : Except String CollectorManifest :=
  if manifest.id = "" then .error "collector id must not be empty"
  else if manifest.vendor = "" then .error "collector vendor must not be empty"
  else if manifest.name = "" then .error "collector name must not be empty"
  else if manifest.version = "" then .error "collector version must not be empty"
  else if manifest.discover = "" then .error "discover script path must not be empty"
  else if manifest.metrics = "" then .error "metrics script path must not be empty"
  else if hasSeparator manifest.discover then
    .error "discover script must be a filename, not a path"
  else if hasSeparator manifest.metrics then
    .error "metrics script must be a filename, not a path"
  else .ok manifest

inductive Script where
  | discover
  | metrics
  deriving DecidableEq

def CollectorManifest.file (manifest : CollectorManifest) : Script → String
  | .discover => manifest.discover
  | .metrics => manifest.metrics

structure DirEntry where
  path : String
  /-- The name, if it is Unicode. -/
  fileName : Option String
  isDir : Bool := true

/-- All that a collection gets from outside. The two ways to read a script are two moments: what is there
when the directories are scanned, and what is there when the scripts are about to run. -/
structure Host where
  entries : String → Option (List DirEntry)
  hasManifest : String → Bool
  manifest : String → Except String CollectorManifest
  isFile : String → Script → String → Bool
  scanned : String → Script → String → Except String Bytes
  reread : String → Script → String → Except String Bytes
  run : String → Script → Bytes → Option ShellRun
  bytesOfMb : String → Option Int

structure CollectorDir where
  dirPath : String
  manifest : CollectorManifest
  discoverSha256 : String
  metricsSha256 : String

section

variable (sha256 : Bytes → String) (host : Host)

def fromDir (dirPath : String) : Except String CollectorDir := do
  if !host.hasManifest dirPath then
    throw s!"missing collector.toml in {dirPath}"
  let parsed ← host.manifest dirPath
  let manifest ← validateManifest parsed
  if !host.isFile dirPath .discover manifest.discover then
    throw s!"missing discover script '{manifest.discover}' in {dirPath}"
  if !host.isFile dirPath .metrics manifest.metrics then
    throw s!"missing metrics script '{manifest.metrics}' in {dirPath}"
  let discoverBytes ← host.scanned dirPath .discover manifest.discover
  let metricsBytes ← host.scanned dirPath .metrics manifest.metrics
  return { dirPath, manifest, discoverSha256 := sha256 discoverBytes, metricsSha256 := sha256 metricsBytes }

def endsWith (value part : String) : Bool := part.toList.isSuffixOf value.toList

def skippedName (dirName : String) : Bool :=
  Text.startsWith dirName "." || endsWith dirName "~" || endsWith dirName ".tmp" || endsWith dirName ".bak"

/-- Higher priorities come first, and equal ones in the order of their ids. -/
def CollectorDir.before (a b : CollectorDir) : Prop :=
  b.manifest.priority < a.manifest.priority ∨
    (a.manifest.priority = b.manifest.priority ∧ a.manifest.id ≤ b.manifest.id)

instance : DecidableRel CollectorDir.before := fun a b =>
  inferInstanceAs (Decidable (b.manifest.priority < a.manifest.priority ∨
    (a.manifest.priority = b.manifest.priority ∧ a.manifest.id ≤ b.manifest.id)))

def scanCollectorDirs (root : String) : List CollectorDir :=
  let kept := ((host.entries root).getD []).filter fun entry =>
    entry.isDir && !skippedName (entry.fileName.getD "")
  (kept.filterMap fun entry => (fromDir sha256 host entry.path).toOption).insertionSort CollectorDir.before

end

/-! ### Policy and registry -/

inductive CollectorMode where
  | explicit
  | auto
  deriving DecidableEq

structure DirConfig where
  root : String
  mode : CollectorMode
  enabled : List String
  disabled : List String
  timeoutSecs : Nat
  maxOutputBytes : Nat

structure CollectorConfig where
  collectorRoot : Option String := none
  collectorMode : String := "explicit"
  collectorEnabled : List String := []
  collectorDisabled : List String := []
  collectorRegistry : List RegistryEntry := []
  collectorTimeoutSecs : Nat := 5
  collectorMaxOutputBytes : Nat := 1024 * 1024

def CollectorConfig.toDirConfig (config : CollectorConfig) : Option DirConfig :=
  config.collectorRoot.map fun root =>
    { root
      mode := if config.collectorMode = "auto" then .auto else .explicit
      enabled := config.collectorEnabled
      disabled := config.collectorDisabled
      timeoutSecs := config.collectorTimeoutSecs
      maxOutputBytes := config.collectorMaxOutputBytes }

inductive EnableStatus where
  | allowed
  | disabled
  | notListed
  | notRegistered
  | registryDisabled
  | discoverHashMismatch
  | metricsHashMismatch
  deriving DecidableEq

def CollectorDir.checkEnabled (dir : CollectorDir) (config : DirConfig)
    (registry : List RegistryEntry) : EnableStatus :=
  if dir.manifest.id ∈ config.disabled then .disabled
  else if config.mode = .explicit ∧ dir.manifest.id ∉ config.enabled then .notListed
  else
    match registry.find? fun r => r.id = dir.manifest.id ∧ r.version = dir.manifest.version with
    | none => .notRegistered
    | some entry =>
        if !entry.enabled then .registryDisabled
        else if entry.discoverSha256 ≠ dir.discoverSha256 then .discoverHashMismatch
        else if entry.metricsSha256 ≠ dir.metricsSha256 then .metricsHashMismatch
        else .allowed

/-- The error for a collector that is not to run. One that is not listed gives none. -/
def CollectorDir.refusal (dir : CollectorDir) : EnableStatus → Option String
  | .allowed => none
  | .notListed => none
  | .disabled =>
      some s!"{dir.manifest.id} (id={dir.manifest.id}, version={dir.manifest.version}): collector disabled in Agent config"
  | .notRegistered =>
      some s!"{dir.manifest.id} (id={dir.manifest.id}, version={dir.manifest.version}): collector not registered in Server registry — run 'lightai-agent collector inspect' and register via Web"
  | .registryDisabled =>
      some s!"{dir.manifest.id} (id={dir.manifest.id}, version={dir.manifest.version}): collector disabled in Server registry"
  | .discoverHashMismatch =>
      some s!"{dir.manifest.id}: discover.sh hash mismatch — script has changed since last registration. Re-run inspect and re-register."
  | .metricsHashMismatch =>
      some s!"{dir.manifest.id}: metrics.sh hash mismatch — script has changed since last registration. Re-run inspect and re-register."

/-! ### Running a collector -/

/-- A script that was handed to the shell. -/
structure Execution where
  id : String
  version : String
  script : Script
  bytes : Bytes
  run : Option ShellRun
  deriving DecidableEq

/-- What the visit of a directory adds. -/
structure Visit where
  gpus : List GpuMetrics := []
  errors : List String := []
  executed : List Execution := []

def Visit.append (a b : Visit) : Visit where
  gpus := a.gpus ++ b.gpus
  errors := a.errors ++ b.errors
  executed := a.executed ++ b.executed

def exitText : Option Int → String
  | none => "None"
  | some code => s!"Some({code})"

/-- The output of a run that was in time and ended with zero. -/
def finished (collectorName file : String) (output : ScriptOutput) : Except String String :=
  if output.timedOut then .error s!"{collectorName}: {file} timed out"
  else if output.exitCode ≠ some 0 then
    .error s!"{collectorName}: {file} exited with {exitText output.exitCode}: {Text.trim output.stderr}"
  else .ok output.stdout

section

variable (sha256 : Bytes → String) (host : Host) (config : DirConfig) (registry : List RegistryEntry)
  (dir : CollectorDir)

/-- The scripts once more, and the second comparison with the registry. -/
def readScripts : Except String (Bytes × Bytes) :=
  let collectorName := dir.manifest.id
  match host.reread dir.dirPath .discover dir.manifest.discover with
  | .error e => .error s!"{collectorName}: failed to read discover script: {e}"
  | .ok discoverBytes =>
    match host.reread dir.dirPath .metrics dir.manifest.metrics with
    | .error e => .error s!"{collectorName}: failed to read metrics script: {e}"
    | .ok metricsBytes =>
      match registry.find? fun r =>
          r.id = dir.manifest.id ∧ r.version = dir.manifest.version ∧ r.enabled with
      | none =>
          .error s!"{collectorName}: registry entry (id={dir.manifest.id}, version={dir.manifest.version}) missing or disabled"
      | some entry =>
          if entry.discoverSha256 ≠ sha256 discoverBytes then
            .error s!"{collectorName}: discover.sh hash mismatch (registry={entry.discoverSha256}, local={sha256 discoverBytes})"
          else if entry.metricsSha256 ≠ sha256 metricsBytes then
            .error s!"{collectorName}: metrics.sh hash mismatch (registry={entry.metricsSha256}, local={sha256 metricsBytes})"
          else .ok (discoverBytes, metricsBytes)

def execution (script : Script) (bytes : Bytes) : Execution where
  id := dir.manifest.id
  version := dir.manifest.version
  script := script
  bytes := bytes
  run := host.run dir.dirPath script bytes

/-- The run of a script, with the limits of the configuration. -/
def Execution.output (record : Execution) : ScriptOutput :=
  executeScript record.run config.maxOutputBytes (64 * 1024)

/-- What a discovery is good for: an error, or devices to ask for metrics. An unavailable tool is an error
only if the collector gives a message. -/
def discovered (record : Execution) : Except (List String) DiscoveryResult :=
  match finished dir.manifest.id "discover.sh" (record.output config) with
  | .error e => .error [e]
  | .ok stdout =>
    match parseDiscovery stdout with
    | .error e => .error [s!"{dir.manifest.id}: discover parse error: {e}"]
    | .ok discovery =>
        if discovery.header.status = .notAvailable then
          .error (discovery.header.statusMessage.toList.map fun message =>
            s!"{dir.manifest.id}: {message}")
        else .ok discovery

def measured (record : Execution) : Except String MetricsResult :=
  match finished dir.manifest.id "metrics.sh" (record.output config) with
  | .error e => .error e
  | .ok stdout =>
    match parseMetrics host.bytesOfMb stdout with
    | .error e => .error s!"{dir.manifest.id}: metrics parse error: {e}"
    | .ok metrics => .ok metrics

def runScripts (scripts : Bytes × Bytes) : Visit :=
  let discover := execution host dir .discover scripts.1
  let metrics := execution host dir .metrics scripts.2
  match discovered config dir discover with
  | .error errors => { errors, executed := [discover] }
  | .ok discovery =>
    match measured host config dir metrics with
    | .error e => { errors := [e], executed := [discover, metrics] }
    | .ok sampled =>
        let merged := mergeIntoGpuMetrics discovery sampled dir.manifest.id
        { gpus := merged.1, errors := merged.2, executed := [discover, metrics] }

def visit : Visit :=
  match dir.checkEnabled config registry with
  | .allowed =>
      match readScripts sha256 host registry dir with
      | .error e => { errors := [e] }
      | .ok scripts => runScripts host config dir scripts
  | status => { errors := (dir.refusal status).toList }

end

def emptyRegistryError : String :=
  "collector registry is empty — no collectors will execute. Register collector hashes via the Web collector registry page."

def collectViaDirs (sha256 : Bytes → String) (host : Host) (config : DirConfig)
    (registry : List RegistryEntry) : Visit :=
  let dirs := scanCollectorDirs sha256 host config.root
  let start : Visit := { errors := if registry = [] ∧ dirs ≠ [] then [emptyRegistryError] else [] }
  dirs.foldl (fun soFar dir => soFar.append (visit sha256 host config registry dir)) start

def collectGpus (sha256 : Bytes → String) (host : Host) (config : CollectorConfig) : Visit :=
  match config.toDirConfig with
  | some dirConfig => collectViaDirs sha256 host dirConfig config.collectorRegistry
  | none =>
      { errors := ["gpu collector root is not configured; no GPU collectors executed"] }

/-! ### All visits together -/

theorem foldl_visits (visitOf : CollectorDir → Visit) (dirs : List CollectorDir) (start : Visit) :
    dirs.foldl (fun soFar dir => soFar.append (visitOf dir)) start
      = { gpus := start.gpus ++ dirs.flatMap fun dir => (visitOf dir).gpus
          errors := start.errors ++ dirs.flatMap fun dir => (visitOf dir).errors
          executed := start.executed ++ dirs.flatMap fun dir => (visitOf dir).executed } := by
  induction dirs generalizing start with
  | nil => simp
  | cons dir rest ih =>
      rw [List.foldl_cons, ih]
      simp [Visit.append]

theorem executed_collectViaDirs (sha256 : Bytes → String) (host : Host) (config : DirConfig)
    (registry : List RegistryEntry) :
    (collectViaDirs sha256 host config registry).executed
      = (scanCollectorDirs sha256 host config.root).flatMap fun dir =>
          (visit sha256 host config registry dir).executed := by
  simp [collectViaDirs, foldl_visits]

/-! ### What may run -/

section

variable {sha256 : Bytes → String} {host : Host} {config : DirConfig} {registry : List RegistryEntry}
  {dir : CollectorDir} {record : Execution}

theorem checkEnabled_allowed (hallowed : dir.checkEnabled config registry = .allowed) :
    dir.manifest.id ∉ config.disabled ∧
      (config.mode = .explicit → dir.manifest.id ∈ config.enabled) := by
  unfold CollectorDir.checkEnabled at hallowed
  by_cases hdisabled : dir.manifest.id ∈ config.disabled
  · rw [if_pos hdisabled] at hallowed
    cases hallowed
  · rw [if_neg hdisabled] at hallowed
    by_cases hlisted : config.mode = .explicit ∧ dir.manifest.id ∉ config.enabled
    · rw [if_pos hlisted] at hallowed
      cases hallowed
    · refine ⟨hdisabled, fun hexplicit => ?_⟩
      by_contra hnot
      exact hlisted ⟨hexplicit, hnot⟩

/-- The hash of a script as an entry has it. -/
def entryHash (entry : RegistryEntry) : Script → String
  | .discover => entry.discoverSha256
  | .metrics => entry.metricsSha256

/-- An enabled entry of the registry has the id, the version and the hash of the script. -/
def Registered (sha256 : Bytes → String) (registry : List RegistryEntry) (record : Execution) : Prop :=
  ∃ entry ∈ registry, entry.enabled = true ∧ entry.id = record.id ∧ entry.version = record.version ∧
    entryHash entry record.script = sha256 record.bytes

theorem readScripts_ok {scripts : Bytes × Bytes}
    (hread : readScripts sha256 host registry dir = .ok scripts) :
    ∃ entry ∈ registry, entry.enabled = true ∧ entry.id = dir.manifest.id ∧
      entry.version = dir.manifest.version ∧ entry.discoverSha256 = sha256 scripts.1 ∧
      entry.metricsSha256 = sha256 scripts.2 := by
  unfold readScripts at hread
  cases hdiscover : host.reread dir.dirPath .discover dir.manifest.discover with
  | error e =>
      simp only [hdiscover] at hread
      cases hread
  | ok discoverBytes =>
    cases hmetrics : host.reread dir.dirPath .metrics dir.manifest.metrics with
    | error e =>
        simp only [hdiscover, hmetrics] at hread
        cases hread
    | ok metricsBytes =>
      simp only [hdiscover, hmetrics] at hread
      cases hfound : registry.find? fun r =>
          r.id = dir.manifest.id ∧ r.version = dir.manifest.version ∧ r.enabled with
      | none =>
          simp only [hfound] at hread
          cases hread
      | some entry =>
        simp only [hfound] at hread
        have hentry : entry.id = dir.manifest.id ∧ entry.version = dir.manifest.version ∧
            entry.enabled := by
          simpa using List.find?_some hfound
        by_cases hfirst : entry.discoverSha256 ≠ sha256 discoverBytes
        · rw [if_pos hfirst] at hread
          cases hread
        · rw [if_neg hfirst] at hread
          by_cases hsecond : entry.metricsSha256 ≠ sha256 metricsBytes
          · rw [if_pos hsecond] at hread
            cases hread
          · rw [if_neg hsecond] at hread
            cases hread
            exact ⟨entry, List.mem_of_find?_eq_some hfound, hentry.2.2, hentry.1, hentry.2.1,
              not_not.mp hfirst, not_not.mp hsecond⟩

theorem mem_executed_runScripts {scripts : Bytes × Bytes}
    (hrecord : record ∈ (runScripts host config dir scripts).executed) :
    record = execution host dir .discover scripts.1 ∨ record = execution host dir .metrics scripts.2 := by
  unfold runScripts at hrecord
  cases hdiscover : discovered config dir (execution host dir .discover scripts.1) with
  | error errors =>
      simp only [hdiscover] at hrecord
      exact Or.inl (List.mem_singleton.mp hrecord)
  | ok discovery =>
    cases hmetrics : measured host config dir (execution host dir .metrics scripts.2) with
    | error e =>
        simp only [hdiscover, hmetrics] at hrecord
        simpa using hrecord
    | ok sampled =>
        simp only [hdiscover, hmetrics] at hrecord
        simpa using hrecord

/-- A visit runs scripts only of a collector that is allowed, and the ones that were read again. -/
theorem mem_executed_visit (hrecord : record ∈ (visit sha256 host config registry dir).executed) :
    dir.checkEnabled config registry = .allowed ∧
      ∃ scripts, readScripts sha256 host registry dir = .ok scripts ∧
        record ∈ (runScripts host config dir scripts).executed := by
  unfold visit at hrecord
  cases hstatus : dir.checkEnabled config registry with
  | allowed =>
      cases hread : readScripts sha256 host registry dir with
      | error e =>
          simp only [hstatus, hread] at hrecord
          cases hrecord
      | ok scripts =>
          simp only [hstatus, hread] at hrecord
          exact ⟨rfl, scripts, rfl, hrecord⟩
  | disabled | notListed | notRegistered | registryDisabled | discoverHashMismatch
  | metricsHashMismatch =>
      simp only [hstatus] at hrecord
      cases hrecord

theorem registered_of_visit (hrecord : record ∈ (visit sha256 host config registry dir).executed) :
    record.id ∉ config.disabled ∧ (config.mode = .explicit → record.id ∈ config.enabled) ∧
      Registered sha256 registry record := by
  obtain ⟨hallowed, scripts, hread, hrun⟩ := mem_executed_visit hrecord
  have hpolicy := checkEnabled_allowed hallowed
  obtain ⟨entry, hentry, henabled, hid, hversion, hdiscover, hmetrics⟩ := readScripts_ok hread
  rcases mem_executed_runScripts hrun with hrecord | hrecord
  · subst hrecord
    exact ⟨hpolicy.1, hpolicy.2, entry, hentry, henabled, hid, hversion, hdiscover⟩
  · subst hrecord
    exact ⟨hpolicy.1, hpolicy.2, entry, hentry, henabled, hid, hversion, hmetrics⟩

end

/-- Whatever becomes of the files, a script that runs has the hash of an enabled entry for its collector,
and the policy covers the collector. -/
theorem only_registered_scripts_run (sha256 : Bytes → String) (host : Host) (config : CollectorConfig) :
    ∀ record ∈ (collectGpus sha256 host config).executed,
      Registered sha256 config.collectorRegistry record ∧
        record.id ∉ config.collectorDisabled ∧
        (config.collectorMode = "auto" ∨ record.id ∈ config.collectorEnabled) := by
  intro record hrecord
  unfold collectGpus CollectorConfig.toDirConfig at hrecord
  cases hroot : config.collectorRoot with
  | none =>
      simp only [hroot, Option.map_none] at hrecord
      cases hrecord
  | some root =>
      simp only [hroot, Option.map_some] at hrecord
      rw [executed_collectViaDirs] at hrecord
      obtain ⟨dir, hdir, hrecord⟩ := List.mem_flatMap.mp hrecord
      obtain ⟨hdisabled, hlisted, hregistered⟩ := registered_of_visit hrecord
      refine ⟨hregistered, hdisabled, ?_⟩
      by_cases hauto : config.collectorMode = "auto"
      · exact Or.inl hauto
      · exact Or.inr (hlisted (if_neg hauto))

/-! ### A host with one collector -/

/-- The hash of no bytes. -/
def emptySha256 : String := "e3b0c44298fc1c149afbf4c8996fb92427ae41e4649b934ca495991b7852b855"

def nvidiaManifest : CollectorManifest where
  id := "nvidia"
  vendor := "nvidia"
  name := "NVIDIA"
  version := "1.0.0"
  discover := "discover.sh"
  metrics := "metrics.sh"

def nvidiaEntry : RegistryEntry where
  id := "nvidia"
  version := "1.0.0"
  discoverSha256 := emptySha256
  metricsSha256 := emptySha256
  enabled := true

/-- A host whose one collector has empty scripts, which end as given. -/
def nvidiaHost (run : Script → Option ShellRun) : Host where
  entries root := some [{ path := root ++ "/nvidia", fileName := some "nvidia" }]
  hasManifest _ := true
  manifest _ := .ok nvidiaManifest
  isFile _ _ _ := true
  scanned _ _ _ := .ok []
  reread _ _ _ := .ok []
  run _ script _ := run script
  bytesOfMb _ := none

def nvidiaConfig (registry : List RegistryEntry) : CollectorConfig where
  collectorRoot := some "gpu"
  collectorEnabled := ["nvidia"]
  collectorRegistry := registry

def discoverRun (run : Option ShellRun) : Execution where
  id := "nvidia"
  version := "1.0.0"
  script := .discover
  bytes := []
  run := run

theorem only_registered_scripts_run_example :
    discoverRun none ∈ (collectGpus (fun _ => emptySha256) (nvidiaHost fun _ => none)
        (nvidiaConfig [nvidiaEntry])).executed ∧
      Registered (fun _ => emptySha256) [nvidiaEntry] (discoverRun none) := by
  have hrun : discoverRun none ∈ (collectGpus (fun _ => emptySha256) (nvidiaHost fun _ => none)
      (nvidiaConfig [nvidiaEntry])).executed := by
    decide
  exact ⟨hrun, (only_registered_scripts_run _ _ _ _ hrun).1⟩

end LightAI.Collectors
