import LightAI.Agent.Collectors
import LightAI.Base.Upsert

/-!
# What the server and the agent take for a collector

The server registers the collectors of a directory tree, and the agent scans a tree of its own before it
runs any. Each has its own checks. Whatever the agent accepts the server registers, but the server also
registers backups, and manifests that the agent does not accept.
-/

namespace LightAI.Collectors

/-! ### The tree -/

/-- A value of a TOML file. The last constructor is for values that no field here takes. -/
inductive TomlValue where
  | str (value : String)
  | int (value : Int)
  | bool (value : Bool)
  | other
  deriving DecidableEq

/-- The keys of a TOML file with their values. -/
abbrev TomlTable := List (String × TomlValue)

/-- A root with its directories. Of a directory there is its `collector.toml`, if it is a regular file, and
then what the TOML library makes of it, and in the same way every other file. -/
structure CollectorsTree where
  entries : Option (List DirEntry)
  manifest : String → Option (Option TomlTable)
  file : String → String → Option (Option Bytes)

/-- A field of type `String`. -/
def requiredStr (table : TomlTable) (key : String) : Option String :=
  match table.lookup key with
  | some (.str value) => some value
  | _ => none

/-- A field with a default. -/
def defaulted {α : Type} (table : TomlTable) (key : String) (default_ : α) (parse : TomlValue → Option α) :
    Option α :=
  match table.lookup key with
  | none => some default_
  | some value => parse value

def TomlValue.asStr : TomlValue → Option String
  | .str value => some value
  | _ => none

def TomlValue.asBool : TomlValue → Option Bool
  | .bool value => some value
  | _ => none

def TomlValue.asU32 : TomlValue → Option Nat
  | .int value => if 0 ≤ value ∧ value < 2 ^ 32 then some value.toNat else none
  | _ => none

/-- The manifest as the agent reads it. -/
def CollectorManifest.fromToml (table : TomlTable) : Option CollectorManifest := do
  let id ← requiredStr table "id"
  let vendor ← requiredStr table "vendor"
  let name ← requiredStr table "name"
  let version ← requiredStr table "version"
  let _description ← defaulted table "description" "" TomlValue.asStr
  let discover ← requiredStr table "discover"
  let metrics ← requiredStr table "metrics"
  let _discoverSha256 ← defaulted table "discover_sha256" "" TomlValue.asStr
  let _metricsSha256 ← defaulted table "metrics_sha256" "" TomlValue.asStr
  let _enabled ← defaulted table "enabled" true TomlValue.asBool
  let priority ← defaulted table "priority" 100 TomlValue.asU32
  return { id, vendor, name, version, discover, metrics, priority }

/-- A host on which a scan finds the tree, whatever else it is. -/
def CollectorsTree.on (tree : CollectorsTree) (host : Host) : Host :=
  { host with
    entries := fun _ => tree.entries
    hasManifest := fun dir => (tree.manifest dir).isSome
    manifest := fun dir =>
      match (tree.manifest dir).join.bind CollectorManifest.fromToml with
      | none => .error s!"cannot read {dir}/collector.toml"
      | some manifest => .ok manifest
    isFile := fun dir _ name => (tree.file dir name).isSome
    scanned := fun dir _ name =>
      match (tree.file dir name).join with
      | none => .error s!"cannot read {dir}/{name}"
      | some bytes => .ok bytes }

end LightAI.Collectors

namespace LightAI.CollectorCli

open Collectors (Bytes DirEntry Host CollectorDir hasSeparator endsWith TomlValue TomlTable CollectorsTree requiredStr defaulted)

/-! ### The server -/

structure CollectorManifest where
  id : String
  vendor : String
  name : String
  version : String
  description : String
  discover : String
  metrics : String
  deriving DecidableEq

/-- `toml::from_str`. -/
def CollectorManifest.fromToml (table : TomlTable) : Option CollectorManifest := do
  let id ← requiredStr table "id"
  let vendor ← requiredStr table "vendor"
  let name ← requiredStr table "name"
  let version ← requiredStr table "version"
  let description ← defaulted table "description" "" TomlValue.asStr
  let discover ← requiredStr table "discover"
  let metrics ← requiredStr table "metrics"
  return { id, vendor, name, version, description, discover, metrics }

def validateManifest (manifest : CollectorManifest) : Except String CollectorManifest :=
  if manifest.id = "" then .error "id must not be empty"
  else if manifest.discover = "" then .error "discover must not be empty"
  else if manifest.metrics = "" then .error "metrics must not be empty"
  else if hasSeparator manifest.discover then .error "discover must be a filename, not a path"
  else if hasSeparator manifest.metrics then .error "metrics must be a filename, not a path"
  else .ok manifest

/-- A reason is given as its text where the text is the command's own and not a library's. -/
abbrev Reason := Option String

def readManifest (tree : CollectorsTree) (dir : String) : Except Reason CollectorManifest :=
  match tree.manifest dir with
  | none => .error (some s!"collector.toml not found in {dir}")
  | some content =>
      match content.bind CollectorManifest.fromToml with
      | none => .error none
      | some manifest => (validateManifest manifest).mapError some

/-- A row of `collector_registry`. -/
structure CollectorRow where
  id : String
  version : String
  vendor : String
  name : String
  description : String
  discoverSha256 : String
  metricsSha256 : String
  enabled : Bool
  createdAt : Int
  updatedAt : Int

def CollectorRow.key (row : CollectorRow) : String × String := (row.id, row.version)

abbrev Registry := Table (String × String) CollectorRow CollectorRow.key

/-- The `DO UPDATE` of an upsert. The row keeps its key, `enabled` and `created_at`. -/
def CollectorRow.update (excluded row : CollectorRow) : CollectorRow :=
  { row with
    vendor := excluded.vendor
    name := excluded.name
    description := excluded.description
    discoverSha256 := excluded.discoverSha256
    metricsSha256 := excluded.metricsSha256
    updatedAt := excluded.updatedAt }

theorem key_update (excluded row : CollectorRow) : (excluded.update row).key = row.key := rfl

/-- The id, the version and the two hashes of a collector. -/
structure Collector where
  id : String
  version : String
  discoverSha256 : String
  metricsSha256 : String
  deriving DecidableEq

inductive RegisterOutcome where
  | registered (collector : Collector)
  | updated (collector : Collector)
  | skipped (dir : String) (reason : Reason)

def RegisterOutcome.collector? : RegisterOutcome → Option Collector
  | .registered collector | .updated collector => some collector
  | .skipped .. => none

section

variable (sha256 : Bytes → String) (tree : CollectorsTree) (now : Int)

/-- `register_one` up to its first query: the manifest and the two hashes. -/
def hashCollector (dir : String) : Except Reason (CollectorManifest × Collector) := do
  let manifest ← readManifest tree dir
  match tree.file dir manifest.discover with
  | none => throw (some s!"discover script not found: {dir}/{manifest.discover}")
  | some discoverBytes =>
    match tree.file dir manifest.metrics with
    | none => throw (some s!"metrics script not found: {dir}/{manifest.metrics}")
    | some metricsBytes =>
      match discoverBytes, metricsBytes with
      | some discoverBytes, some metricsBytes =>
          return (manifest,
            { id := manifest.id
              version := manifest.version
              discoverSha256 := sha256 discoverBytes
              metricsSha256 := sha256 metricsBytes })
      | _, _ => throw none

def registerOne (dir : String) (registry : Registry) : RegisterOutcome × Registry :=
  match hashCollector sha256 tree dir with
  | .error reason => (.skipped dir reason, registry)
  | .ok (manifest, collector) =>
      let row : CollectorRow :=
        { id := collector.id
          version := collector.version
          vendor := manifest.vendor
          name := manifest.name
          description := manifest.description
          discoverSha256 := collector.discoverSha256
          metricsSha256 := collector.metricsSha256
          enabled := true
          createdAt := now
          updatedAt := now }
      let registry' := registry.upsert row row.update (key_update row)
      match registry.find? row.key with
      | none => (.registered collector, registry')
      | some _ => (.updated collector, registry')

def skippedName (name : String) : Bool :=
  Text.startsWith name "." || endsWith name "~" || endsWith name ".tmp"

/-- One round of the loop of `sync_root`. -/
def syncEntry (entry : DirEntry) (state : List RegisterOutcome × Registry) :
    List RegisterOutcome × Registry :=
  if !entry.isDir then state
  else if skippedName (entry.fileName.getD "") then state
  else if (tree.manifest entry.path).isNone then
    (state.1 ++ [.skipped entry.path (some "missing collector.toml")], state.2)
  else
    let done := registerOne sha256 tree now entry.path state.2
    (state.1 ++ [done.1], done.2)

def syncRoot (registry : Registry) : Except String (List RegisterOutcome × Registry) :=
  match tree.entries with
  | none => .error "cannot read collector root"
  | some entries => .ok (entries.foldl (fun state entry => syncEntry sha256 tree now entry state) ([], registry))

/-- The collectors that a synchronisation registers. -/
def registeredCollectors (registry : Registry) : List Collector :=
  match syncRoot sha256 tree now registry with
  | .error _ => []
  | .ok (outcomes, _) => outcomes.filterMap RegisterOutcome.collector?

end

/-! ### One directory -/

/-- A directory that the server registers. -/
structure Registers (sha256 : Bytes → String) (tree : CollectorsTree) (entry : DirEntry)
    (manifest : CollectorManifest) (collector : Collector) : Prop where
  isDir : entry.isDir = true
  kept : skippedName (entry.fileName.getD "") = false
  hashed : hashCollector sha256 tree entry.path = .ok (manifest, collector)

/-- A directory that passes the checks that server and agent share, with its manifest and its scripts. -/
structure Valid (tree : CollectorsTree) (entry : DirEntry) (manifest : CollectorManifest)
    (discoverBytes metricsBytes : Bytes) : Prop where
  isDir : entry.isDir = true
  kept : skippedName (entry.fileName.getD "") = false
  read : ∃ table, tree.manifest entry.path = some (some table) ∧
    CollectorManifest.fromToml table = some manifest
  checked : validateManifest manifest = .ok manifest
  discover : tree.file entry.path manifest.discover = some (some discoverBytes)
  metrics : tree.file entry.path manifest.metrics = some (some metricsBytes)

/-- The rules that only the agent has. -/
structure AgentRules (table : TomlTable) : Prop where
  vendor : requiredStr table "vendor" ≠ some ""
  name : requiredStr table "name" ≠ some ""
  version : requiredStr table "version" ≠ some ""
  discoverSha256 : (defaulted table "discover_sha256" "" TomlValue.asStr).isSome
  metricsSha256 : (defaulted table "metrics_sha256" "" TomlValue.asStr).isSome
  enabled : (defaulted table "enabled" true TomlValue.asBool).isSome
  priority : (defaulted table "priority" 100 TomlValue.asU32).isSome

/-- A directory that is no backup and whose manifest follows the rules that only the agent has. -/
def AgentTakes (tree : CollectorsTree) (entry : DirEntry) : Prop :=
  endsWith (entry.fileName.getD "") ".bak" = false ∧
    ∃ table, tree.manifest entry.path = some (some table) ∧ AgentRules table

/-- A check that refuses with an error, and what follows it. -/
theorem refused_eq_ok {ε α : Type} {p : Prop} [Decidable p] {e : ε} {rest : Except ε α} {value : α} :
    (if p then .error e else rest) = .ok value ↔ ¬ p ∧ rest = .ok value := by
  by_cases hp : p
  · simp [hp]
  · simp [hp]

theorem fromToml_eq_some {table : TomlTable} {manifest : CollectorManifest} :
    CollectorManifest.fromToml table = some manifest ↔
      requiredStr table "id" = some manifest.id ∧
      requiredStr table "vendor" = some manifest.vendor ∧
      requiredStr table "name" = some manifest.name ∧
      requiredStr table "version" = some manifest.version ∧
      defaulted table "description" "" TomlValue.asStr = some manifest.description ∧
      requiredStr table "discover" = some manifest.discover ∧
      requiredStr table "metrics" = some manifest.metrics := by
  obtain ⟨id, vendor, name, version, description, discover, metrics⟩ := manifest
  simp [CollectorManifest.fromToml, Option.bind_eq_some_iff]

theorem validateManifest_eq_ok {manifest manifest' : CollectorManifest} :
    validateManifest manifest = .ok manifest' ↔
      manifest' = manifest ∧ manifest.id ≠ "" ∧ manifest.discover ≠ "" ∧ manifest.metrics ≠ "" ∧
      hasSeparator manifest.discover = false ∧ hasSeparator manifest.metrics = false := by
  simp only [validateManifest, refused_eq_ok, Except.ok.injEq, Bool.not_eq_true, eq_comm (a := manifest)]
  tauto

theorem agent_validateManifest_eq_ok {manifest manifest' : Collectors.CollectorManifest} :
    Collectors.validateManifest manifest = .ok manifest' ↔
      manifest' = manifest ∧ manifest.id ≠ "" ∧ manifest.vendor ≠ "" ∧ manifest.name ≠ "" ∧
      manifest.version ≠ "" ∧ manifest.discover ≠ "" ∧ manifest.metrics ≠ "" ∧
      hasSeparator manifest.discover = false ∧ hasSeparator manifest.metrics = false := by
  simp only [Collectors.validateManifest, refused_eq_ok, Except.ok.injEq, Bool.not_eq_true,
    eq_comm (a := manifest)]
  tauto

theorem readManifest_eq_ok {tree : CollectorsTree} {dir : String} {manifest : CollectorManifest} :
    readManifest tree dir = .ok manifest ↔
      ∃ table, tree.manifest dir = some (some table) ∧
        CollectorManifest.fromToml table = some manifest ∧ validateManifest manifest = .ok manifest := by
  unfold readManifest
  rcases tree.manifest dir with _ | _ | table
  · simp
  · simp
  · cases hread : CollectorManifest.fromToml table with
    | none => simp [hread]
    | some read =>
        simp only [Option.bind_some, hread, Option.some.injEq, exists_eq_left']
        constructor
        · intro h
          cases hvalid : validateManifest read with
          | error e => simp [hvalid, Except.mapError] at h
          | ok valid =>
              rw [hvalid] at h
              have hsame : valid = manifest := by simpa [Except.mapError] using h
              have hread' := (validateManifest_eq_ok.mp hvalid).1
              subst hsame hread'
              exact ⟨rfl, hvalid⟩
        · rintro ⟨rfl, hvalid⟩
          rw [hvalid]
          rfl

theorem hashCollector_eq_ok {sha256 : Bytes → String} {tree : CollectorsTree} {dir : String}
    {manifest : CollectorManifest} {collector : Collector} :
    hashCollector sha256 tree dir = .ok (manifest, collector) ↔
      ∃ discoverBytes metricsBytes,
        readManifest tree dir = .ok manifest ∧
        tree.file dir manifest.discover = some (some discoverBytes) ∧
        tree.file dir manifest.metrics = some (some metricsBytes) ∧
        collector =
          { id := manifest.id
            version := manifest.version
            discoverSha256 := sha256 discoverBytes
            metricsSha256 := sha256 metricsBytes } := by
  unfold hashCollector
  cases hread : readManifest tree dir with
  | error e => simp [bind, Except.bind]
  | ok read =>
      simp only [bind, Except.bind, Except.ok.injEq]
      constructor
      · intro h
        split at h
        · simp [throw, throwThe, MonadExceptOf.throw] at h
        · rename_i discoverBytes hdiscover
          split at h
          · simp [throw, throwThe, MonadExceptOf.throw] at h
          · rename_i metricsBytes hmetrics
            rcases discoverBytes with _ | discoverBytes
            · simp [throw, throwThe, MonadExceptOf.throw] at h
            · rcases metricsBytes with _ | metricsBytes
              · simp [throw, throwThe, MonadExceptOf.throw] at h
              · simp only [pure, Except.pure, Except.ok.injEq, Prod.mk.injEq] at h
                obtain ⟨rfl, rfl⟩ := h
                exact ⟨discoverBytes, metricsBytes, rfl, hdiscover, hmetrics, rfl⟩
      · rintro ⟨discoverBytes, metricsBytes, rfl, hdiscover, hmetrics, rfl⟩
        simp [hdiscover, hmetrics, pure, Except.pure]

theorem agent_fromToml_eq_some {table : TomlTable} {manifest : Collectors.CollectorManifest} :
    Collectors.CollectorManifest.fromToml table = some manifest ↔
      requiredStr table "id" = some manifest.id ∧
      requiredStr table "vendor" = some manifest.vendor ∧
      requiredStr table "name" = some manifest.name ∧
      requiredStr table "version" = some manifest.version ∧
      (defaulted table "description" "" TomlValue.asStr).isSome ∧
      requiredStr table "discover" = some manifest.discover ∧
      requiredStr table "metrics" = some manifest.metrics ∧
      (defaulted table "discover_sha256" "" TomlValue.asStr).isSome ∧
      (defaulted table "metrics_sha256" "" TomlValue.asStr).isSome ∧
      (defaulted table "enabled" true TomlValue.asBool).isSome ∧
      defaulted table "priority" 100 TomlValue.asU32 = some manifest.priority := by
  obtain ⟨id, vendor, name, version, discover, metrics, priority⟩ := manifest
  simp only [Collectors.CollectorManifest.fromToml, Option.bind_eq_bind, Option.pure_def,
    Option.bind_eq_some_iff, Option.isSome_iff_exists, Option.some.injEq,
    Collectors.CollectorManifest.mk.injEq]
  constructor
  · rintro ⟨_, hid, _, hvendor, _, hname, _, hversion, description, hdescription, _, hdiscover, _, hmetrics,
      discoverSha256, hdiscoverSha256, metricsSha256, hmetricsSha256, enabled, henabled, _, hpriority,
      rfl, rfl, rfl, rfl, rfl, rfl, rfl⟩
    exact ⟨hid, hvendor, hname, hversion, ⟨description, hdescription⟩, hdiscover, hmetrics,
      ⟨discoverSha256, hdiscoverSha256⟩, ⟨metricsSha256, hmetricsSha256⟩, ⟨enabled, henabled⟩, hpriority⟩
  · rintro ⟨hid, hvendor, hname, hversion, ⟨description, hdescription⟩, hdiscover, hmetrics,
      ⟨discoverSha256, hdiscoverSha256⟩, ⟨metricsSha256, hmetricsSha256⟩, ⟨enabled, henabled⟩, hpriority⟩
    exact ⟨id, hid, vendor, hvendor, name, hname, version, hversion, description, hdescription, discover,
      hdiscover, metrics, hmetrics, discoverSha256, hdiscoverSha256, metricsSha256, hmetricsSha256, enabled,
      henabled, priority, hpriority, rfl, rfl, rfl, rfl, rfl, rfl, rfl⟩

/-- What the agent takes a directory for, under the registry's columns. -/
def ofDir (dir : CollectorDir) : Collector where
  id := dir.manifest.id
  version := dir.manifest.version
  discoverSha256 := dir.discoverSha256
  metricsSha256 := dir.metricsSha256

theorem toOption_eq_some {ε α : Type} {outcome : Except ε α} {value : α} :
    outcome.toOption = some value ↔ outcome = .ok value := by
  cases outcome <;> simp [Except.toOption]

theorem error_bind {ε α β : Type} (e : ε) (next : α → Except ε β) : (Except.error e >>= next) = .error e := rfl

theorem bind_eq_ok {ε α β : Type} {value : Except ε α} {next : α → Except ε β} {result : β} :
    (value >>= next) = .ok result ↔ ∃ a, value = .ok a ∧ next a = .ok result := by
  cases value with
  | error e => simp [bind, Except.bind]
  | ok a => simp [bind, Except.bind]

section

variable {tree : CollectorsTree} {host : Host} {path : String}

theorem manifest_on_eq_ok {manifest : Collectors.CollectorManifest} :
    (tree.on host).manifest path = .ok manifest ↔
      ∃ table, tree.manifest path = some (some table) ∧
        Collectors.CollectorManifest.fromToml table = some manifest := by
  simp only [CollectorsTree.on]
  rcases tree.manifest path with _ | _ | table
  · simp
  · simp
  · cases hread : Collectors.CollectorManifest.fromToml table with
    | none => simp [hread]
    | some read => simp [hread]

theorem scanned_on_eq_ok {script : Collectors.Script} {name : String} {bytes : Bytes} :
    (tree.on host).scanned path script name = .ok bytes ↔ tree.file path name = some (some bytes) := by
  simp only [CollectorsTree.on]
  rcases tree.file path name with _ | _ | found <;> simp

theorem fromDir_eq_ok {sha256 : Bytes → String} {dir : CollectorDir} :
    Collectors.fromDir sha256 (tree.on host) path = .ok dir ↔
      dir.dirPath = path ∧ ∃ table discoverBytes metricsBytes,
        tree.manifest path = some (some table) ∧
        Collectors.CollectorManifest.fromToml table = some dir.manifest ∧
        Collectors.validateManifest dir.manifest = .ok dir.manifest ∧
        tree.file path dir.manifest.discover = some (some discoverBytes) ∧
        tree.file path dir.manifest.metrics = some (some metricsBytes) ∧
        dir.discoverSha256 = sha256 discoverBytes ∧ dir.metricsSha256 = sha256 metricsBytes := by
  have hfile (script : Collectors.Script) (name : String) :
      (tree.on host).isFile path script name = (tree.file path name).isSome := rfl
  have hmanifest : (tree.on host).hasManifest path = (tree.manifest path).isSome := rfl
  simp only [Collectors.fromDir, throw, throwThe, MonadExceptOf.throw, error_bind, refused_eq_ok, bind_eq_ok,
    manifest_on_eq_ok, scanned_on_eq_ok, hfile, hmanifest, pure, Except.pure, Except.ok.injEq]
  constructor
  · rintro ⟨-, read, ⟨table, htable, hread⟩, valid, hvalid, -, -, discoverBytes, hdiscover, metricsBytes,
      hmetrics, rfl⟩
    have hsame : valid = read := (agent_validateManifest_eq_ok.mp hvalid).1
    subst hsame
    exact ⟨rfl, table, discoverBytes, metricsBytes, htable, hread, hvalid, hdiscover, hmetrics, rfl, rfl⟩
  · rintro ⟨rfl, table, discoverBytes, metricsBytes, htable, hread, hvalid, hdiscover, hmetrics, hd, hm⟩
    refine ⟨by simp [htable], dir.manifest, ⟨table, htable, hread⟩, dir.manifest, hvalid, by simp [hdiscover],
      by simp [hmetrics], discoverBytes, hdiscover, metricsBytes, hmetrics, ?_⟩
    rw [← hd, ← hm]

/-- In one directory the agent finds what the server finds, if the manifest follows its rules as well. -/
theorem ofDir_eq_iff {sha256 : Bytes → String} {collector : Collector} :
    (∃ dir, Collectors.fromDir sha256 (tree.on host) path = .ok dir ∧ ofDir dir = collector) ↔
      (∃ manifest, hashCollector sha256 tree path = .ok (manifest, collector)) ∧
        ∃ table, tree.manifest path = some (some table) ∧ AgentRules table := by
  simp only [fromDir_eq_ok, hashCollector_eq_ok, readManifest_eq_ok, agent_fromToml_eq_some, fromToml_eq_some,
    agent_validateManifest_eq_ok, validateManifest_eq_ok]
  constructor
  · rintro ⟨dir, ⟨-, table, discoverBytes, metricsBytes, htable, ⟨hid, hvendor, hname, hversion, hdescription,
      hdiscover, hmetrics, hdiscoverSha, hmetricsSha, henabled, hpriority⟩, ⟨-, hid', hvendor', hname',
      hversion', hdiscover', hmetrics', hsep, hsep'⟩, hfile, hfile', hsha, hsha'⟩, rfl⟩
    obtain ⟨description, hdescription⟩ := Option.isSome_iff_exists.mp hdescription
    refine ⟨⟨⟨dir.manifest.id, dir.manifest.vendor, dir.manifest.name, dir.manifest.version, description,
      dir.manifest.discover, dir.manifest.metrics⟩, discoverBytes, metricsBytes,
      ⟨table, htable, ⟨hid, hvendor, hname, hversion, hdescription, hdiscover, hmetrics⟩,
        ⟨trivial, hid', hdiscover', hmetrics', hsep, hsep'⟩⟩, hfile, hfile', ?_⟩, table, htable, ?_⟩
    · simp only [ofDir, hsha, hsha']
    · exact {
        vendor := by simpa [hvendor] using hvendor'
        name := by simpa [hname] using hname'
        version := by simpa [hversion] using hversion'
        discoverSha256 := hdiscoverSha
        metricsSha256 := hmetricsSha
        enabled := henabled
        priority := by simp [hpriority] }
  · rintro ⟨⟨manifest, discoverBytes, metricsBytes, ⟨table, htable, ⟨hid, hvendor, hname, hversion,
      hdescription, hdiscover, hmetrics⟩, ⟨-, hid', hdiscover', hmetrics', hsep, hsep'⟩⟩, hfile, hfile', rfl⟩,
      table', htable', hrules⟩
    obtain rfl : table = table' := by simpa [htable] using htable'
    obtain ⟨priority, hpriority⟩ := Option.isSome_iff_exists.mp hrules.priority
    refine ⟨⟨path, ⟨manifest.id, manifest.vendor, manifest.name, manifest.version, manifest.discover,
      manifest.metrics, priority⟩, sha256 discoverBytes, sha256 metricsBytes⟩, ⟨rfl, table, discoverBytes,
      metricsBytes, htable, ⟨hid, hvendor, hname, hversion, by simp [hdescription], hdiscover, hmetrics,
        hrules.discoverSha256, hrules.metricsSha256, hrules.enabled, hpriority⟩, ⟨trivial, hid', ?_, ?_, ?_,
        hdiscover', hmetrics', hsep, hsep'⟩, hfile, hfile', rfl, rfl⟩, rfl⟩
    · have := hrules.vendor
      rw [hvendor] at this
      simpa using this
    · have := hrules.name
      rw [hname] at this
      simpa using this
    · have := hrules.version
      rw [hversion] at this
      simpa using this

end

/-! ### A whole tree -/

section

variable {sha256 : Bytes → String} {tree : CollectorsTree}

/-- What one round of the loop registers. -/
theorem collector_registerOne (sha256 : Bytes → String) (tree : CollectorsTree) (dir : String) (now : Int)
    (registry : Registry) (collector : Collector) :
    (registerOne sha256 tree now dir registry).1.collector? = some collector ↔
      ∃ manifest, hashCollector sha256 tree dir = .ok (manifest, collector) := by
  unfold registerOne
  cases hhash : hashCollector sha256 tree dir with
  | error reason => simp [RegisterOutcome.collector?]
  | ok hashed =>
      obtain ⟨manifest, found⟩ := hashed
      simp only
      split <;> simp [RegisterOutcome.collector?]

theorem mem_syncEntry (entry : DirEntry) (now : Int) (state : List RegisterOutcome × Registry)
    (collector : Collector) :
    collector ∈ (syncEntry sha256 tree now entry state).1.filterMap RegisterOutcome.collector? ↔
      collector ∈ state.1.filterMap RegisterOutcome.collector? ∨
        ∃ manifest, Registers sha256 tree entry manifest collector := by
  unfold syncEntry
  by_cases hdir : entry.isDir = true
  · by_cases hkept : skippedName (entry.fileName.getD "") = true
    · have hnever : ¬ ∃ manifest, Registers sha256 tree entry manifest collector := by
        rintro ⟨manifest, hregisters⟩
        rw [hregisters.kept] at hkept
        exact Bool.false_ne_true hkept
      simp [hdir, hkept, hnever]
    · by_cases hmanifest : (tree.manifest entry.path).isNone = true
      · have hnever : ¬ ∃ manifest, Registers sha256 tree entry manifest collector := by
          rintro ⟨manifest, hregisters⟩
          obtain ⟨-, -, hread, -⟩ := hashCollector_eq_ok.mp hregisters.hashed
          obtain ⟨table, htable, -⟩ := readManifest_eq_ok.mp hread
          simp [htable] at hmanifest
        simp [hdir, hkept, hmanifest, hnever, RegisterOutcome.collector?]
      · have hround := collector_registerOne sha256 tree entry.path now state.2 collector
        have hregisters : (∃ manifest, Registers sha256 tree entry manifest collector) ↔
            ∃ manifest, hashCollector sha256 tree entry.path = .ok (manifest, collector) :=
          ⟨fun ⟨manifest, h⟩ => ⟨manifest, h.hashed⟩,
            fun ⟨manifest, h⟩ => ⟨manifest, hdir, by simpa using hkept, h⟩⟩
        rw [hregisters, ← hround]
        simp [hdir, hkept, hmanifest, List.filterMap_append, eq_comm]
  · have hnever : ¬ ∃ manifest, Registers sha256 tree entry manifest collector := by
      rintro ⟨manifest, hregisters⟩
      exact hdir hregisters.isDir
    simp [hdir, hnever]

theorem mem_foldl_syncEntry (entries : List DirEntry) (now : Int) (state : List RegisterOutcome × Registry)
    (collector : Collector) :
    collector ∈ (entries.foldl (fun state entry => syncEntry sha256 tree now entry state) state).1.filterMap
        RegisterOutcome.collector? ↔
      collector ∈ state.1.filterMap RegisterOutcome.collector? ∨
        ∃ entry ∈ entries, ∃ manifest, Registers sha256 tree entry manifest collector := by
  induction entries generalizing state with
  | nil => simp
  | cons entry rest ih =>
      rw [List.foldl_cons, ih, mem_syncEntry, or_assoc]
      simp only [List.mem_cons, exists_eq_or_imp]

theorem mem_registeredCollectors (now : Int) (registry : Registry) (collector : Collector) :
    collector ∈ registeredCollectors sha256 tree now registry ↔
      ∃ entry ∈ tree.entries.getD [], ∃ manifest, Registers sha256 tree entry manifest collector := by
  unfold registeredCollectors syncRoot
  cases hentries : tree.entries with
  | none => simp
  | some entries =>
      simp only [Option.getD_some]
      rw [mem_foldl_syncEntry]
      simp

/-- The collectors that a scan of the tree finds fit to run. -/
def acceptedCollectors (sha256 : Bytes → String) (tree : CollectorsTree) (host : Host) (root : String) :
    List Collector :=
  (Collectors.scanCollectorDirs sha256 (tree.on host) root).map ofDir

theorem mem_acceptedCollectors (host : Host) (root : String) (collector : Collector) :
    collector ∈ acceptedCollectors sha256 tree host root ↔
      ∃ entry ∈ tree.entries.getD [], AgentTakes tree entry ∧
        ∃ manifest, Registers sha256 tree entry manifest collector := by
  have hentries : (tree.on host).entries root = tree.entries := rfl
  have hskipped (name : String) :
      Collectors.skippedName name = false ↔ skippedName name = false ∧ endsWith name ".bak" = false := by
    simp [Collectors.skippedName, skippedName]
  simp only [acceptedCollectors, Collectors.scanCollectorDirs, hentries, List.mem_map, List.mem_insertionSort,
    List.mem_filterMap, List.mem_filter, Bool.and_eq_true, Bool.not_eq_true', hskipped, toOption_eq_some]
  constructor
  · rintro ⟨dir, ⟨entry, ⟨hmem, hdir, hkept, hbak⟩, hfrom⟩, hcollector⟩
    obtain ⟨⟨manifest, hhash⟩, hrules⟩ := ofDir_eq_iff.mp ⟨dir, hfrom, hcollector⟩
    exact ⟨entry, hmem, ⟨hbak, hrules⟩, manifest, hdir, hkept, hhash⟩
  · rintro ⟨entry, hmem, ⟨hbak, hrules⟩, manifest, hregisters⟩
    obtain ⟨dir, hfrom, hcollector⟩ := ofDir_eq_iff.mpr ⟨⟨manifest, hregisters.hashed⟩, hrules⟩
    exact ⟨dir, ⟨entry, ⟨hmem, hregisters.isDir, hregisters.kept, hbak⟩, hfrom⟩, hcollector⟩

/-- The server registers what the agent accepts, whatever the tree. -/
theorem accepted_subset_registered (now : Int) (registry : Registry) (host : Host) (root : String) :
    acceptedCollectors sha256 tree host root ⊆ registeredCollectors sha256 tree now registry := by
  intro collector hmem
  obtain ⟨entry, hentry, -, hregisters⟩ := (mem_acceptedCollectors host root collector).mp hmem
  exact (mem_registeredCollectors now registry collector).mpr ⟨entry, hentry, hregisters⟩

theorem exists_registers_iff {entry : DirEntry} {collector : Collector} :
    (∃ manifest, Registers sha256 tree entry manifest collector) ↔
      ∃ manifest discoverBytes metricsBytes, Valid tree entry manifest discoverBytes metricsBytes ∧
        collector =
          { id := manifest.id
            version := manifest.version
            discoverSha256 := sha256 discoverBytes
            metricsSha256 := sha256 metricsBytes } := by
  constructor
  · rintro ⟨manifest, hdir, hkept, hhash⟩
    obtain ⟨discoverBytes, metricsBytes, hread, hdiscover, hmetrics, hcollector⟩ := hashCollector_eq_ok.mp hhash
    obtain ⟨table, htable, hfrom, hchecked⟩ := readManifest_eq_ok.mp hread
    exact ⟨manifest, discoverBytes, metricsBytes,
      ⟨hdir, hkept, ⟨table, htable, hfrom⟩, hchecked, hdiscover, hmetrics⟩, hcollector⟩
  · rintro ⟨manifest, discoverBytes, metricsBytes, hvalid, hcollector⟩
    obtain ⟨table, htable, hfrom⟩ := hvalid.read
    have hread : readManifest tree entry.path = .ok manifest :=
      readManifest_eq_ok.mpr ⟨table, htable, hfrom, hvalid.checked⟩
    exact ⟨manifest, hvalid.isDir, hvalid.kept,
      hashCollector_eq_ok.mpr ⟨discoverBytes, metricsBytes, hread, hvalid.discover, hvalid.metrics, hcollector⟩⟩

end

/-- Server and agent have the same collectors exactly if every directory that only the server takes, because
it is a backup or breaks a rule that only the agent has, has another beside it that the agent takes, with
the same id, the same version and scripts of the same hashes. -/
theorem registered_eq_accepted_iff (sha256 : Bytes → String) (tree : CollectorsTree) (now : Int)
    (registry : Registry) (host : Host) (root : String) :
    {c | c ∈ registeredCollectors sha256 tree now registry}
        = {c | c ∈ acceptedCollectors sha256 tree host root} ↔
      ∀ entry ∈ tree.entries.getD [], ∀ manifest discoverBytes metricsBytes,
        Valid tree entry manifest discoverBytes metricsBytes → ¬ AgentTakes tree entry →
        ∃ twin ∈ tree.entries.getD [], ∃ manifest' discoverBytes' metricsBytes',
          Valid tree twin manifest' discoverBytes' metricsBytes' ∧ AgentTakes tree twin ∧
          manifest'.id = manifest.id ∧ manifest'.version = manifest.version ∧
          sha256 discoverBytes' = sha256 discoverBytes ∧ sha256 metricsBytes' = sha256 metricsBytes := by
  constructor
  · intro hsame entry hentry manifest discoverBytes metricsBytes hvalid _
    let collector : Collector :=
      { id := manifest.id
        version := manifest.version
        discoverSha256 := sha256 discoverBytes
        metricsSha256 := sha256 metricsBytes }
    have hregisters : ∃ manifest, Registers sha256 tree entry manifest collector :=
      exists_registers_iff.mpr ⟨manifest, discoverBytes, metricsBytes, hvalid, rfl⟩
    have hmem : collector ∈ {c | c ∈ registeredCollectors sha256 tree now registry} :=
      (mem_registeredCollectors now registry collector).mpr ⟨entry, hentry, hregisters⟩
    rw [hsame] at hmem
    obtain ⟨twin, htwin, htakes, hregisters'⟩ := (mem_acceptedCollectors host root collector).mp hmem
    obtain ⟨manifest', discoverBytes', metricsBytes', hvalid', hcollector⟩ :=
      exists_registers_iff.mp hregisters'
    simp only [collector, Collector.mk.injEq] at hcollector
    obtain ⟨hid, hversion, hdiscover, hmetrics⟩ := hcollector
    exact ⟨twin, htwin, manifest', discoverBytes', metricsBytes', hvalid', htakes, hid.symm, hversion.symm,
      hdiscover.symm, hmetrics.symm⟩
  · intro htwin
    ext collector
    constructor
    · intro hmem
      obtain ⟨entry, hentry, hregisters⟩ := (mem_registeredCollectors now registry collector).mp hmem
      refine (mem_acceptedCollectors host root collector).mpr ?_
      by_cases htakes : AgentTakes tree entry
      · exact ⟨entry, hentry, htakes, hregisters⟩
      · obtain ⟨manifest, discoverBytes, metricsBytes, hvalid, rfl⟩ := exists_registers_iff.mp hregisters
        obtain ⟨twin, hmemTwin, manifest', discoverBytes', metricsBytes', hvalid', htakes', hid, hversion,
          hdiscover, hmetrics⟩ := htwin entry hentry manifest discoverBytes metricsBytes hvalid htakes
        refine ⟨twin, hmemTwin, htakes', exists_registers_iff.mpr ⟨manifest', discoverBytes', metricsBytes',
          hvalid', ?_⟩⟩
        rw [hid, hversion, hdiscover, hmetrics]
    · intro hmem
      exact accepted_subset_registered now registry host root hmem

/-! ### A backup -/

/-- A root with a backup of a collector, and nothing else. -/
def backupTree : CollectorsTree where
  entries := some [{ path := "/gpu/nvidia.bak", fileName := some "nvidia.bak" }]
  manifest := fun dir =>
    if dir = "/gpu/nvidia.bak" then
      some (some [("id", .str "nvidia"), ("vendor", .str "nvidia"), ("name", .str "NVIDIA"),
        ("version", .str "1.0"), ("discover", .str "discover.sh"), ("metrics", .str "metrics.sh")])
    else none
  file := fun dir name =>
    if dir = "/gpu/nvidia.bak" ∧ (name = "discover.sh" ∨ name = "metrics.sh") then some (some []) else none

theorem registered_backupTree :
    (⟨"nvidia", "1.0", Collectors.emptySha256, Collectors.emptySha256⟩ : Collector) ∈
      registeredCollectors (fun _ => Collectors.emptySha256) backupTree 0 Table.empty := by
  refine (mem_registeredCollectors 0 Table.empty _).mpr
    ⟨_, List.mem_singleton_self _, ⟨"nvidia", "nvidia", "NVIDIA", "1.0", "", "discover.sh", "metrics.sh"⟩,
      rfl, ?_, ?_⟩
  · decide +kernel
  · decide +kernel

/-- The server registers the backup, and the agent does not take it. -/
theorem backup_registered_not_accepted :
    ¬ {c | c ∈ registeredCollectors (fun _ => Collectors.emptySha256) backupTree 0 Table.empty}
        = {c | c ∈ acceptedCollectors (fun _ => Collectors.emptySha256) backupTree
            (Collectors.nvidiaHost fun _ => none) "/gpu"} := by
  intro hsame
  have hmem := hsame.subset registered_backupTree
  obtain ⟨entry, hentry, htakes, -⟩ := (mem_acceptedCollectors _ "/gpu" _).mp hmem
  have hname : endsWith (entry.fileName.getD "") ".bak" = true := by
    rw [List.mem_singleton.mp hentry]
    decide +kernel
  rw [htakes.1] at hname
  exact Bool.false_ne_true hname

end LightAI.CollectorCli
