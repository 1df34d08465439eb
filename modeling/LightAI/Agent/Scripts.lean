import LightAI.Base.Text
import LightAI.Server.Nodes

/-!
# What collector scripts print

A script gets so much time and so many bytes of output. What is left of its output is read row by row: a
`STATUS` row counts for the whole, each `DEVICE` or `METRIC` row for one device.
-/

namespace LightAI.Collectors

open Nodes (GpuMetrics)

abbrev Bytes := List UInt8

/-! ### Running a script -/

/-- How the shell ends that a script is written to, with what it printed as text. -/
inductive ShellRun where
  | notSpawned (error : String)
  | notWritten
  | notAwaited (error : String)
  | exited (code : Option Int) (stdout stderr : String)
  deriving DecidableEq

structure ScriptOutput where
  stdout : String := ""
  stderr : String
  exitCode : Option Int := none
  timedOut : Bool := false
  deriving DecidableEq

/-- The longest beginning of whole characters that fits in so many bytes. -/
def takeBytes : Nat → List Char → List Char
  | _, [] => []
  | room, c :: rest => if c.utf8Size ≤ room then c :: takeBytes (room - c.utf8Size) rest else []

def truncateBytes (value : String) (maxBytes : Nat) : String :=
  if value.utf8ByteSize ≤ maxBytes then value
  else String.ofList (takeBytes maxBytes value.toList) ++ "\n[output truncated]"

def runScript (run : ShellRun) (maxStdoutBytes maxStderrBytes : Nat) : ScriptOutput :=
  match run with
  | .notSpawned error => { stderr := "failed to spawn collector script: " ++ error }
  | .notWritten => { stderr := "failed to write script to stdin" }
  | .notAwaited error => { stderr := "failed to wait for collector script: " ++ error }
  | .exited code stdout stderr =>
      { stdout := truncateBytes stdout maxStdoutBytes
        stderr := truncateBytes stderr maxStderrBytes
        exitCode := code }

/-- No run means that the time was up first. -/
def executeScript (run : Option ShellRun) (maxStdoutBytes maxStderrBytes : Nat) : ScriptOutput :=
  match run with
  | some run => runScript run maxStdoutBytes maxStderrBytes
  | none => { stderr := "collector script timed out", timedOut := true }

/-! ### Rows and columns -/

inductive CollectorStatus where
  | ok
  | notAvailable
  | partial_
  | error
  deriving DecidableEq

def CollectorStatus.parse : String → Option CollectorStatus
  | "ok" => some .ok
  | "not_available" => some .notAvailable
  | "partial" => some .partial_
  | "error" => some .error
  | _ => none

def emptyToOpt (value : String) : Option String :=
  if Text.trim value = "" then none else some (Text.trim value)

/-- `value.parse::<i64>()`. -/
def parseI64 (value : String) : Option Int :=
  let negative := value.toList.head? = some '-'
  let digits := match value.toList with
    | '-' :: rest => rest
    | '+' :: rest => rest
    | all => all
  if digits ≠ [] ∧ digits.all (fun c => '0'.toNat ≤ c.toNat && c.toNat ≤ '9'.toNat) then
    if negative then
      if Text.digitsValue digits ≤ 2 ^ 63 then some (-(Text.digitsValue digits : Int)) else none
    else
      if Text.digitsValue digits < 2 ^ 63 then some (Text.digitsValue digits : Int) else none
  else none

def parseOptI64 (value : String) : Option Int :=
  if Text.trim value = "" then none else parseI64 (Text.trim value)

def dropSign : List Char → List Char
  | '-' :: rest | '+' :: rest => rest
  | all => all

def areDigits (digits : List Char) : Bool := digits ≠ [] && digits.all Char.isDigit

/-- Digits, perhaps with a point before, among or after them. -/
def isMantissa (text : List Char) : Bool :=
  match text.dropWhile Char.isDigit with
  | [] => text ≠ []
  | '.' :: fraction => fraction.all Char.isDigit && text ≠ ['.']
  | _ => false

/-- `value.parse::<f64>().is_ok()`. -/
def isF64 (value : String) : Bool :=
  let body := (dropSign value.toList).map Char.toLower
  let exponent := body.dropWhile (· ≠ 'e')
  body = "inf".toList || body = "infinity".toList || body = "nan".toList
    || isMantissa (body.takeWhile (· ≠ 'e')) && (exponent = [] || areDigits (dropSign exponent.tail))

/-- A floating-point number is kept as the text that it is read from. -/
def parseOptF64 (value : String) : Option String :=
  if isF64 (Text.trim value) then some (Text.trim value) else none

/-- `line.trim_end_matches(['\r', '\n'])`. -/
def trimLineEnds (line : String) : String :=
  String.ofList (line.toList.reverse.dropWhile (fun c => c = '\r' || c = '\n')).reverse

def columns (line : String) : List String := (line.toList.splitOn '\t').map String.ofList

/-- The lines that are not empty, in columns. -/
def rows (tsv : String) : List (List String) :=
  (((Text.lines tsv).map trimLineEnds).filter (· ≠ "")).map columns

/-- What a `STATUS` row says. -/
structure Header where
  status : CollectorStatus
  vendor : Option String
  collector : Option String
  statusMessage : Option String
  deriving DecidableEq

def statusRow (cols : List String) : Except String Header :=
  match cols with
  | [_, schema, status, vendor, collector, message] =>
      if schema ≠ "1" then .error s!"unsupported schema_version '{schema}' in STATUS row"
      else
        match CollectorStatus.parse status with
        | none => .error s!"unknown collector status '{status}'"
        | some status =>
            .ok
              { status
                vendor := emptyToOpt vendor
                collector := emptyToOpt collector
                statusMessage := emptyToOpt message }
  | _ => .error s!"STATUS row must have 6 columns, got {cols.length}"

/-- The output as far as it has been read, with the keys of the devices that had a row. -/
structure Table (Row : Type) where
  header : Option Header := none
  entries : List Row := []
  seenKeys : List String := []

variable {Row : Type}

/-- One row of the output. `entry` gives the key of a row of the kind that counts, and the row unless the
row is skipped after all. -/
def Table.read (record : String) (entry : List String → Option (String × Option Row))
    (table : Table Row) (cols : List String) : Except String (Table Row) :=
  if cols.head? = some "STATUS" then
    match statusRow cols with
    | .ok header => .ok { table with header := some header }
    | .error message => .error message
  else if cols.head? = some record then
    match entry cols with
    | none => .ok table
    | some (key, row) =>
        if key ∈ table.seenKeys then .ok table
        else
          .ok
            { table with
              seenKeys := key :: table.seenKeys
              entries := table.entries ++ row.toList }
  else .ok table

/-- A whole output: its last `STATUS` row, and the rows that count. -/
structure Output (Row : Type) where
  header : Header
  entries : List Row

def parseOutput (record missing : String) (entry : List String → Option (String × Option Row))
    (tsv : String) : Except String (Output Row) :=
  match (rows tsv).foldlM (Table.read record entry) {} with
  | .error message => .error message
  | .ok table =>
      match table.header with
      | none => .error missing
      | some header => .ok { header, entries := table.entries }

/-! ### Discovery and metrics -/

structure DiscoveryDevice where
  deviceKey : String
  vendor : String
  index : Option Int
  name : String
  uuid : Option String
  pciBusId : Option String
  driverVersion : Option String
  message : Option String

def deviceEntry : List String → Option (String × Option DiscoveryDevice)
  | [_, schema, key, vendor, index, name, uuid, pciBusId, driverVersion, message] =>
      if schema ≠ "1" ∨ Text.trim key = "" then none
      else
        some (Text.trim key, some
          { deviceKey := Text.trim key
            vendor := Text.trim vendor
            index := parseOptI64 index
            name := Text.trim name
            uuid := emptyToOpt uuid
            pciBusId := emptyToOpt pciBusId
            driverVersion := emptyToOpt driverVersion
            message := emptyToOpt message })
  | _ => none

abbrev DiscoveryResult := Output DiscoveryDevice

def parseDiscovery : String → Except String DiscoveryResult :=
  parseOutput "DEVICE" "discovery output missing STATUS row" deviceEntry

structure MetricSample where
  deviceKey : String
  memoryTotalBytes : Option Int
  memoryUsedBytes : Option Int
  memoryFreeMb : Option String
  utilizationPercent : Option String
  memoryUtilizationPercent : Option String
  temperatureC : Option String
  powerW : Option String
  healthStatus : String
  message : Option String

/-- A row without a health status is skipped, but its key counts as seen. `bytesOfMb` is what the
floating-point arithmetic makes of a column. -/
def metricEntry (bytesOfMb : String → Option Int) : List String → Option (String × Option MetricSample)
  | [_, schema, key, memoryTotal, memoryUsed, memoryFree, utilization, memoryUtilization, temperature,
      power, healthStatus, message] =>
      if schema ≠ "1" ∨ Text.trim key = "" then none
      else
        some (Text.trim key,
          if Text.trim healthStatus = "" then none
          else some
            { deviceKey := Text.trim key
              memoryTotalBytes := bytesOfMb memoryTotal
              memoryUsedBytes := bytesOfMb memoryUsed
              memoryFreeMb := parseOptF64 memoryFree
              utilizationPercent := parseOptF64 utilization
              memoryUtilizationPercent := parseOptF64 memoryUtilization
              temperatureC := parseOptF64 temperature
              powerW := parseOptF64 power
              healthStatus := Text.trim healthStatus
              message := emptyToOpt message })
  | _ => none

abbrev MetricsResult := Output MetricSample

def parseMetrics (bytesOfMb : String → Option Int) : String → Except String MetricsResult :=
  parseOutput "METRIC" "metrics output missing STATUS row" (metricEntry bytesOfMb)

/-! ### Merging -/

/-- A device of the discovery, with what the metrics say of it. -/
def discoveredGpu (collectorName : String) (device : DiscoveryDevice) (metric : Option MetricSample) :
    GpuMetrics where
  gpuKey := device.deviceKey
  gpuIndex := device.index
  vendor := device.vendor
  name := device.name
  uuid := device.uuid
  driverVersion := device.driverVersion
  memoryTotalBytes := metric.bind (·.memoryTotalBytes)
  memoryUsedBytes := metric.bind (·.memoryUsedBytes)
  utilizationPercent := metric.bind (·.utilizationPercent)
  temperatureCelsius := metric.bind (·.temperatureC)
  powerWatts := metric.bind (·.powerW)
  collector := collectorName

def undiscoveredGpu (collectorName : String) (vendor : Option String) (metric : MetricSample) :
    GpuMetrics where
  gpuKey := metric.deviceKey
  vendor := vendor.getD "unknown"
  name := metric.deviceKey
  memoryTotalBytes := metric.memoryTotalBytes
  memoryUsedBytes := metric.memoryUsedBytes
  utilizationPercent := metric.utilizationPercent
  temperatureCelsius := metric.temperatureC
  powerWatts := metric.powerW
  collector := collectorName

/-- The samples whose device the discovery does not have. -/
def unmatched (discovery : DiscoveryResult) (metrics : MetricsResult) : List MetricSample :=
  let sample (device : DiscoveryDevice) := metrics.entries.find? (·.deviceKey = device.deviceKey)
  let matchedMetricKeys := discovery.entries.filterMap fun device => (sample device).map (·.deviceKey)
  metrics.entries.filter (·.deviceKey ∉ matchedMetricKeys)

/-- The devices, and an error for each that only the metrics have. -/
def mergeIntoGpuMetrics (discovery : DiscoveryResult) (metrics : MetricsResult)
    (collectorName : String) : List GpuMetrics × List String :=
  let sample (device : DiscoveryDevice) := metrics.entries.find? (·.deviceKey = device.deviceKey)
  let discovered := discovery.entries.map fun device => discoveredGpu collectorName device (sample device)
  let extra := unmatched discovery metrics
  (discovered ++ extra.map (undiscoveredGpu collectorName metrics.header.vendor),
    extra.map fun metric =>
      s!"device_key '{metric.deviceKey}' found in metrics but not in discovery for collector '{collectorName}'")

/-! ### The status of an output -/

/-- The status in the last `STATUS` row, as it is written. -/
def lastStatus (tsv : String) : Option String :=
  ((rows tsv).reverse.find? (·.head? = some "STATUS")).bind (·[2]?)

theorem Table.header_read {record : String} {entry : List String → Option (String × Option Row)}
    {table table' : Table Row} {cols : List String} (hread : table.read record entry cols = .ok table') :
    (cols.head? = some "STATUS" ∧ ∃ header, statusRow cols = .ok header ∧ table'.header = some header) ∨
      (cols.head? ≠ some "STATUS" ∧ table'.header = table.header) := by
  unfold Table.read at hread
  by_cases hstatus : cols.head? = some "STATUS"
  · rw [if_pos hstatus] at hread
    cases hrow : statusRow cols with
    | error message =>
        rw [hrow] at hread
        cases hread
    | ok header =>
        rw [hrow] at hread
        cases hread
        exact Or.inl ⟨hstatus, header, rfl, rfl⟩
  · rw [if_neg hstatus] at hread
    refine Or.inr ⟨hstatus, ?_⟩
    by_cases hrecord : cols.head? = some record
    · rw [if_pos hrecord] at hread
      cases hentry : entry cols with
      | none =>
          rw [hentry] at hread
          cases hread
          rfl
      | some found =>
          obtain ⟨key, row⟩ := found
          simp only [hentry] at hread
          by_cases hseen : key ∈ table.seenKeys
          · rw [if_pos hseen] at hread
            cases hread
            rfl
          · rw [if_neg hseen] at hread
            cases hread
            rfl
    · rw [if_neg hrecord] at hread
      cases hread
      rfl

theorem statusRow_ok {cols : List String} {header : Header} (hrow : statusRow cols = .ok header) :
    cols[2]?.bind CollectorStatus.parse = some header.status := by
  unfold statusRow at hrow
  split at hrow
  · rename_i first schema status vendor collector message
    by_cases hschema : schema ≠ "1"
    · rw [if_pos hschema] at hrow
      cases hrow
    · rw [if_neg hschema] at hrow
      cases hparse : CollectorStatus.parse status with
      | none =>
          rw [hparse] at hrow
          cases hrow
      | some parsed =>
          rw [hparse] at hrow
          cases hrow
          exact hparse
  · cases hrow

/-- What reading keeps: the status is that of the last `STATUS` row, if there was one. -/
theorem header_readAll {record : String} {entry : List String → Option (String × Option Row)} :
    ∀ (lines : List (List String)) {table table' : Table Row},
      lines.foldlM (Table.read record entry) table = .ok table' →
      table'.header.map (·.status)
        = ((lines.reverse.find? (·.head? = some "STATUS")).map fun cols =>
            cols[2]?.bind CollectorStatus.parse).getD (table.header.map (·.status)) := by
  intro lines
  induction lines with
  | nil =>
      intro table table' hread
      cases hread
      rfl
  | cons cols rest ih =>
      intro table table' hread
      rw [List.foldlM_cons] at hread
      cases hfirst : table.read record entry cols with
      | error message =>
          rw [hfirst] at hread
          cases hread
      | ok middle =>
          rw [hfirst] at hread
          rw [ih hread, List.reverse_cons, List.find?_append]
          cases hlast : rest.reverse.find? (·.head? = some "STATUS") with
          | some last => rfl
          | none =>
              rcases Table.header_read hfirst with ⟨hstatus, header, hrow, hheader⟩ | ⟨hstatus, hheader⟩
              · simp [hstatus, statusRow_ok hrow, hheader]
              · simp [hstatus, hheader]

/-- An output that is read has the status of its last `STATUS` row. -/
theorem status_parseOutput {record missing : String}
    {entry : List String → Option (String × Option Row)} {tsv : String} {output : Output Row}
    (hparse : parseOutput record missing entry tsv = .ok output) :
    (lastStatus tsv).bind CollectorStatus.parse = some output.header.status := by
  unfold parseOutput at hparse
  cases hread : (rows tsv).foldlM (Table.read record entry) {} with
  | error message =>
      rw [hread] at hparse
      cases hparse
  | ok table =>
      rw [hread] at hparse
      have hstatus := header_readAll (rows tsv) hread
      cases hheader : table.header with
      | none =>
          simp only [hheader] at hparse
          cases hparse
      | some header =>
          simp only [hheader] at hparse
          cases hparse
          rw [hheader] at hstatus
          unfold lastStatus
          cases hlast : (rows tsv).reverse.find? (·.head? = some "STATUS") with
          | none =>
              rw [hlast] at hstatus
              cases hstatus
          | some cols =>
              rw [hlast] at hstatus
              exact hstatus.symm

end LightAI.Collectors
