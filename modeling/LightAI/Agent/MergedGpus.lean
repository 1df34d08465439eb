import LightAI.Agent.ScriptRows

/-!
# The devices that discovery and metrics come to together

The discovered devices come first, each with what the metrics say of it, and then the devices that only
the metrics have, each with an error. Neither side has a key twice, so that nothing is lost or doubled.
-/

namespace LightAI.Collectors

open Keyed
open Nodes (GpuMetrics)

/-- The error for a device that only the metrics have. -/
def undiscoveredError (collectorName key : String) : String :=
  s!"device_key '{key}' found in metrics but not in discovery for collector '{collectorName}'"

/-- The columns of a device that the discovery gives. -/
def identifies (gpu : GpuMetrics) (device : DiscoveryDevice) : Prop :=
  gpu.gpuIndex = device.index ∧ gpu.vendor = device.vendor ∧ gpu.name = device.name ∧
    gpu.uuid = device.uuid ∧ gpu.driverVersion = device.driverVersion

/-- The columns of a device that the metrics give, if they have the device. -/
def measures (gpu : GpuMetrics) (metric : Option MetricSample) : Prop :=
  gpu.memoryTotalBytes = metric.bind (·.memoryTotalBytes) ∧
    gpu.memoryUsedBytes = metric.bind (·.memoryUsedBytes) ∧
    gpu.utilizationPercent = metric.bind (·.utilizationPercent) ∧
    gpu.temperatureCelsius = metric.bind (·.temperatureC) ∧ gpu.powerWatts = metric.bind (·.powerW)

/-- The devices and the errors are what the two outputs come to. -/
structure OrderedUnion (discovery : DiscoveryResult) (metrics : MetricsResult) (collectorName : String)
    (gpus : List GpuMetrics) (errors : List String) : Prop where
  nodup : (gpus.map (·.gpuKey)).Nodup
  keys : ∀ key, key ∈ gpus.map (·.gpuKey) ↔
    key ∈ discovery.entries.map (·.deviceKey) ∨ key ∈ metrics.entries.map (·.deviceKey)
  order : gpus.map (·.gpuKey) = discovery.entries.map (·.deviceKey) ++
    (metrics.entries.map (·.deviceKey)).filter (· ∉ discovery.entries.map (·.deviceKey))
  identified : ∀ gpu ∈ gpus, ∀ device ∈ discovery.entries, device.deviceKey = gpu.gpuKey →
    identifies gpu device
  unidentified : ∀ gpu ∈ gpus, gpu.gpuKey ∉ discovery.entries.map (·.deviceKey) →
    gpu.gpuIndex = none ∧ gpu.vendor = metrics.header.vendor.getD "unknown" ∧ gpu.name = gpu.gpuKey ∧
      gpu.uuid = none ∧ gpu.driverVersion = none
  measured : ∀ gpu ∈ gpus, ∀ metric ∈ metrics.entries, metric.deviceKey = gpu.gpuKey →
    measures gpu (some metric)
  unmeasured : ∀ gpu ∈ gpus, gpu.gpuKey ∉ metrics.entries.map (·.deviceKey) → measures gpu none
  collector : ∀ gpu ∈ gpus, gpu.collector = collectorName ∧ gpu.rawJson = none
  errors : errors = ((metrics.entries.map (·.deviceKey)).filter
    (· ∉ discovery.entries.map (·.deviceKey))).map (undiscoveredError collectorName)

section

variable {discovery : DiscoveryResult} {metrics : MetricsResult}

theorem nodup_discovered {tsv : String} (hparse : parseDiscovery tsv = .ok discovery) :
    (discovery.entries.map (·.deviceKey)).Nodup := by
  have hrecord : "DEVICE" ≠ "STATUS" := by decide
  rw [(parseOutput_ok hrecord hparse).2, filterMap_counted_deviceEntry]
  exact nodup_keys_firstOfEach _

theorem nodup_measured {bytesOfMb : String → Option Int} {tsv : String}
    (hparse : parseMetrics bytesOfMb tsv = .ok metrics) : (metrics.entries.map (·.deviceKey)).Nodup := by
  have hrecord : "METRIC" ≠ "STATUS" := by decide
  have hkeys : ∀ key sample,
      (key, some sample) ∈ (rows tsv).filterMap (counted "METRIC" (metricEntry bytesOfMb)) →
      sample.deviceKey = key := by
    intro key sample hmem
    obtain ⟨cols, -, hcounted⟩ := List.mem_filterMap.mp hmem
    exact (metricEntry_some_of_counted hcounted).2 sample rfl
  rw [(parseOutput_ok hrecord hparse).2, filterMap_firstOfEach hkeys]
  exact (nodup_keys_firstOfEach _).sublist (List.filter_sublist.map _)

/-- A metric is matched exactly if the discovery has its key. -/
theorem unmatched_eq (discovery : DiscoveryResult) (metrics : MetricsResult) :
    unmatched discovery metrics
      = metrics.entries.filter (·.deviceKey ∉ discovery.entries.map (·.deviceKey)) := by
  unfold unmatched
  apply List.filter_congr
  intro metric hmetric
  congr 1
  rw [eq_iff_iff, not_iff_not, List.mem_filterMap, List.mem_map]
  constructor
  · rintro ⟨device, hdevice, hkey⟩
    obtain ⟨found, hfound, hsame⟩ := Option.map_eq_some_iff.mp hkey
    have hmatches : found.deviceKey = device.deviceKey := by simpa using List.find?_some hfound
    exact ⟨device, hdevice, hmatches.symm.trans hsame⟩
  · rintro ⟨device, hdevice, hkey⟩
    obtain ⟨found, hfound⟩ : ∃ found,
        metrics.entries.find? (·.deviceKey = device.deviceKey) = some found :=
      Option.isSome_iff_exists.mp (List.find?_isSome.mpr ⟨metric, hmetric, by simp [hkey]⟩)
    have hmatches : found.deviceKey = device.deviceKey := by simpa using List.find?_some hfound
    exact ⟨device, hdevice, Option.map_eq_some_iff.mpr ⟨found, hfound, hmatches.trans hkey⟩⟩

theorem keys_unmatched (discovery : DiscoveryResult) (metrics : MetricsResult) :
    (unmatched discovery metrics).map (·.deviceKey)
      = (metrics.entries.map (·.deviceKey)).filter (· ∉ discovery.entries.map (·.deviceKey)) := by
  rw [unmatched_eq, List.filter_map]
  rfl

/-- A device of the union comes from the discovery or from the metrics alone. -/
theorem mem_merged {collectorName : String} {gpu : GpuMetrics}
    (hgpu : gpu ∈ (mergeIntoGpuMetrics discovery metrics collectorName).1) :
    (∃ device ∈ discovery.entries, gpu = discoveredGpu collectorName device
        (metrics.entries.find? (·.deviceKey = device.deviceKey))) ∨
      ∃ metric ∈ metrics.entries, metric.deviceKey ∉ discovery.entries.map (·.deviceKey) ∧
        gpu = undiscoveredGpu collectorName metrics.header.vendor metric := by
  unfold mergeIntoGpuMetrics at hgpu
  rw [List.mem_append] at hgpu
  rcases hgpu with hgpu | hgpu
  · obtain ⟨device, hdevice, rfl⟩ := List.mem_map.mp hgpu
    exact .inl ⟨device, hdevice, rfl⟩
  · obtain ⟨metric, hmetric, rfl⟩ := List.mem_map.mp hgpu
    rw [unmatched_eq, List.mem_filter, decide_eq_true_eq] at hmetric
    exact .inr ⟨metric, hmetric.1, hmetric.2, rfl⟩

theorem keys_merged (collectorName : String) :
    (mergeIntoGpuMetrics discovery metrics collectorName).1.map (·.gpuKey)
      = discovery.entries.map (·.deviceKey) ++
        (metrics.entries.map (·.deviceKey)).filter (· ∉ discovery.entries.map (·.deviceKey)) := by
  rw [← keys_unmatched]
  unfold mergeIntoGpuMetrics
  rw [List.map_append, List.map_map, List.map_map]
  rfl

/-- The columns that the metrics give are those of the metric of the same key. -/
theorem measures_merged (hnodup : (metrics.entries.map (·.deviceKey)).Nodup) {collectorName : String}
    {gpu : GpuMetrics} (hgpu : gpu ∈ (mergeIntoGpuMetrics discovery metrics collectorName).1) :
    measures gpu (metrics.entries.find? (·.deviceKey = gpu.gpuKey)) := by
  rcases mem_merged hgpu with ⟨device, -, rfl⟩ | ⟨metric, hmetric, -, rfl⟩
  · exact ⟨rfl, rfl, rfl, rfl, rfl⟩
  · have hfound := find?_of_nodup_keys hnodup hmetric
    have hkey : (undiscoveredGpu collectorName metrics.header.vendor metric).gpuKey
        = metric.deviceKey := rfl
    rw [hkey, hfound]
    exact ⟨rfl, rfl, rfl, rfl, rfl⟩

/-- The devices of two outputs that have been read are their ordered union. -/
theorem merged_ordered_union {discoveryTsv metricsTsv : String} {bytesOfMb : String → Option Int}
    (hdiscovery : parseDiscovery discoveryTsv = .ok discovery)
    (hmetrics : parseMetrics bytesOfMb metricsTsv = .ok metrics) (collectorName : String) :
    OrderedUnion discovery metrics collectorName
      (mergeIntoGpuMetrics discovery metrics collectorName).1
      (mergeIntoGpuMetrics discovery metrics collectorName).2 := by
  have hdiscovered := nodup_discovered hdiscovery
  have hmeasured := nodup_measured hmetrics
  refine ⟨?_, ?_, keys_merged collectorName, ?_, ?_, ?_, ?_, ?_, ?_⟩
  · rw [keys_merged]
    refine List.Nodup.append hdiscovered (hmeasured.filter _) ?_
    intro key hkey hother
    exact absurd hkey (by simpa using (List.mem_filter.mp hother).2)
  · intro key
    rw [keys_merged, List.mem_append, List.mem_filter, decide_eq_true_eq]
    by_cases hkey : key ∈ discovery.entries.map (·.deviceKey)
    · exact iff_of_true (.inl hkey) (.inl hkey)
    · exact ⟨fun h => h.imp_right And.left, fun h => h.imp_right fun hmem => ⟨hmem, hkey⟩⟩
  · intro gpu hgpu device hdevice hkey
    rcases mem_merged hgpu with ⟨other, hother, rfl⟩ | ⟨metric, -, hnot, rfl⟩
    · obtain rfl : device = other := List.inj_on_of_nodup_map hdiscovered hdevice hother hkey
      exact ⟨rfl, rfl, rfl, rfl, rfl⟩
    · exact absurd (List.mem_map.mpr ⟨device, hdevice, hkey⟩) hnot
  · intro gpu hgpu hnot
    rcases mem_merged hgpu with ⟨device, hdevice, rfl⟩ | ⟨metric, -, -, rfl⟩
    · exact absurd (List.mem_map_of_mem hdevice) hnot
    · exact ⟨rfl, rfl, rfl, rfl, rfl⟩
  · intro gpu hgpu metric hmetric hkey
    have hcolumns := measures_merged hmeasured hgpu
    rw [← hkey, find?_of_nodup_keys hmeasured hmetric] at hcolumns
    exact hcolumns
  · intro gpu hgpu hnot
    have hcolumns := measures_merged hmeasured hgpu
    have hnone : metrics.entries.find? (·.deviceKey = gpu.gpuKey) = none := by
      rw [List.find?_eq_none]
      intro metric hmetric hkey
      exact hnot (List.mem_map.mpr ⟨metric, hmetric, by simpa using hkey⟩)
    rw [hnone] at hcolumns
    exact hcolumns
  · intro gpu hgpu
    rcases mem_merged hgpu with ⟨device, -, rfl⟩ | ⟨metric, -, -, rfl⟩ <;> exact ⟨rfl, rfl⟩
  · rw [← keys_unmatched, List.map_map]
    rfl

end

def discoveredTsv : String :=
  "STATUS\t1\tok\tnvidia\tnvidia-r535\t\nDEVICE\t1\tgpu-0\tnvidia\t0\tA10\t\t\t\t\n"

/-- A discovery of one device, and metrics of another. -/
theorem merged_ordered_union_example :
    ∃ discovery metrics, parseDiscovery discoveredTsv = .ok discovery ∧
      parseMetrics (fun _ => none) healthyTsv = .ok metrics ∧
      OrderedUnion discovery metrics "nvidia-r535"
        (mergeIntoGpuMetrics discovery metrics "nvidia-r535").1
        (mergeIntoGpuMetrics discovery metrics "nvidia-r535").2 := by
  obtain ⟨discovery, hdiscovery⟩ : ∃ discovery, parseDiscovery discoveredTsv = .ok discovery := ⟨_, rfl⟩
  obtain ⟨metrics, hmetrics⟩ : ∃ metrics, parseMetrics (fun _ => none) healthyTsv = .ok metrics := ⟨_, rfl⟩
  exact ⟨discovery, metrics, hdiscovery, hmetrics, merged_ordered_union hdiscovery hmetrics "nvidia-r535"⟩

end LightAI.Collectors
