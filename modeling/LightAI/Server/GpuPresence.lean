import LightAI.Base.Trace
import LightAI.Base.Upsert
import LightAI.Server.Nodes

/-!
# Devices that a heartbeat does not name

A heartbeat without collector errors is to leave marked as missing exactly the devices of its node that it
does not name. What it marks is found by comparing times, and both times are the agent's.
-/

namespace LightAI.Nodes

def HeartbeatRequest.names (request : HeartbeatRequest) (gpuKey : String) : Prop :=
  gpuKey ∈ request.gpus.map (·.gpuKey)

/-- Among the devices of the node, those that the heartbeat names are not marked and all others are. -/
def PresenceExact (request : HeartbeatRequest) (db : NodesDb) : Prop :=
  ∀ row ∈ db.gpuStatus.rows, row.nodeId = request.nodeId →
    (row.status = some "missing" ↔ ¬ request.names row.gpuKey)

/-- Every device of the node that the heartbeat does not name is marked already, or was last written under
an earlier time than the heartbeat's. -/
def OthersEarlier (request : HeartbeatRequest) (db : NodesDb) : Prop :=
  ∀ row ∈ db.gpuStatus.rows, row.nodeId = request.nodeId → ¬ request.names row.gpuKey →
    row.status = some "missing" ∨ row.updatedAt < request.sampledAt

instance (request : HeartbeatRequest) (gpuKey : String) : Decidable (request.names gpuKey) :=
  inferInstanceAs (Decidable (gpuKey ∈ request.gpus.map (·.gpuKey)))

instance (request : HeartbeatRequest) (db : NodesDb) : Decidable (PresenceExact request db) :=
  inferInstanceAs (Decidable (∀ row ∈ db.gpuStatus.rows, row.nodeId = request.nodeId →
    (row.status = some "missing" ↔ ¬ request.names row.gpuKey)))

instance (request : HeartbeatRequest) (db : NodesDb) : Decidable (OthersEarlier request db) :=
  inferInstanceAs (Decidable (∀ row ∈ db.gpuStatus.rows, row.nodeId = request.nodeId →
    ¬ request.names row.gpuKey → row.status = some "missing" ∨ row.updatedAt < request.sampledAt))

/-! ### The samples -/

theorem find?_upsertGpuStatus (nodeId : String) (sampledAt : Int) (db : NodesDb) (gpu : GpuMetrics)
    (key : String × String) :
    (upsertGpuStatus nodeId sampledAt db gpu).gpuStatus.find? key
      = if key = (nodeId, gpu.gpuKey) then some (gpuRow nodeId sampledAt gpu)
        else db.gpuStatus.find? key := by
  refine Table.find?_upsert_of_replaces db.gpuStatus _ (fun row hkey => ?_) key
  obtain ⟨hnode, hgpu⟩ := Prod.mk.inj hkey
  simp only [GpuStatus.sampled]
  rw [hnode, hgpu]
  rfl

/-- A row after all samples: one of a device that was named, or one from before. -/
theorem find?_samples (nodeId : String) (sampledAt : Int) (gpus : List GpuMetrics) (db : NodesDb)
    (key : String × String) :
    (∃ gpu ∈ gpus, key = (nodeId, gpu.gpuKey) ∧
        (gpus.foldl (upsertGpuStatus nodeId sampledAt) db).gpuStatus.find? key
          = some (gpuRow nodeId sampledAt gpu)) ∨
      ((∀ gpu ∈ gpus, key ≠ (nodeId, gpu.gpuKey)) ∧
        (gpus.foldl (upsertGpuStatus nodeId sampledAt) db).gpuStatus.find? key
          = db.gpuStatus.find? key) := by
  induction gpus generalizing db with
  | nil => exact .inr ⟨by simp, rfl⟩
  | cons head gpus ih =>
      rw [List.foldl_cons]
      rcases ih (upsertGpuStatus nodeId sampledAt db head) with ⟨gpu, hgpu, hkey, hfind⟩ | ⟨hothers, hfind⟩
      · exact .inl ⟨gpu, List.mem_cons_of_mem head hgpu, hkey, hfind⟩
      · rw [find?_upsertGpuStatus] at hfind
        by_cases hkey : key = (nodeId, head.gpuKey)
        · rw [if_pos hkey] at hfind
          exact .inl ⟨head, List.mem_cons_self, hkey, hfind⟩
        · rw [if_neg hkey] at hfind
          refine .inr ⟨fun gpu hgpu => ?_, hfind⟩
          rcases List.mem_cons.mp hgpu with rfl | hgpu
          · exact hkey
          · exact hothers gpu hgpu

/-- A row after the samples of a heartbeat, of a device that it names. -/
theorem samples_of_named {request : HeartbeatRequest} {db : NodesDb} {row : GpuStatus}
    (hfind : (request.gpus.foldl (upsertGpuStatus request.nodeId request.sampledAt) db).gpuStatus.find?
      row.key = some row)
    (hnode : row.nodeId = request.nodeId) (hnamed : request.names row.gpuKey) :
    row.status = none ∧ row.updatedAt = request.sampledAt := by
  rcases find?_samples request.nodeId request.sampledAt request.gpus db row.key with
    ⟨gpu, -, -, hsampled⟩ | ⟨hothers, -⟩
  · have hrow : gpuRow request.nodeId request.sampledAt gpu = row :=
      Option.some.inj (hsampled.symm.trans hfind)
    rw [← hrow]
    exact ⟨rfl, rfl⟩
  · obtain ⟨gpu, hgpu, hkey⟩ := List.mem_map.mp hnamed
    refine absurd ?_ (hothers gpu hgpu)
    simp only [GpuStatus.key]
    rw [hnode, hkey]

/-- A device that the heartbeat does not name is as it was before. -/
theorem samples_of_not_named {request : HeartbeatRequest} {db : NodesDb} {gpuKey : String}
    (hnamed : ¬ request.names gpuKey) :
    (request.gpus.foldl (upsertGpuStatus request.nodeId request.sampledAt) db).gpuStatus.find?
        (request.nodeId, gpuKey)
      = db.gpuStatus.find? (request.nodeId, gpuKey) := by
  rcases find?_samples request.nodeId request.sampledAt request.gpus db (request.nodeId, gpuKey) with
    ⟨gpu, hgpu, hkey, -⟩ | ⟨-, hsame⟩
  · refine absurd ?_ hnamed
    rw [(Prod.mk.inj hkey).2]
    exact List.mem_map_of_mem hgpu
  · exact hsame

/-! ### The marks -/

/-- A row after a heartbeat without errors. -/
theorem find?_recordHeartbeat {request : HeartbeatRequest} (herrors : request.collectorErrors = [])
    (db : NodesDb) (key : String × String) :
    ∃ heard : NodesDb, heard.gpuStatus = db.gpuStatus ∧
      (recordHeartbeat request db).gpuStatus.find? key
        = ((request.gpus.foldl (upsertGpuStatus request.nodeId request.sampledAt) heard).gpuStatus.find?
            key).map fun row =>
          if row.nodeId = request.nodeId && row.updatedAt < request.sampledAt then
            row.missing request.sampledAt else row := by
  refine ⟨{ db with
    nodes := db.nodes.update request.nodeId (·.heard db.clock request.sampledAt)
      (Node.heard_id db.clock request.sampledAt) }, rfl, ?_⟩
  unfold recordHeartbeat
  rw [herrors]
  exact Table.find?_updateWhere _ _ _ (GpuStatus.missing_key request.sampledAt) key

theorem presenceExact_iff {request : HeartbeatRequest} (herrors : request.collectorErrors = [])
    (db : NodesDb) : PresenceExact request (recordHeartbeat request db) ↔ OthersEarlier request db := by
  constructor
  · intro hexact row hrow hnode hnamed
    obtain ⟨heard, hsame, hafter⟩ := find?_recordHeartbeat herrors db (request.nodeId, row.gpuKey)
    have hbefore : heard.gpuStatus.find? (request.nodeId, row.gpuKey) = some row := by
      rw [hsame, ← hnode]
      exact Table.find?_of_mem hrow
    rw [samples_of_not_named hnamed, hbefore] at hafter
    by_cases hearlier : row.updatedAt < request.sampledAt
    · exact .inr hearlier
    · have hkept : (recordHeartbeat request db).gpuStatus.find? (request.nodeId, row.gpuKey)
          = some row := by
        rw [hafter]
        simp [hearlier]
      exact .inl ((hexact row (Table.find?_mem hkept) hnode).mpr hnamed)
  · intro hearlier row hrow hnode
    obtain ⟨heard, hsame, hafter⟩ := find?_recordHeartbeat herrors db row.key
    rw [Table.find?_of_mem hrow] at hafter
    obtain ⟨sampled, hsampled, hmarked⟩ := Option.map_eq_some_iff.mp hafter.symm
    have hkey : sampled.key = row.key := Table.find?_key hsampled
    obtain ⟨hsampledNode, hsampledGpu⟩ := Prod.mk.inj hkey
    rw [hnode] at hsampledNode
    by_cases hnamed : request.names row.gpuKey
    · rw [← hkey] at hsampled
      rw [← hsampledGpu] at hnamed
      obtain ⟨hstatus, hupdated⟩ := samples_of_named hsampled hsampledNode hnamed
      have hrowSampled : sampled = row := by
        rw [← hmarked, hupdated]
        simp
      rw [← hrowSampled, hstatus]
      simp [hnamed]
    · have hbefore : db.gpuStatus.find? (request.nodeId, row.gpuKey) = some sampled := by
        have hrowKey : row.key = (request.nodeId, row.gpuKey) := by
          simp only [GpuStatus.key]
          rw [hnode]
        rw [← hsame, ← samples_of_not_named hnamed, ← hrowKey]
        exact hsampled
      have hstatus : row.status = some "missing" := by
        rcases hearlier sampled (Table.find?_mem hbefore) hsampledNode (hsampledGpu ▸ hnamed) with
          hmissing | hlt
        · rw [← hmarked]
          split
          · rfl
          · exact hmissing
        · rw [← hmarked]
          simp [hsampledNode, hlt, GpuStatus.missing]
      simp [hstatus, hnamed]

/-- In a run, the accepted heartbeats without errors that leave the marks exact are those whose other
devices are earlier. -/
theorem presence_exact_along_iff (auth : TokenHash) (db : NodesDb) (events : List Event) :
    Trace.Along (step auth)
        (fun db e => ∀ token request, e = .heartbeat token request → Accepted auth db token request →
          request.collectorErrors = [] → PresenceExact request (step auth db e)) db events ↔
      Trace.Along (step auth)
        (fun db e => ∀ token request, e = .heartbeat token request → Accepted auth db token request →
          request.collectorErrors = [] → OthersEarlier request db) db events := by
  have hstep : ∀ db e token request, e = Event.heartbeat token request →
      Accepted auth db token request → request.collectorErrors = [] →
        (PresenceExact request (step auth db e) ↔ OthersEarlier request db) := by
    rintro db e token request rfl haccepted herrors
    simp only [step, if_pos haccepted]
    exact presenceExact_iff herrors db
  constructor
  · intro h
    refine h.mono fun db e hexact token request he haccepted herrors => ?_
    exact (hstep db e token request he haccepted herrors).mp (hexact token request he haccepted herrors)
  · intro h
    refine h.mono fun db e hearlier token request he haccepted herrors => ?_
    exact (hstep db e token request he haccepted herrors).mpr (hearlier token request he haccepted herrors)

/-! A second heartbeat within the second of the first no longer names the device. -/

def gpuGone : NodesDb :=
  Trace.run (step plainTokens) { clock := 100 }
    [registerNodeA,
      .heartbeat "token"
        { nodeId := "node-1"
          sampledAt := 100
          gpus := [{ gpuKey := "nvidia:0", vendor := "nvidia", name := "A10", collector := "nvidia" }] }]

theorem gpu_gone_not_missing :
    Accepted plainTokens gpuGone "token" { nodeId := "node-1", sampledAt := 100 } ∧
      ¬ PresenceExact { nodeId := "node-1", sampledAt := 100 }
        (step plainTokens gpuGone (.heartbeat "token" { nodeId := "node-1", sampledAt := 100 })) := by
  decide

end LightAI.Nodes
