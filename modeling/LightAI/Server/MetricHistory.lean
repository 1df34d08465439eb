import LightAI.Base.Interleaving
import LightAI.Base.PrunedLog
import LightAI.Server.Nodes

/-!
# The history of the metrics

Every heartbeat stores a sample of its node and one of each device, with the time that the
agent gives. A cleanup reads the clock of the server and deletes old samples from the one table and then
from the other, whatever comes in between. The answers to queries are exactly what has been recorded in the
span and not been deleted since, and as long as a span does not go back beyond the days of retention nothing
in it has been deleted.
-/

namespace LightAI.MetricHistory

open Interleaving PrunedLog
open Nodes (GpuMetrics HeartbeatRequest NodesDb RegisterRequest TokenHash)

/-! ### Samples -/

structure NodeMetrics where
  cpuUsagePercent : Option String := none
  memoryTotalBytes : Option Int := none
  memoryUsedBytes : Option Int := none
  diskTotalBytes : Option Int := none
  diskUsedBytes : Option Int := none
  deriving DecidableEq

structure NodeMetricSample where
  sampledAt : Int
  metrics : NodeMetrics
  deriving DecidableEq

structure GpuMetricSample where
  sampledAt : Int
  vendor : String
  memoryTotalBytes : Option Int
  memoryUsedBytes : Option Int
  utilizationPercent : Option String
  temperatureCelsius : Option String
  powerWatts : Option String
  deriving DecidableEq

/-- A row of `node_metric_samples` (with the id of its node) or of `gpu_metric_samples` (with the key of the
device as well). -/
structure MetricRow (κ σ : Type) where
  key : κ
  sample : σ
  deriving DecidableEq

abbrev NodeMetricRow := MetricRow String NodeMetricSample

abbrev GpuMetricRow := MetricRow (String × String) GpuMetricSample

def NodeMetricRow.sampledAt (row : NodeMetricRow) : Int := row.sample.sampledAt

def GpuMetricRow.sampledAt (row : GpuMetricRow) : Int := row.sample.sampledAt

structure HistoryDb where
  nodes : NodesDb
  nodeMetricSamples : List NodeMetricRow := []
  gpuMetricSamples : List GpuMetricRow := []

def nodeRow (request : HeartbeatRequest) (metrics : NodeMetrics) : NodeMetricRow where
  key := request.nodeId
  sample := { sampledAt := request.sampledAt, metrics }

/-- The row of `insert_gpu_sample`. -/
def gpuRow (request : HeartbeatRequest) (gpu : GpuMetrics) : GpuMetricRow where
  key := (request.nodeId, gpu.gpuKey)
  sample :=
    { sampledAt := request.sampledAt
      vendor := gpu.vendor
      memoryTotalBytes := gpu.memoryTotalBytes
      memoryUsedBytes := gpu.memoryUsedBytes
      utilizationPercent := gpu.utilizationPercent
      temperatureCelsius := gpu.temperatureCelsius
      powerWatts := gpu.powerWatts }

/-! ### Heartbeats and cleanups -/

/-- What happens beside the cleanups. A heartbeat is its transaction, whenever its token was looked at. -/
inductive Environment where
  | tick (clock : Int)
  | register (request : RegisterRequest) (token newId : String)
  | heartbeat (request : HeartbeatRequest) (metrics : NodeMetrics)

def recordHeartbeat (request : HeartbeatRequest) (metrics : NodeMetrics) (db : HistoryDb) : HistoryDb where
  nodes := Nodes.recordHeartbeat request db.nodes
  nodeMetricSamples := db.nodeMetricSamples ++ [nodeRow request metrics]
  gpuMetricSamples := db.gpuMetricSamples ++ request.gpus.map (gpuRow request)

/-- The rows refer to the node, without which the transaction fails. -/
def Known (db : HistoryDb) (request : HeartbeatRequest) : Prop :=
  (db.nodes.nodes.find? request.nodeId).isSome = true

instance (db : HistoryDb) (request : HeartbeatRequest) : Decidable (Known db request) :=
  inferInstanceAs (Decidable ((db.nodes.nodes.find? request.nodeId).isSome = true))

def Environment.act (auth : TokenHash) : Environment → HistoryDb → HistoryDb
  | tick clock, db => { db with nodes := Nodes.step auth db.nodes (.tick clock) }
  | register request token newId, db =>
      { db with nodes := Nodes.step auth db.nodes (.register request token newId) }
  | heartbeat request metrics, db =>
      if Known db request then recordHeartbeat request metrics db else db

inductive Stmt where
  | nowUnixSecs
  | deleteNodeSamples (cutoff : Int)
  | deleteGpuSamples (cutoff : Int)
  deriving DecidableEq

abbrev Stmt.Answer : Stmt → Type
  | nowUnixSecs => Int
  | deleteNodeSamples _ => Nat
  | deleteGpuSamples _ => Nat

/-- A `DELETE` answers with the number of rows that it takes away. -/
def Stmt.exec : (stmt : Stmt) → HistoryDb → stmt.Answer × HistoryDb
  | nowUnixSecs, db => (db.nodes.clock, db)
  | deleteNodeSamples cutoff, db =>
      (db.nodeMetricSamples.countP (·.sampledAt < cutoff),
        { db with nodeMetricSamples := db.nodeMetricSamples.filter fun row => !(row.sampledAt < cutoff) })
  | deleteGpuSamples cutoff, db =>
      (db.gpuMetricSamples.countP (·.sampledAt < cutoff),
        { db with gpuMetricSamples := db.gpuMetricSamples.filter fun row => !(row.sampledAt < cutoff) })

abbrev Code := Program Stmt Stmt.Answer

def cleanupHistoricalMetrics (retentionDays : Nat) : Code Nat := do
  let now : Int ← .perform Stmt.nowUnixSecs
  let cutoff := now - retentionDays * 86400
  let nodeDeleted : Nat ← .perform (Stmt.deleteNodeSamples cutoff)
  let gpuDeleted : Nat ← .perform (Stmt.deleteGpuSamples cutoff)
  pure (nodeDeleted + gpuDeleted)

/-- A request is a cleanup, with the days of retention. -/
def server (auth : TokenHash) : System Nat Environment Stmt Stmt.Answer HistoryDb Nat where
  handle := cleanupHistoricalMetrics
  exec := Stmt.exec
  act := Environment.act auth

abbrev Server := Config Nat Stmt Stmt.Answer HistoryDb Nat

def start (clock : Int) : Server := ⟨{ nodes := { clock } }, []⟩

/-! ### Queries -/

structure MetricSamplesResponse (κ σ : Type) where
  key : κ
  requestedFrom : Int
  requestedTo : Int
  actualFrom : Option Int
  actualTo : Option Int
  sampleCount : Nat
  samples : List σ

/-- The answer for a key, from a table whose rows have these times. -/
def respond {κ σ : Type} [DecidableEq κ] (time : σ → Int) (key : κ) (earliest latest : Int)
    (table : List (MetricRow κ σ)) : MetricSamplesResponse κ σ :=
  let rows := window (fun row => time row.sample) (fun row => row.key = key) earliest latest table
  let samples := rows.map (·.sample)
  { key
    requestedFrom := earliest
    requestedTo := latest
    actualFrom := (range (samples.map time)).1
    actualTo := (range (samples.map time)).2
    sampleCount := samples.length
    samples }

def nodeMetricSamples (db : HistoryDb) (nodeId : String) (earliest latest : Int) :
    MetricSamplesResponse String NodeMetricSample :=
  respond (·.sampledAt) nodeId earliest latest db.nodeMetricSamples

def gpuMetricSamples (db : HistoryDb) (nodeId gpuKey : String) (earliest latest : Int) :
    MetricSamplesResponse (String × String) GpuMetricSample :=
  respond (·.sampledAt) (nodeId, gpuKey) earliest latest db.gpuMetricSamples

/-- The window of a request, with its defaults. -/
def timeWindow (now : Int) (earliest latest : Option Int) : Int × Int :=
  let last := latest.getD now
  (earliest.getD (last - 3600), last)

/-! ### The two tables alike -/

/-- A table of samples: the rows that a heartbeat stores in it, and the cutoff with which a statement deletes
from it. -/
structure SampleTable (κ σ : Type) where
  rows : HistoryDb → List (MetricRow κ σ)
  time : σ → Int
  stored : HeartbeatRequest → NodeMetrics → List (MetricRow κ σ)
  cutoff : Stmt → Option Int
  cutoff_eq : ∀ stmt limit, cutoff stmt = some limit →
    stmt = .deleteNodeSamples limit ∨ stmt = .deleteGpuSamples limit
  rows_empty : ∀ nodes : NodesDb, rows { nodes } = []
  rows_nodes : ∀ (db : HistoryDb) (nodes : NodesDb), rows { db with nodes } = rows db
  rows_recordHeartbeat : ∀ request metrics db,
    rows (recordHeartbeat request metrics db) = rows db ++ stored request metrics
  rows_exec : ∀ (stmt : Stmt) db,
    rows (stmt.exec db).2 = (rows db).filter fun row => !(cutoff stmt).any (time row.sample < ·)

theorem filter_kept {ρ : Type} {removed : ρ → Bool} {rows : List ρ} (hnone : ∀ row, removed row = false) :
    rows.filter (fun row => !removed row) = rows := by
  rw [List.filter_eq_self]
  intro row _
  rw [hnone]
  rfl

def nodeTable : SampleTable String NodeMetricSample where
  rows := (·.nodeMetricSamples)
  time := (·.sampledAt)
  stored request metrics := [nodeRow request metrics]
  cutoff
    | .deleteNodeSamples cutoff => some cutoff
    | _ => none
  cutoff_eq stmt limit hcutoff := by
    cases stmt with
    | deleteNodeSamples cutoff => exact Or.inl (congrArg _ (Option.some.inj hcutoff))
    | _ => cases hcutoff
  rows_empty _ := rfl
  rows_nodes _ _ := rfl
  rows_recordHeartbeat _ _ _ := rfl
  rows_exec stmt db := by
    cases stmt with
    | deleteNodeSamples cutoff => rfl
    | _ => exact (filter_kept fun _ => rfl).symm

def gpuTable : SampleTable (String × String) GpuMetricSample where
  rows := (·.gpuMetricSamples)
  time := (·.sampledAt)
  stored request _ := request.gpus.map (gpuRow request)
  cutoff
    | .deleteGpuSamples cutoff => some cutoff
    | _ => none
  cutoff_eq stmt limit hcutoff := by
    cases stmt with
    | deleteGpuSamples cutoff => exact Or.inr (congrArg _ (Option.some.inj hcutoff))
    | _ => cases hcutoff
  rows_empty _ := rfl
  rows_nodes _ _ := rfl
  rows_recordHeartbeat _ _ _ := rfl
  rows_exec stmt db := by
    cases stmt with
    | deleteGpuSamples cutoff => rfl
    | _ => exact (filter_kept fun _ => rfl).symm

section Tables

variable {κ σ : Type} (table : SampleTable κ σ) (auth : TokenHash)

/-- The rows that an event stores in the table. -/
def SampleTable.stores (c : Server) : Event Nat Environment → List (MetricRow κ σ)
  | .env (.heartbeat request metrics) =>
      if Known c.shared request then table.stored request metrics else []
  | _ => []

/-- The event deletes such a row from the table. -/
def SampleTable.deletes (c : Server) (e : Event Nat Environment) (row : MetricRow κ σ) : Bool :=
  (System.performed c e).any fun performed =>
    (table.cutoff performed.2).any (table.time row.sample < ·)

variable {table} {auth}

/-- A step of a cleanup is one of its statements, or nothing. -/
theorem shared_step (c : Server) (index : Nat) :
    (System.performed c (.step index : Event Nat Environment) = none ∧
        ((server auth).apply c (.step index)).shared = c.shared) ∨
      ∃ t stmt, System.performed c (.step index : Event Nat Environment) = some (t, stmt) ∧
        ((server auth).apply c (.step index)).shared = (stmt.exec c.shared).2 := by
  rcases System.apply_cases (M := server auth) c (.step index) with ⟨request, hspawn, -⟩ |
    ⟨i, t, stmt, next, -, -, -, -, hperf, heq⟩ | ⟨i, t, hdrop, -⟩ | ⟨action, henv, -⟩ | ⟨hnone, heq⟩
  · cases hspawn
  · refine Or.inr ⟨t, stmt, hperf, ?_⟩
    rw [heq]
    rfl
  · cases hdrop
  · cases henv
  · exact Or.inl ⟨hnone, by rw [heq]⟩

theorem shared_drop (c : Server) (index : Nat) :
    ((server auth).apply c (.drop index)).shared = c.shared := by
  unfold System.apply
  dsimp only
  split <;> rfl

/-- What an event leaves of the table, and what it adds. -/
theorem rows_apply (c : Server) (e : Event Nat Environment) :
    table.rows ((server auth).apply c e).shared
      = ((table.rows c.shared).filter fun row => !table.deletes c e row) ++ table.stores c e := by
  have hquiet : System.performed c e = none →
      ((table.rows c.shared).filter fun row => !table.deletes c e row) = table.rows c.shared := by
    intro hnone
    refine filter_kept fun row => ?_
    unfold SampleTable.deletes
    rw [hnone]
    rfl
  cases e with
  | spawn retentionDays =>
      rw [hquiet rfl]
      exact (List.append_nil _).symm
  | drop index =>
      rw [hquiet rfl, shared_drop]
      exact (List.append_nil _).symm
  | env action =>
      rw [hquiet rfl]
      cases action with
      | tick clock =>
          have hsame := table.rows_nodes c.shared (Nodes.step auth c.shared.nodes (.tick clock))
          exact hsame.trans (List.append_nil _).symm
      | register request token newId =>
          have hsame := table.rows_nodes c.shared
            (Nodes.step auth c.shared.nodes (.register request token newId))
          exact hsame.trans (List.append_nil _).symm
      | heartbeat request metrics =>
          have hact : ((server auth).apply c (.env (.heartbeat request metrics))).shared
              = if Known c.shared request then
                  recordHeartbeat request metrics c.shared
                else c.shared := rfl
          have hstores : table.stores c (.env (.heartbeat request metrics))
              = if Known c.shared request then table.stored request metrics else [] := rfl
          rw [hact, hstores]
          by_cases hknown : Known c.shared request
          · rw [if_pos hknown, if_pos hknown]
            exact table.rows_recordHeartbeat request metrics c.shared
          · rw [if_neg hknown, if_neg hknown]
            exact (List.append_nil _).symm
  | step index =>
      have hstores : table.stores c (.step index) = [] := rfl
      rw [hstores, List.append_nil]
      obtain ⟨hnone, hsame⟩ | ⟨t, stmt, hperf, hexec⟩ := @shared_step auth c index
      · rw [hquiet hnone, hsame]
      · rw [hexec, table.rows_exec]
        unfold SampleTable.deletes
        rw [hperf]
        rfl

theorem rows_run (clock : Int) (events : List (Event Nat Environment)) :
    table.rows ((server auth).run (start clock) events).shared
      = survivors (server auth).apply table.deletes table.stores (start clock) events := by
  let log : Server → List (MetricRow κ σ) := fun c => table.rows c.shared
  have hstep : ∀ c e, log ((server auth).apply c e)
      = ((log c).filter fun r => !table.deletes c e r) ++ table.stores c e := rows_apply
  have hempty : log (start clock) = [] := table.rows_empty _
  have hrun := log_run hstep (start clock) events
  rw [hempty, List.filter_nil, List.nil_append] at hrun
  exact hrun

end Tables

/-! ### Answers -/

/-- The answer has exactly the samples that the rows have for the key in the span, sorted by time, and says
how many there are and from when to when. -/
structure Answers {κ σ : Type} [DecidableEq κ] (time : σ → Int) (rows : List (MetricRow κ σ)) (key : κ)
    (earliest latest : Int) (response : MetricSamplesResponse κ σ) : Prop where
  samples : response.samples.Perm
    ((rows.filter (inWindow (fun row => time row.sample) (fun row => row.key = key) earliest latest)).map
      (·.sample))
  sorted : (response.samples.map time).Pairwise (· ≤ ·)
  count : response.sampleCount = response.samples.length
  actualFrom : response.actualFrom = (response.samples.map time).head?
  actualTo : response.actualTo = (response.samples.map time).getLast?

theorem answers_respond {κ σ : Type} [DecidableEq κ] (time : σ → Int) (key : κ) (earliest latest : Int)
    (table : List (MetricRow κ σ)) :
    Answers time table key earliest latest (respond time key earliest latest table) := by
  have hsorted : (((window (fun row => time row.sample) (fun row => row.key = key) earliest latest
      table).map (·.sample)).map time).Pairwise (· ≤ ·) := by
    rw [List.map_map, List.pairwise_map]
    exact window_sorted
  have hrange := range_of_sorted hsorted
  exact
    { samples := window_perm.map _
      sorted := hsorted
      count := rfl
      actualFrom := congrArg Prod.fst hrange
      actualTo := congrArg Prod.snd hrange }

theorem Answers.congr {κ σ : Type} [DecidableEq κ] {time : σ → Int} {rows rows' : List (MetricRow κ σ)}
    {key : κ} {earliest latest : Int} {response : MetricSamplesResponse κ σ}
    (hsame : rows.filter (inWindow (fun row => time row.sample) (fun row => row.key = key) earliest latest)
      = rows'.filter (inWindow (fun row => time row.sample) (fun row => row.key = key) earliest latest))
    (h : Answers time rows key earliest latest response) : Answers time rows' key earliest latest response :=
  { h with samples := hsame ▸ h.samples }

theorem answers_run {κ σ : Type} [DecidableEq κ] (table : SampleTable κ σ) (auth : TokenHash) (clock : Int)
    (events : List (Event Nat Environment)) (key : κ) (earliest latest : Int) :
    Answers table.time
      (survivors (server auth).apply table.deletes table.stores (start clock) events) key earliest
      latest
      (respond table.time key earliest latest
        (table.rows ((server auth).run (start clock) events).shared)) := by
  rw [← rows_run]
  exact answers_respond _ _ _ _ _

/-- In every run the answers have exactly the samples that heartbeats have recorded and that no cleanup has
deleted since. -/
theorem history_exact (auth : TokenHash) (clock : Int) (events : List (Event Nat Environment)) :
    (∀ nodeId earliest latest,
        Answers (·.sampledAt)
          (survivors (server auth).apply nodeTable.deletes nodeTable.stores (start clock) events)
          nodeId earliest latest
          (nodeMetricSamples ((server auth).run (start clock) events).shared nodeId earliest latest)) ∧
      ∀ nodeId gpuKey earliest latest,
        Answers (·.sampledAt)
          (survivors (server auth).apply gpuTable.deletes gpuTable.stores (start clock) events)
          (nodeId, gpuKey) earliest latest
          (gpuMetricSamples ((server auth).run (start clock) events).shared nodeId gpuKey earliest latest) :=
  ⟨answers_run nodeTable auth clock events,
    fun nodeId gpuKey => answers_run gpuTable auth clock events (nodeId, gpuKey)⟩

/-! ### Nothing recent is deleted -/

section Recent

variable {κ σ : Type} {table : SampleTable κ σ} {auth : TokenHash} {now : Int} {days : Nat}

/-- The clock has not passed `now`, and a cleanup that starts keeps at least so many days. -/
def Retains (now : Int) (days : Nat) (c : Server) (e : Event Nat Environment) : Prop :=
  c.shared.nodes.clock ≤ now ∧ ∀ retentionDays, e = .spawn retentionDays → days ≤ retentionDays

def afterNodes (cutoff : Int) (nodeDeleted : Nat) : Code Nat :=
  .call (.deleteGpuSamples cutoff) fun gpuDeleted : Nat => .ret (nodeDeleted + gpuDeleted)

def afterClock (cutoff : Int) : Code Nat :=
  .call (.deleteNodeSamples cutoff) fun nodeDeleted : Nat => afterNodes cutoff nodeDeleted

theorem code_cleanup (retentionDays : Nat) :
    cleanupHistoricalMetrics retentionDays
      = .call .nowUnixSecs fun now : Int => afterClock (now - retentionDays * 86400) := rfl

/-- Where a cleanup stands that deletes nothing from `limit` on. -/
inductive Spares (limit : Int) (days : Nat) : Code Nat → Prop where
  | begun (retentionDays : Nat) (hdays : days ≤ retentionDays) :
      Spares limit days (cleanupHistoricalMetrics retentionDays)
  | clock (cutoff : Int) (hcutoff : cutoff ≤ limit) : Spares limit days (afterClock cutoff)
  | nodes (cutoff : Int) (nodeDeleted : Nat) (hcutoff : cutoff ≤ limit) :
      Spares limit days (afterNodes cutoff nodeDeleted)
  | ended (deleted : Nat) : Spares limit days (.ret deleted)

/-- The next statement of such a cleanup, and where it stands then. -/
theorem Spares.next {db : HistoryDb} {stmt : Stmt}
    {next : stmt.Answer → Code Nat} (hclock : db.nodes.clock ≤ now)
    (h : Spares (now - days * 86400) days (.call stmt next)) :
    (∀ cutoff, stmt = .deleteNodeSamples cutoff ∨ stmt = .deleteGpuSamples cutoff →
        cutoff ≤ now - days * 86400) ∧
      Spares (now - days * 86400) days (next (stmt.exec db).1) := by
  generalize hcode : Program.call stmt next = code at h
  cases h with
  | begun retentionDays hdays =>
      rw [code_cleanup] at hcode
      injection hcode with hstmt hnext
      subst hstmt
      obtain rfl := eq_of_heq hnext
      refine ⟨fun cutoff hcutoff => ?_, .clock _ ?_⟩
      · obtain hnode | hgpu := hcutoff
        · cases hnode
        · cases hgpu
      · change db.nodes.clock - retentionDays * 86400 ≤ now - days * 86400
        omega
  | clock cutoff hcutoff =>
      injection hcode with hstmt hnext
      subst hstmt
      obtain rfl := eq_of_heq hnext
      refine ⟨fun cutoff' hsame => ?_, .nodes cutoff _ hcutoff⟩
      obtain hnode | hgpu := hsame
      · cases hnode
        exact hcutoff
      · cases hgpu
  | nodes cutoff nodeDeleted hcutoff =>
      injection hcode with hstmt hnext
      subst hstmt
      obtain rfl := eq_of_heq hnext
      refine ⟨fun cutoff' hsame => ?_, .ended _⟩
      obtain hnode | hgpu := hsame
      · cases hnode
      · cases hgpu
        exact hcutoff
  | ended deleted => cases hcode

def AllSpare (limit : Int) (days : Nat) (c : Server) : Prop := ∀ t ∈ c.threads, Spares limit days t.rest

theorem allSpare_apply (c : Server) (e : Event Nat Environment)
    (h : AllSpare (now - days * 86400) days c) (hretains : Retains now days c e) :
    AllSpare (now - days * 86400) days ((server auth).apply c e) := by
  obtain ⟨hclock, hspawn⟩ := hretains
  obtain ⟨retentionDays, rfl, -, heq⟩ | ⟨index, t, stmt, next, -, hget, -, hrest, -, heq⟩ |
    ⟨index, t, -, hget, -, heq⟩ | ⟨action, -, -, heq⟩ | ⟨-, heq⟩ :=
      System.apply_cases (M := server auth) c e
  · rw [heq]
    intro t ht
    obtain hold | hnew := List.mem_append.mp ht
    · exact h t hold
    · rw [List.mem_singleton.mp hnew]
      exact .begun retentionDays (hspawn retentionDays rfl)
  · rw [heq]
    intro t' ht'
    obtain hold | rfl := List.mem_or_eq_of_mem_set ht'
    · exact h t' hold
    · have hhere := h t (List.mem_of_getElem? hget)
      rw [hrest] at hhere
      exact (hhere.next hclock).2
  · rw [heq]
    intro t' ht'
    obtain hold | rfl := List.mem_or_eq_of_mem_set ht'
    · exact h t' hold
    · exact h t (List.mem_of_getElem? hget)
  · rwa [heq]
  · rwa [heq]

theorem deletes_recent {c : Server} {e : Event Nat Environment} (hclock : c.shared.nodes.clock ≤ now)
    (h : AllSpare (now - days * 86400) days c) {row : MetricRow κ σ}
    (hrecent : now - days * 86400 ≤ table.time row.sample) : table.deletes c e row = false := by
  unfold SampleTable.deletes
  cases hperf : System.performed c e with
  | none => rfl
  | some performed =>
      obtain ⟨t, stmt⟩ := performed
      obtain ⟨retentionDays, -, hnone, -⟩ | ⟨index, t', stmt', next, -, hget, -, hrest, hperf', -⟩ |
        ⟨index, t', -, -, hnone, -⟩ | ⟨action, -, hnone, -⟩ | ⟨hnone, -⟩ :=
          System.apply_cases (M := server Nodes.plainTokens) c e
      · rw [hnone] at hperf
        cases hperf
      · rw [hperf'] at hperf
        obtain ⟨rfl, rfl⟩ := Prod.mk.inj (Option.some.inj hperf)
        have hhere := h t' (List.mem_of_getElem? hget)
        rw [hrest] at hhere
        have hcutoffs := (hhere.next hclock).1
        cases hcutoff : table.cutoff stmt' with
        | none =>
            rw [Option.any_some, hcutoff]
            rfl
        | some cutoff =>
            have hle := hcutoffs cutoff (table.cutoff_eq stmt' cutoff hcutoff)
            rw [Option.any_some, hcutoff, Option.any_some, decide_eq_false_iff_not]
            omega
      · rw [hnone] at hperf
        cases hperf
      · rw [hnone] at hperf
        cases hperf
      · rw [hnone] at hperf
        cases hperf

/-- A span that begins within the days of retention has all that was ever recorded for it. -/
theorem filter_recent [DecidableEq κ] {clock : Int} {events : List (Event Nat Environment)} {key : κ}
    {earliest latest : Int}
    (hretains : Trace.Along (server auth).apply (Retains now days) (start clock) events)
    (hearliest : now - days * 86400 ≤ earliest) :
    (survivors (server auth).apply table.deletes table.stores (start clock) events).filter
        (inWindow (fun row => table.time row.sample) (fun row => row.key = key) earliest latest)
      = (appended (server auth).apply table.stores (start clock) events).filter
        (inWindow (fun row => table.time row.sample) (fun row => row.key = key) earliest latest) := by
  have hstart : AllSpare (now - days * 86400) days (start clock) := by
    intro t ht
    cases ht
  refine filter_survivors _ _ ((hretains.with_invariant (fun c e hall hok => ?_) hstart).mono ?_)
  · exact allSpare_apply c e hall hok
  · intro c e hboth row hrow
    obtain ⟨hall, hclock, -⟩ := hboth
    refine deletes_recent hclock hall ?_
    unfold inWindow at hrow
    simp only [Bool.and_eq_true, decide_eq_true_eq] at hrow
    omega

theorem answers_recent [DecidableEq κ] (table : SampleTable κ σ) {clock : Int}
    {events : List (Event Nat Environment)}
    (hretains : Trace.Along (server auth).apply (Retains now days) (start clock) events) (key : κ)
    (earliest latest : Int) (hearliest : now - days * 86400 ≤ earliest) :
    Answers table.time (appended (server auth).apply table.stores (start clock) events) key earliest
      latest
      (respond table.time key earliest latest
        (table.rows ((server auth).run (start clock) events).shared)) :=
  (answers_run table auth clock events key earliest latest).congr (filter_recent hretains hearliest)

end Recent

/-- As long as the clock has not passed `now` and every cleanup keeps at least so many days, the answer for a
span that begins within these days has exactly the samples that heartbeats have recorded for it. -/
theorem recent_history_complete (auth : TokenHash) (clock : Int) (events : List (Event Nat Environment))
    (now : Int) (days : Nat)
    (hretains : Trace.Along (server auth).apply (Retains now days) (start clock) events) :
    (∀ nodeId earliest latest, now - days * 86400 ≤ earliest →
        Answers (·.sampledAt) (appended (server auth).apply nodeTable.stores (start clock) events)
          nodeId earliest latest
          (nodeMetricSamples ((server auth).run (start clock) events).shared nodeId earliest latest)) ∧
      ∀ nodeId gpuKey earliest latest, now - days * 86400 ≤ earliest →
        Answers (·.sampledAt) (appended (server auth).apply gpuTable.stores (start clock) events)
          (nodeId, gpuKey) earliest latest
          (gpuMetricSamples ((server auth).run (start clock) events).shared nodeId gpuKey earliest latest) := by
  exact ⟨answers_recent nodeTable hretains,
    fun nodeId gpuKey => answers_recent gpuTable hretains (nodeId, gpuKey)⟩

/-! ### A week of history -/

/-- A node registers, and a cleanup runs after its two heartbeats, of which one is eight days old. -/
def weekOfHistory : List (Event Nat Environment) :=
  [.env (.register { name := "node-a", hostname := "host-a" } "token" "node-1"),
    .env (.heartbeat { nodeId := "node-1", sampledAt := 0 } {}), .env (.tick 691200),
    .env (.heartbeat { nodeId := "node-1", sampledAt := 691200 } {}), .spawn 7, .step 0, .step 0,
    .step 0]

theorem recent_history_complete_week :
    (∀ nodeId earliest latest, (691200 : Int) - (7 : Nat) * 86400 ≤ earliest →
        Answers (·.sampledAt)
          (appended (server Nodes.plainTokens).apply nodeTable.stores (start 0)
            weekOfHistory)
          nodeId earliest latest
          (nodeMetricSamples ((server Nodes.plainTokens).run (start 0) weekOfHistory).shared nodeId earliest
            latest)) ∧
      ∀ nodeId gpuKey earliest latest, (691200 : Int) - (7 : Nat) * 86400 ≤ earliest →
        Answers (·.sampledAt)
          (appended (server Nodes.plainTokens).apply gpuTable.stores (start 0)
            weekOfHistory)
          (nodeId, gpuKey) earliest latest
          (gpuMetricSamples ((server Nodes.plainTokens).run (start 0) weekOfHistory).shared nodeId gpuKey
            earliest latest) := by
  have hother : ∀ (c : Server) e, c.shared.nodes.clock ≤ 691200 → (∀ days, e ≠ .spawn days) →
      Retains 691200 7 c e :=
    fun c e hclock hnone => ⟨hclock, fun days hspawn => absurd hspawn (hnone days)⟩
  refine recent_history_complete Nodes.plainTokens 0 weekOfHistory 691200 7 ⟨?_, ?_, ?_, ?_, ?_, ?_, ?_, ?_,
    trivial⟩
  · exact hother _ _ (by decide +kernel) fun days hspawn => by cases hspawn
  · exact hother _ _ (by decide +kernel) fun days hspawn => by cases hspawn
  · exact hother _ _ (by decide +kernel) fun days hspawn => by cases hspawn
  · exact hother _ _ (by decide +kernel) fun days hspawn => by cases hspawn
  · exact ⟨by decide +kernel, fun days hspawn => by cases hspawn; exact le_rfl⟩
  · exact hother _ _ (by decide +kernel) fun days hspawn => by cases hspawn
  · exact hother _ _ (by decide +kernel) fun days hspawn => by cases hspawn
  · exact hother _ _ (by decide +kernel) fun days hspawn => by cases hspawn

/-- The old sample is gone, and the other is the answer. -/
example : (nodeMetricSamples ((server Nodes.plainTokens).run (start 0) weekOfHistory).shared "node-1" 0
    691200).samples.map (·.sampledAt) = [691200] := by
  decide +kernel

end LightAI.MetricHistory
