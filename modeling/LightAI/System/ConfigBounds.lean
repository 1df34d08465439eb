import LightAI.Server.PolicyRaces
import LightAI.System.ConfigSync

/-!
# The bounds of what an agent runs under

A policy is checked by itself when it is saved, and the effective configuration mixes the fields of two
policies with built-in values, read at different times. The checks are made field by field, so that every
mixture is within the bounds again: an agent never comes to an interval of no length, an output limit of
nothing, a directory that points upwards or a log policy that its own check refuses, whatever is saved and
in whatever order the configurations arrive.
-/

namespace LightAI.ConfigBounds

open Policies PolicyRaces Interleaving
open Server (AgentConfig AgentConfigPolicy LogPolicy defaultAgentConfig applyPolicy applyPolicyLayer)
open Agent (RuntimeConfig CollectorSettings ConfigContent sent)
open Users (validateLogDir validateLogPolicy validatePolicy validateSeconds)

/-! ### Checks one after the other -/

section Checks

variable {check : Except String PUnit} {rest : PUnit → Except String Unit} {refused : Prop}
  [Decidable refused] {message : String}

theorem checks_iff : check >>= rest = .ok () ↔ check = .ok () ∧ rest () = .ok () := by
  cases check with
  | error message => exact iff_of_false (fun h => by cases h) fun h => by cases h.1
  | ok u => exact ⟨fun h => ⟨rfl, h⟩, fun h => h.2⟩

theorem refuses_iff :
    (if refused then throw message >>= rest else rest ()) = .ok () ↔ ¬ refused ∧ rest () = .ok () := by
  by_cases h : refused
  · rw [if_pos h]
    exact iff_of_false (fun heq => by cases heq) fun hboth => hboth.1 h
  · rw [if_neg h]
    exact ⟨fun heq => ⟨h, heq⟩, fun hboth => hboth.2⟩

end Checks

/-! ### Log policies -/

structure LogBounds (policy : LogPolicy) : Prop where
  dir : validateLogDir policy.logDir = .ok ()
  level : policy.logLevel ∈ ["error", "warn", "info", "debug", "trace"]
  bytes : 1 ≤ policy.logMaxFileBytes ∧ policy.logMaxFileBytes ≤ 1024 * 1024 * 1024
  files : 1 ≤ policy.logRetentionFiles ∧ policy.logRetentionFiles ≤ 100
  days : policy.logRetentionDays ≤ 3650

theorem logBounds_of_valid {policy : LogPolicy} (hvalid : validateLogPolicy policy = .ok ()) :
    LogBounds policy := by
  obtain ⟨hdir, hrest⟩ := checks_iff.mp hvalid
  by_cases hlevel : policy.logLevel ∈ ["error", "warn", "info", "debug", "trace"]
  · rw [if_pos hlevel] at hrest
    obtain ⟨hbytes, hrest⟩ := refuses_iff.mp hrest
    obtain ⟨hfiles, hrest⟩ := refuses_iff.mp hrest
    simp only [Bool.or_eq_true, decide_eq_true_eq, not_or] at hbytes hfiles
    refine ⟨hdir, hlevel, ⟨by omega, by omega⟩, ⟨by omega, by omega⟩, ?_⟩
    by_contra hdays
    have hmany : policy.logRetentionDays > 3650 := by omega
    dsimp only at hrest
    rw [if_pos hmany] at hrest
    cases hrest
  · rw [if_neg hlevel] at hrest
    cases hrest

theorem valid_of_logBounds {policy : LogPolicy} (h : LogBounds policy) :
    validateLogPolicy policy = .ok () := by
  obtain ⟨hbytes, hmostBytes⟩ := h.bytes
  obtain ⟨hfiles, hmostFiles⟩ := h.files
  have hdays := h.days
  refine checks_iff.mpr ⟨h.dir, ?_⟩
  rw [if_pos h.level]
  refine refuses_iff.mpr ⟨?_, refuses_iff.mpr ⟨?_, ?_⟩⟩
  · simp only [Bool.or_eq_true, decide_eq_true_eq, not_or]
    omega
  · simp only [Bool.or_eq_true, decide_eq_true_eq, not_or]
    omega
  · exact if_neg (by omega)

/-! ### Policies -/

/-- A field that is not set, or set within its bounds. -/
def SetWithin {α : Type} (bounds : α → Prop) (value : Option α) : Prop := ∀ a, value = some a → bounds a

theorem SetWithin.getD {α : Type} {bounds : α → Prop} {value : Option α} {default : α}
    (hvalue : SetWithin bounds value) (hdefault : bounds default) : bounds (value.getD default) := by
  cases value with
  | none => exact hdefault
  | some a => exact hvalue a rfl

theorem setWithin_of_getD {α : Type} {bounds : α → Prop} {value : Option α} {default : α}
    (hvalue : bounds (value.getD default)) : SetWithin bounds value := by
  rintro a rfl
  exact hvalue

def Seconds (value : Nat) : Prop := 1 ≤ value ∧ value ≤ 86400

def OutputBytes (value : Nat) : Prop := 1 ≤ value ∧ value ≤ 16 * 1024 * 1024

/-- The directory is named, and nothing in it points upwards. -/
def Directory (dir : String) : Prop := Text.isBlank dir = false ∧ Text.contains dir ".." = false

structure PolicyBounds (policy : AgentConfigPolicy) : Prop where
  heartbeat : SetWithin Seconds policy.heartbeatIntervalSecs
  metrics : SetWithin Seconds policy.metricsSampleIntervalSecs
  command : SetWithin Seconds policy.commandTimeoutSecs
  environmentCheck : SetWithin Seconds policy.environmentCheckTimeoutSecs
  collector : SetWithin Seconds policy.collectorTimeoutSecs
  output : SetWithin OutputBytes policy.collectorMaxOutputBytes
  directories : SetWithin (fun dirs => ∀ dir ∈ dirs, Directory dir) policy.allowedModelDirs
  logDir : SetWithin (fun dir => validateLogDir dir = .ok ()) policy.logDir
  logLevel : SetWithin (· ∈ ["error", "warn", "info", "debug", "trace"]) policy.logLevel
  logBytes : SetWithin (fun bytes => 1 ≤ bytes ∧ bytes ≤ 1024 * 1024 * 1024) policy.logMaxFileBytes
  logFiles : SetWithin (fun files => 1 ≤ files ∧ files ≤ 100) policy.logRetentionFiles
  logDays : SetWithin (· ≤ 3650) policy.logRetentionDays

theorem validateSeconds_ok {name : String} {value : Option Nat}
    (hvalid : validateSeconds name value = .ok ()) : SetWithin Seconds value := by
  rintro seconds rfl
  unfold validateSeconds at hvalid
  split at hvalid
  · cases hvalid
  · rename_i hbounds
    simp only [Option.any_some, Bool.or_eq_true, decide_eq_true_eq, not_or] at hbounds
    obtain ⟨hsome, hmost⟩ := hbounds
    exact ⟨by omega, by omega⟩

theorem policyBounds_of_valid {policy : AgentConfigPolicy} (hvalid : validatePolicy policy = .ok ()) :
    PolicyBounds policy := by
  obtain ⟨hheartbeat, hrest⟩ := checks_iff.mp hvalid
  obtain ⟨hmetrics, hrest⟩ := checks_iff.mp hrest
  obtain ⟨hcommand, hrest⟩ := checks_iff.mp hrest
  obtain ⟨henvironment, hrest⟩ := checks_iff.mp hrest
  obtain ⟨hcollector, hrest⟩ := checks_iff.mp hrest
  obtain ⟨houtput, hrest⟩ := refuses_iff.mp hrest
  obtain ⟨hdirs, hrest⟩ := refuses_iff.mp hrest
  have hlog := logBounds_of_valid hrest
  refine
    { heartbeat := validateSeconds_ok hheartbeat
      metrics := validateSeconds_ok hmetrics
      command := validateSeconds_ok hcommand
      environmentCheck := validateSeconds_ok henvironment
      collector := validateSeconds_ok hcollector
      output := ?_
      directories := ?_
      logDir := setWithin_of_getD hlog.dir
      logLevel := setWithin_of_getD hlog.level
      logBytes := setWithin_of_getD hlog.bytes
      logFiles := setWithin_of_getD hlog.files
      logDays := setWithin_of_getD hlog.days }
  · intro bytes hbytes
    rw [hbytes] at houtput
    simp only [Option.any_some, Bool.or_eq_true, decide_eq_true_eq, not_or] at houtput
    obtain ⟨hsome, hmost⟩ := houtput
    exact ⟨by omega, by omega⟩
  · intro dirs hset dir hdir
    rw [hset] at hdirs
    simp only [Option.getD_some, Bool.not_eq_true, List.any_eq_false, Bool.or_eq_false_iff] at hdirs
    exact hdirs dir hdir

theorem policyBounds_default : PolicyBounds {} := by
  constructor <;> exact fun _ h => by cases h

/-! ### Configurations -/

/-- The fields that policies set, within the bounds of a policy. -/
structure ContentBounds (content : ConfigContent) : Prop where
  heartbeat : Seconds content.heartbeatIntervalSecs
  metrics : Seconds content.metricsSampleIntervalSecs
  command : Seconds content.commandTimeoutSecs
  environmentCheck : Seconds content.environmentCheckTimeoutSecs
  collector : Seconds content.collectorTimeoutSecs
  output : OutputBytes content.collectorMaxOutputBytes
  directories : ∀ dir ∈ content.allowedModelDirs, Directory dir
  logs : LogBounds content.logPolicy

theorem logBounds_default : LogBounds {} := by
  apply logBounds_of_valid
  decide +kernel

theorem seconds_default : Seconds 15 ∧ Seconds 5 := by
  unfold Seconds
  omega

theorem outputBytes_default : OutputBytes (1024 * 1024) := by
  unfold OutputBytes
  omega

theorem contentBounds_default (updatedAt : Int) :
    ContentBounds (sent (defaultAgentConfig updatedAt)).content where
  heartbeat := seconds_default.1
  metrics := seconds_default.1
  command := seconds_default.2
  environmentCheck := seconds_default.2
  collector := seconds_default.2
  output := outputBytes_default
  directories dir hdir := by cases hdir
  logs := logBounds_default

/-- A layer within its bounds keeps a configuration within them. -/
theorem contentBounds_layer {config : AgentConfig} {policy : AgentConfigPolicy}
    (hconfig : ContentBounds (sent config).content) (hpolicy : PolicyBounds policy) :
    ContentBounds (sent (applyPolicyLayer config policy)).content where
  heartbeat := hpolicy.heartbeat.getD hconfig.heartbeat
  metrics := hpolicy.metrics.getD hconfig.metrics
  command := hpolicy.command.getD hconfig.command
  environmentCheck := hpolicy.environmentCheck.getD hconfig.environmentCheck
  collector := hpolicy.collector.getD hconfig.collector
  output := hpolicy.output.getD hconfig.output
  directories := hpolicy.directories.getD hconfig.directories
  logs :=
    { dir := hpolicy.logDir.getD hconfig.logs.dir
      level := hpolicy.logLevel.getD hconfig.logs.level
      bytes := hpolicy.logBytes.getD hconfig.logs.bytes
      files := hpolicy.logFiles.getD hconfig.logs.files
      days := hpolicy.logDays.getD hconfig.logs.days }

theorem contentBounds_applyPolicy {global node : AgentConfigPolicy} (hglobal : PolicyBounds global)
    (hnode : PolicyBounds node) (now version updatedAt : Int) :
    ContentBounds (sent (applyPolicy (defaultAgentConfig now) global node version updatedAt)).content :=
  contentBounds_layer (contentBounds_layer (contentBounds_default now) hglobal) hnode

/-! ### Calls and saves, one statement at a time -/

/-- Every stored policy has passed its check. -/
def AllValid (db : PolicyDb) : Prop :=
  ∀ key row, db.agentConfigPolicies.find? key = some row → validatePolicy row.policy = .ok ()

/-- A policy that is written has passed its check. -/
def Checked : Stmt → Prop
  | .upsertPolicy _ _ policy _ _ => validatePolicy policy = .ok ()
  | _ => True

/-- What is answered is within its bounds. -/
def ReplyBounds : Reply → Prop
  | .config config => ContentBounds (sent config).content
  | .saved _ => True

theorem allValid_exec {stmt : Stmt} {db : PolicyDb} (hall : AllValid db) (hchecked : Checked stmt) :
    AllValid (stmt.exec db).2 := by
  cases stmt with
  | upsertPolicy scope nodeId policy version updatedAt =>
      intro key row hfind
      change (Policies.upsertPolicy _ _ _ _ _ _).find? key = some row at hfind
      rw [find?_upsertPolicy] at hfind
      by_cases hkey : key = (scope, nodeId)
      · rw [if_pos hkey] at hfind
        rw [← Option.some.inj hfind]
        exact hchecked
      · rw [if_neg hkey] at hfind
        exact hall key row hfind
  | _ => exact hall

theorem policyBounds_read {db : PolicyDb} (hall : AllValid db) (scope nodeId : String) :
    PolicyBounds (((Stmt.selectPolicy scope nodeId).exec db).1.getD {}) := by
  change PolicyBounds (((db.agentConfigPolicies.find? (scope, nodeId)).map (·.policy)).getD {})
  cases hfind : db.agentConfigPolicies.find? (scope, nodeId) with
  | none => exact policyBounds_default
  | some row => exact policyBounds_of_valid (hall _ row hfind)

/-- Whatever others write, if it is checked, a call writes checked policies and answers within bounds. -/
abbrev Bounding (code : Code Reply) : Prop :=
  ∀ done db, code.Robust Stmt.exec (fun _ db' => AllValid db') (fun _ _ stmt => Checked stmt)
    (fun _ _ reply => ReplyBounds reply) done db

theorem bounding_effectiveAgentConfig (nodeId : String) :
    Bounding (Request.effectiveAgentConfig nodeId).code := by
  intro done db now _
  refine ⟨trivial, fun atGlobal hglobal => ⟨trivial, fun atNode hnode => ⟨trivial, ?_⟩⟩⟩
  intro atGlobalVersion _
  refine ⟨trivial, fun atNodeVersion _ => ⟨trivial, ?_⟩⟩
  have hglobalPolicy := policyBounds_read hglobal "global" ""
  have hnodePolicy := policyBounds_read hnode "node" nodeId
  exact contentBounds_applyPolicy hglobalPolicy hnodePolicy _ _ _

theorem bounding_save (scope nodeId : String) (policy : AgentConfigPolicy) :
    Bounding (saveCode scope nodeId policy) := by
  intro done db
  cases hvalid : validatePolicy policy with
  | error message =>
      rw [saveCode_of_invalid hvalid]
      trivial
  | ok _ =>
      rw [saveCode_of_valid hvalid]
      intro now _
      exact ⟨trivial, fun _ _ => ⟨trivial, fun _ _ => ⟨hvalid, trivial⟩⟩⟩

theorem bounding (request : Request) : Bounding request.code := by
  cases request with
  | effectiveAgentConfig nodeId => exact bounding_effectiveAgentConfig nodeId
  | saveGlobalPolicy policy => exact bounding_save "global" "" policy
  | saveNodePolicy nodeId policy => exact bounding_save "node" nodeId policy

abbrev Bounded (c : Server) : Prop :=
  System.Threadwise (fun _ db => AllValid db)
    (System.RobustAs server (fun _ db' => AllValid db') (fun _ _ stmt => Checked stmt)
      fun _ _ reply => ReplyBounds reply) () c

theorem bounded_step (c : Server) (e : Event Request Int) (h : Bounded c) : Bounded (server.apply c e) := by
  refine System.threadwise_robustAs (fun _ _ _ _ hlast => hlast) (fun _ hall => hall) ?_ ?_ ?_ c e h
  · intro _ stmt db hall hchecked
    have hafter := allValid_exec hall hchecked
    exact ⟨hafter, hafter⟩
  · intro clock db hall
    exact ⟨hall, hall⟩
  · intro request db _
    exact bounding request [] db

theorem bounded_start (clock : Int) : Bounded (start clock) := by
  apply System.threadwise_start
  intro key row hfind
  cases hfind

/-- What some call has answered. -/
def Answered (c : Server) (config : AgentConfig) : Prop := ∃ t ∈ c.threads, t.result = some (.config config)

theorem contentBounds_answered {clock : Int} {events : List (Event Request Int)} {config : AgentConfig}
    (hanswered : Answered (server.run (start clock) events) config) :
    ContentBounds (sent config).content := by
  have hbounded : Bounded (server.run (start clock) events) :=
    Trace.run_invariant (fun c e hc _ => bounded_step c e hc) (bounded_start clock)
      (Trace.along_of_forall (fun _ _ => trivial) _ events)
  obtain ⟨t, ht, hresult⟩ := hanswered
  exact System.Threadwise.answer hbounded ht hresult

/-! ### At the agent -/

/-- Configurations taken over one after the other. -/
def takeOver (runtime : RuntimeConfig) (delivered : List AgentConfig) : RuntimeConfig :=
  delivered.foldl (fun runtime config => runtime.applyServerConfig (some config)) runtime

theorem contentBounds_fromConfig (settings : CollectorSettings) :
    ContentBounds (RuntimeConfig.fromConfig settings).held.content :=
  contentBounds_default 0

theorem contentBounds_applyServerConfig {runtime : RuntimeConfig} {config : AgentConfig}
    (hruntime : ContentBounds runtime.held.content) (hconfig : ContentBounds (sent config).content) :
    ContentBounds (runtime.applyServerConfig (some config)).held.content := by
  rw [Agent.held_applyServerConfig]
  unfold Stamped.newest
  split
  · exact hconfig
  · exact hruntime

/-- An agent that reads its file and then takes over configurations that the server has answered, whatever
is saved and however the calls interleave, is within the bounds, and its log policy passes the check. -/
theorem agent_within_bounds (clock : Int) (events : List (Event Request Int)) (settings : CollectorSettings)
    (delivered : List AgentConfig)
    (hanswered : ∀ config ∈ delivered, Answered (server.run (start clock) events) config) :
    ContentBounds (takeOver (RuntimeConfig.fromConfig settings) delivered).held.content ∧
      validateLogPolicy (takeOver (RuntimeConfig.fromConfig settings) delivered).logPolicy
        = .ok () := by
  have hheld : ∀ runtime : RuntimeConfig, ContentBounds runtime.held.content →
      ContentBounds (takeOver runtime delivered).held.content := by
    induction delivered with
    | nil => exact fun _ hruntime => hruntime
    | cons config delivered ih =>
        intro runtime hruntime
        have hconfig := contentBounds_answered (hanswered config (List.mem_cons_self ..))
        exact ih (fun later hlater => hanswered later (List.mem_cons_of_mem _ hlater)) _
          (contentBounds_applyServerConfig hruntime hconfig)
  have hwithin := hheld _ (contentBounds_fromConfig settings)
  exact ⟨hwithin, valid_of_logBounds hwithin.logs⟩

/-- The torn read answers two contents under one version, both within the bounds. -/
theorem agent_within_bounds_torn :
    ContentBounds (takeOver (RuntimeConfig.fromConfig {})
        [{ defaultAgentConfig 0 with configVersion := 2 },
          { defaultAgentConfig 0 with configVersion := 2, heartbeatIntervalSecs := 30 }]).held.content ∧
      validateLogPolicy (takeOver (RuntimeConfig.fromConfig {})
        [{ defaultAgentConfig 0 with configVersion := 2 },
          { defaultAgentConfig 0 with configVersion := 2, heartbeatIntervalSecs := 30 }]).logPolicy
        = .ok () := by
  refine agent_within_bounds 0 tornRead {} _ fun config hconfig => ?_
  have hresult : some (.config config) ∈ (server.run (start 0) tornRead).threads.map Thread.result := by
    have hboth : ∀ config ∈ [{ defaultAgentConfig 0 with configVersion := 2 },
        { defaultAgentConfig 0 with configVersion := 2, heartbeatIntervalSecs := 30 }],
        some (Reply.config config) ∈ (server.run (start 0) tornRead).threads.map Thread.result := by
      decide
    exact hboth config hconfig
  obtain ⟨t, ht, hanswer⟩ := List.mem_map.mp hresult
  exact ⟨t, ht, hanswer⟩

end LightAI.ConfigBounds
