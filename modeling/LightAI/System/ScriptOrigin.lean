import LightAI.Agent.Revocation
import LightAI.Base.Origin
import LightAI.Server.AdminAuthority
import LightAI.System.CollectorAgreement

/-!
# Where the scripts come from that agents run

The hashes of collectors get into the registry by the requests of administrators and by the commands on the
console of the server. They reach the agents in answers that may be late, that are kept for the time when
none arrives, and that are compared with the files of a host at last. Whatever happens in between, a script
that an agent runs has a hash that was approved in one of the two ways, and its collector was switched on in
one of them: a command registers a new collector as enabled, but does not switch one on again.
-/

namespace Table

variable {κ ρ ρ' : Type} [DecidableEq κ] {key : ρ → κ} {key' : ρ' → κ}

/-- The same rows in another form. -/
def mapRows (t : Table κ ρ key) (f : ρ → ρ') (hf : ∀ r, key' (f r) = key r) : Table κ ρ' key' where
  rows := t.rows.map f
  nodup := by
    have hkeys : (t.rows.map f).map key' = t.rows.map key := by
      rw [List.map_map]
      exact List.map_congr_left fun r _ => hf r
    rw [hkeys]
    exact t.nodup

theorem find?_mapRows (t : Table κ ρ key) (f : ρ → ρ') (hf : ∀ r, key' (f r) = key r) (k : κ) :
    (t.mapRows f hf).find? k = (t.find? k).map f := by
  unfold find? mapRows
  rw [List.find?_map]
  congr 1
  refine List.find?_congr fun r _ => ?_
  rw [Function.comp_apply, hf]

end Table

namespace LightAI.Users

open Router

/-! ### Requests and the registry -/

section Requests

variable {deployment : Deployment} {request : HttpRequest} {control control' : Control}

/-- The session of the request is that of an administrator, who has set his password. -/
def SentByAdmin (deployment : Deployment) (control : Control) (request : HttpRequest) : Prop :=
  ∃ user, request.user deployment control = some user ∧ user.effectiveRole = "admin"
    ∧ user.mustChangePassword = false

/-- The request writes an entry, or takes one away. -/
inductive WritesRegistry (deployment : Deployment) (control : Control) (request : HttpRequest) :
    Control → Prop
  | register (before : Control) (register : RegisterCollectorRequest)
      (same : before.collectorRegistry = control.collectorRegistry)
      (body : deployment.extract.registerCollector request.body = some register) :
      WritesRegistry deployment control request (registerCollector before register)
  | delete (before : Control) (id version : String)
      (same : before.collectorRegistry = control.collectorRegistry) :
      WritesRegistry deployment control request (deleteCollectorRegistryEntry before id version)

/-- The handlers that write the registry. -/
def Endpoint.aboutRegistry : Endpoint → Bool
  | registerCollectorEntry | updateCollectorEntry | deleteCollectorEntry => true
  | _ => false

theorem requireAdmin_some {user : AuthUser} (h : requireAdmin user = some ()) :
    user.effectiveRole = "admin" := by
  unfold requireAdmin at h
  by_contra hrole
  rw [if_neg hrole] at h
  cases h

/-- Where what a handler needs is missing, it does not come to its end. -/
theorem eq_some_of_bind {α : Type} {value : Option α} {rest : α → Option Control}
    (h : value >>= rest = some control') : ∃ a, value = some a ∧ rest a = some control' :=
  Option.bind_eq_some_iff.mp h

theorem perform_registry {endpoint : Endpoint} {user : Option AuthUser} {params : List String}
    (habout : endpoint.aboutRegistry = true)
    (hperform : endpoint.perform deployment request user params control = some control') :
    WritesRegistry deployment control request control' ∧ ∃ u, user = some u ∧ u.effectiveRole = "admin" := by
  cases endpoint with
  | registerCollectorEntry =>
      obtain ⟨u, hu, hrest⟩ := eq_some_of_bind hperform
      obtain ⟨decoded, -, hrest⟩ := eq_some_of_bind hrest
      obtain ⟨register, hbody, hrest⟩ := eq_some_of_bind hrest
      obtain ⟨_, hadmin, hrest⟩ := eq_some_of_bind hrest
      cases hrest
      exact ⟨.register control register rfl hbody, u, hu, requireAdmin_some hadmin⟩
  | updateCollectorEntry =>
      obtain ⟨u, hu, hrest⟩ := eq_some_of_bind hperform
      obtain ⟨decoded, -, hrest⟩ := eq_some_of_bind hrest
      obtain ⟨register, hbody, hrest⟩ := eq_some_of_bind hrest
      obtain ⟨_, hadmin, hrest⟩ := eq_some_of_bind hrest
      cases hrest
      exact ⟨.register control register rfl hbody, u, hu, requireAdmin_some hadmin⟩
  | deleteCollectorEntry =>
      obtain ⟨u, hu, hrest⟩ := eq_some_of_bind hperform
      obtain ⟨decoded, -, hrest⟩ := eq_some_of_bind hrest
      obtain ⟨id, -, hrest⟩ := eq_some_of_bind hrest
      obtain ⟨version, -, hrest⟩ := eq_some_of_bind hrest
      obtain ⟨_, hadmin, hrest⟩ := eq_some_of_bind hrest
      cases hrest
      exact ⟨.delete control id version rfl, u, hu, requireAdmin_some hadmin⟩
  | _ => cases habout

/-- What a handler comes to has the registry of before. -/
def SameRegistry (control : Control) (outcome : Option Control) : Prop :=
  ∀ control', outcome = some control' → control'.collectorRegistry = control.collectorRegistry

theorem sameRegistry_bind {α : Type} {value : Option α} {rest : α → Option Control}
    (hrest : ∀ a, SameRegistry control (rest a)) : SameRegistry control (value >>= rest) := by
  intro control' hcontrol'
  obtain ⟨a, -, ha⟩ := eq_some_of_bind hcontrol'
  exact hrest a control' ha

theorem sameRegistry_run {α : Type} (operation : Operation α) :
    SameRegistry control (some (control.run operation)) := by
  intro control' hcontrol'
  cases hcontrol'
  rfl

theorem sameRegistry_none : SameRegistry control none := by
  intro control' hcontrol'
  cases hcontrol'

theorem sameRegistry_saveAgentConfigPolicy (scope nodeId : String) (policy : Server.AgentConfigPolicy) :
    SameRegistry control (saveAgentConfigPolicy control scope nodeId policy) := by
  intro control' hsave
  unfold saveAgentConfigPolicy at hsave
  split at hsave
  · cases hsave
  · cases hsave
    rfl

theorem sameRegistry_updateServerLogPolicy (policy : Server.LogPolicy) :
    SameRegistry control (updateServerLogPolicy control policy) := by
  intro control' hsave
  unfold updateServerLogPolicy at hsave
  split at hsave
  · cases hsave
  · cases hsave
    rfl

/-- The other handlers leave the registry. -/
theorem perform_sameRegistry {endpoint : Endpoint} {user : Option AuthUser} {params : List String}
    (habout : endpoint.aboutRegistry = false) :
    SameRegistry control (endpoint.perform deployment request user params control) := by
  cases endpoint with
  | setupAdmin =>
      refine sameRegistry_bind fun body => ?_
      obtain ⟨username, password, token⟩ := body
      dsimp only
      split
      · exact sameRegistry_none
      · exact sameRegistry_run _
  | login =>
      refine sameRegistry_bind fun body => ?_
      obtain ⟨username, password⟩ := body
      exact sameRegistry_run _
  | logout => exact sameRegistry_bind fun _ => sameRegistry_bind fun _ => sameRegistry_run _
  | changePassword =>
      refine sameRegistry_bind fun _ => sameRegistry_bind fun body => ?_
      obtain ⟨currentPassword, newPassword⟩ := body
      exact sameRegistry_run _
  | createUser =>
      exact sameRegistry_bind fun _ => sameRegistry_bind fun _ => sameRegistry_bind fun _ => sameRegistry_run _
  | updateUser =>
      refine sameRegistry_bind fun _ => sameRegistry_bind fun _ => ?_
      exact sameRegistry_bind fun _ => sameRegistry_bind fun _ => sameRegistry_run _
  | createGroup =>
      exact sameRegistry_bind fun _ => sameRegistry_bind fun _ => sameRegistry_bind fun _ => sameRegistry_run _
  | updateGroup =>
      refine sameRegistry_bind fun _ => sameRegistry_bind fun _ => ?_
      exact sameRegistry_bind fun _ => sameRegistry_bind fun _ => sameRegistry_run _
  | updateGroupMembers =>
      refine sameRegistry_bind fun _ => sameRegistry_bind fun _ => ?_
      exact sameRegistry_bind fun _ => sameRegistry_bind fun _ => sameRegistry_run _
  | deleteGroup =>
      exact sameRegistry_bind fun _ => sameRegistry_bind fun _ => sameRegistry_bind fun _ => sameRegistry_run _
  | updateGlobalAgentConfigPolicy =>
      exact sameRegistry_bind fun _ => sameRegistry_bind fun _ => sameRegistry_saveAgentConfigPolicy _ _ _
  | updateNodeAgentConfigPolicy =>
      refine sameRegistry_bind fun _ => sameRegistry_bind fun _ => ?_
      exact sameRegistry_bind fun _ => sameRegistry_saveAgentConfigPolicy _ _ _
  | updateServerLogPolicy =>
      exact sameRegistry_bind fun _ => sameRegistry_bind fun _ => sameRegistry_updateServerLogPolicy _
  | cleanupModelFileTrash =>
      refine sameRegistry_bind fun _ => sameRegistry_bind fun id => ?_
      intro control' hcontrol'
      cases hcontrol'
      rfl
  | registerCollectorEntry => cases habout
  | updateCollectorEntry => cases habout
  | deleteCollectorEntry => cases habout
  | _ => exact sameRegistry_none

/-- A request leaves the registry, or it is one of an administrator that writes it. -/
theorem handle_registry (deployment : Deployment) (request : HttpRequest) (control : Control) :
    (handle deployment request control).collectorRegistry = control.collectorRegistry ∨
      SentByAdmin deployment control request ∧
        WritesRegistry deployment control request (handle deployment request control) := by
  unfold handle
  cases hlookup : lookup routes request.method.routed request.path with
  | none => exact Or.inl rfl
  | some found =>
      obtain ⟨endpoint, params⟩ := found
      dsimp only
      have hgetD : ∀ {before : Control} {user : Option AuthUser},
          before.collectorRegistry = control.collectorRegistry → endpoint.aboutRegistry = false →
            ((endpoint.perform deployment request user params before).getD before).collectorRegistry
              = control.collectorRegistry := by
        intro before user hsame habout
        cases hperform : endpoint.perform deployment request user params before with
        | none => exact hsame
        | some after => exact (perform_sameRegistry habout after hperform).trans hsame
      by_cases hexempt : withoutSession request.path = true
      · rw [if_pos hexempt]
        cases habout : endpoint.aboutRegistry with
        | false => exact Or.inl (hgetD rfl habout)
        | true =>
            cases hperform : endpoint.perform deployment request none params control with
            | none => exact Or.inl rfl
            | some after =>
                obtain ⟨-, u, hnone, -⟩ := perform_registry habout hperform
                cases hnone
      rw [if_neg hexempt]
      cases hsession : request.session with
      | none => exact Or.inl rfl
      | some token =>
          dsimp only
          split
          · rename_i user haccepted
            by_cases hadmits : admits user request.method request.path = true
            · rw [if_pos hadmits]
              cases habout : endpoint.aboutRegistry with
              | false => exact Or.inl (hgetD rfl habout)
              | true =>
                  cases hperform : endpoint.perform deployment request (some user) params
                      (control.run (authenticateSession deployment.crypto token
                        deployment.policies.session)) with
                  | none => exact Or.inl rfl
                  | some after =>
                      right
                      obtain ⟨hwrites, u, hu, hrole⟩ := perform_registry habout hperform
                      cases hu
                      refine ⟨⟨user, ?_, hrole, ?_⟩, ?_⟩
                      · unfold HttpRequest.user authenticated
                        rw [hsession, Option.bind_some, haccepted]
                      · by_contra hmust
                        have hpath : isPasswordChangeAllowedPath request.path = true := by
                          have hallowed := (Bool.and_eq_true_iff.mp hadmits).1
                          simpa [Bool.not_eq_false _ ▸ hmust] using hallowed
                        have hendpoint := endpoint_of_passwordChange hlookup hpath
                        simp only [List.mem_cons, List.not_mem_nil, or_false] at hendpoint
                        obtain rfl | rfl | rfl | rfl := hendpoint <;> cases habout
                      · cases hwrites with
                        | register before register hsame hbody =>
                            exact .register before register hsame hbody
                        | delete before id version hsame => exact .delete before id version hsame
            · rw [if_neg hadmits]
              exact Or.inl rfl
          · exact Or.inl rfl

/-- The row that is found after a registration was there, or is that of the request. -/
theorem find?_registerCollector {register : RegisterCollectorRequest} {key : String × String}
    {row : CollectorRegistryEntry}
    (hfind : (registerCollector control register).collectorRegistry.find? key = some row) :
    control.collectorRegistry.find? key = some row ∨
      key = (register.id, register.version) ∧ row.discoverSha256 = register.discoverSha256
        ∧ row.metricsSha256 = register.metricsSha256 ∧ row.enabled = register.enabled := by
  unfold registerCollector at hfind
  dsimp only at hfind
  rw [Table.find?_upsert] at hfind
  split at hfind
  · rename_i hkey
    right
    refine ⟨hkey, ?_⟩
    rw [← Option.some.inj hfind]
    cases control.collectorRegistry.find? _ with
    | none => exact ⟨rfl, rfl, rfl⟩
    | some before => exact ⟨rfl, rfl, rfl⟩
  · exact Or.inl hfind

end Requests

end LightAI.Users

namespace LightAI.ScriptOrigin

open Users (CollectorRegistryEntry Control ControlEvent Deployment HttpRequest RegisterCollectorRequest
  SentByAdmin)
open CollectorCli (Collector CollectorRow hashCollector registerOne)
open Collectors (Bytes CollectorsTree Execution Registered entryHash)
open Heartbeats (Cycle Loop executedBy)
open Agent (RegistryEntry RuntimeConfig)

/-! ### Commands on the console -/

def toRow (entry : CollectorRegistryEntry) : CollectorRow where
  id := entry.id
  version := entry.version
  vendor := entry.vendor
  name := entry.name
  description := entry.description
  discoverSha256 := entry.discoverSha256
  metricsSha256 := entry.metricsSha256
  enabled := entry.enabled
  createdAt := entry.createdAt
  updatedAt := entry.updatedAt

def ofRow (row : CollectorRow) : CollectorRegistryEntry where
  id := row.id
  vendor := row.vendor
  name := row.name
  version := row.version
  description := row.description
  discoverSha256 := row.discoverSha256
  metricsSha256 := row.metricsSha256
  enabled := row.enabled
  createdAt := row.createdAt
  updatedAt := row.updatedAt

theorem toRow_ofRow (row : CollectorRow) : toRow (ofRow row) = row := rfl

theorem toRow_key (entry : CollectorRegistryEntry) : (toRow entry).key = entry.key := rfl

theorem ofRow_key (row : CollectorRow) : (ofRow row).key = row.key := rfl

variable (sha256 : Bytes → String)

/-- `register_one` on the tables of the server. -/
def registerDir (tree : CollectorsTree) (dir : String) (control : Control) : Control :=
  let registry := control.collectorRegistry.mapRows toRow toRow_key
  { control with
    collectorRegistry :=
      (registerOne sha256 tree control.accounts.clock dir registry).2.mapRows ofRow ofRow_key }

variable {sha256}

/-- The row that a command stores under a new key. -/
def commandRow (manifest : CollectorCli.CollectorManifest) (collector : Collector) (now : Int) :
    CollectorRow where
  id := collector.id
  version := collector.version
  vendor := manifest.vendor
  name := manifest.name
  description := manifest.description
  discoverSha256 := collector.discoverSha256
  metricsSha256 := collector.metricsSha256
  enabled := true
  createdAt := now
  updatedAt := now

theorem registerOne_registry {tree : CollectorsTree} {dir : String} {registry : CollectorCli.Registry}
    {now : Int} {manifest : CollectorCli.CollectorManifest} {collector : Collector}
    (hread : hashCollector sha256 tree dir = .ok (manifest, collector)) :
    (registerOne sha256 tree now dir registry).2
      = registry.upsert (commandRow manifest collector now) (commandRow manifest collector now).update
          (CollectorCli.key_update _) := by
  unfold registerOne
  rw [hread]
  dsimp only
  split <;> rfl

/-- The row that is found after a command was there, or it has the hashes of the files, and it is enabled
only if there was none or that one was. -/
theorem find?_registerDir {tree : CollectorsTree} {dir : String} {control : Control} {key : String × String}
    {row : CollectorRegistryEntry}
    (hfind : (registerDir sha256 tree dir control).collectorRegistry.find? key = some row) :
    control.collectorRegistry.find? key = some row ∨
      ∃ manifest collector, hashCollector sha256 tree dir = .ok (manifest, collector)
        ∧ key = (collector.id, collector.version) ∧ row.discoverSha256 = collector.discoverSha256
        ∧ row.metricsSha256 = collector.metricsSha256
        ∧ ∀ before, control.collectorRegistry.find? key = some before → row.enabled = before.enabled := by
  unfold registerDir at hfind
  dsimp only at hfind
  rw [Table.find?_mapRows] at hfind
  obtain ⟨after, hafter, rfl⟩ := Option.map_eq_some_iff.mp hfind
  have hkept : ∀ before : CollectorRow,
      (control.collectorRegistry.mapRows toRow toRow_key).find? key = some before →
        control.collectorRegistry.find? key = some (ofRow before) := by
    intro before hbefore
    rw [Table.find?_mapRows] at hbefore
    obtain ⟨entry, hentry, rfl⟩ := Option.map_eq_some_iff.mp hbefore
    exact hentry
  cases hread : hashCollector sha256 tree dir with
  | error reason =>
      unfold registerOne at hafter
      rw [hread] at hafter
      exact Or.inl (hkept after hafter)
  | ok found =>
      obtain ⟨manifest, collector⟩ := found
      rw [registerOne_registry hread, Table.find?_upsert] at hafter
      by_cases hkey : key = (collector.id, collector.version)
      · have hrow : key = (commandRow manifest collector control.accounts.clock).key := hkey
        rw [if_pos hrow, ← hrow] at hafter
        right
        refine ⟨manifest, collector, rfl, hkey, ?_⟩
        rw [← Option.some.inj hafter]
        cases hfound : (control.collectorRegistry.mapRows toRow toRow_key).find? key with
        | none =>
            refine ⟨rfl, rfl, fun before hbefore => ?_⟩
            rw [Table.find?_mapRows, hbefore] at hfound
            cases hfound
        | some before' =>
            refine ⟨rfl, rfl, fun before hbefore => ?_⟩
            rw [hkept before' hfound] at hbefore
            rw [← Option.some.inj hbefore]
            rfl
      · have hrow : key ≠ (commandRow manifest collector control.accounts.clock).key := hkey
        rw [if_neg hrow] at hafter
        exact Or.inl (hkept after hafter)

/-! ### The server and the agents -/

/-- The tables of the server, and the loops of the agents by their names. -/
structure Fleet where
  control : Control
  agents : String → Loop

/-- `collector sync` is one command after the other, each for one directory. -/
inductive Event where
  | control (e : ControlEvent)
  | registerOne (tree : CollectorsTree) (dir : String)
  | agent (name : String) (e : Heartbeats.Event)

variable (sha256) (deployment : Deployment)

def step (s : Fleet) : Event → Fleet
  | .control e => { s with control := e.perform deployment s.control }
  | .registerOne tree dir => { s with control := registerDir sha256 tree dir s.control }
  | .agent name e =>
      { s with agents := Function.update s.agents name (Heartbeats.step sha256 (s.agents name) e) }

/-- Nothing is set up, and every agent has just read its configuration file. -/
def start (clock : Int) (settings : String → Agent.CollectorSettings) : Fleet where
  control := Users.emptyControl clock
  agents name := { runtime := RuntimeConfig.fromConfig (settings name) }

/-- A row as it is sent. -/
def sentEntry (row : CollectorRegistryEntry) : RegistryEntry where
  id := row.id
  version := row.version
  discoverSha256 := row.discoverSha256
  metricsSha256 := row.metricsSha256
  enabled := row.enabled

def listCollectorRegistry (control : Control) : List RegistryEntry :=
  (control.collectorRegistry.rows.insertionSort fun a b => a.id ≤ b.id).map sentEntry

/-- The list in an answer that the agent gets in this cycle. -/
def Answers (cycle : Cycle) (registry : List RegistryEntry) : Prop :=
  (∃ token, cycle.fetch token = some registry) ∨
    ∃ token request response, (cycle.heartbeat token request = .accepted response ∨
      cycle.secondHeartbeat token request = .accepted response) ∧ response.collectorRegistry = registry

/-- The server has answered with the list at some moment of the run, or with an empty one because it could
not read the table. -/
def Answered (s : Fleet) (events : List Event) (registry : List RegistryEntry) : Prop :=
  registry = [] ∨ ∃ before after, events = before ++ after ∧
    registry = listCollectorRegistry (Trace.run (step sha256 deployment) s before).control

/-- Whatever an agent gets, early or late, the server has answered. -/
def Served (s : Fleet) (events : List Event) : Prop :=
  ∀ before name cycle after, events = before ++ .agent name (.cycle cycle) :: after →
    ∀ registry, Answers cycle registry → Answered sha256 deployment s before registry

/-! ### Rows and what they come from -/

/-- The table has the collector with these hashes. -/
def Listed (collector : Collector) (s : Fleet) : Prop :=
  ∃ row, s.control.collectorRegistry.find? (collector.id, collector.version) = some row
    ∧ row.discoverSha256 = collector.discoverSha256 ∧ row.metricsSha256 = collector.metricsSha256

/-- The table has the collector, switched on. -/
def Enabled (collector : Collector) (s : Fleet) : Prop :=
  ∃ row, s.control.collectorRegistry.find? (collector.id, collector.version) = some row
    ∧ row.enabled = true

/-- A request of an administrator gives the hashes, or a command has read files that have them. -/
inductive Approves (collector : Collector) (s : Fleet) : Event → Prop
  | request (request : HttpRequest) (register : RegisterCollectorRequest)
      (admin : SentByAdmin deployment s.control request)
      (body : deployment.extract.registerCollector request.body = some register)
      (same : (collector.id, collector.version) = (register.id, register.version))
      (hashes : register.discoverSha256 = collector.discoverSha256
        ∧ register.metricsSha256 = collector.metricsSha256) :
      Approves collector s (.control (.http request))
  | command (tree : CollectorsTree) (dir : String) (manifest : CollectorCli.CollectorManifest)
      (read : hashCollector sha256 tree dir = .ok (manifest, collector)) :
      Approves collector s (.registerOne tree dir)

/-- A request of an administrator says that the collector is enabled, or a command finds it and the table
does not have it. -/
inductive SwitchesOn (collector : Collector) (s : Fleet) : Event → Prop
  | request (request : HttpRequest) (register : RegisterCollectorRequest)
      (admin : SentByAdmin deployment s.control request)
      (body : deployment.extract.registerCollector request.body = some register)
      (same : (collector.id, collector.version) = (register.id, register.version))
      (enabled : register.enabled = true) : SwitchesOn collector s (.control (.http request))
  | command (tree : CollectorsTree) (dir : String) (manifest : CollectorCli.CollectorManifest)
      (found : Collector) (read : hashCollector sha256 tree dir = .ok (manifest, found))
      (same : (collector.id, collector.version) = (found.id, found.version))
      (new : s.control.collectorRegistry.find? (collector.id, collector.version) = none) :
      SwitchesOn collector s (.registerOne tree dir)

/-- What wrote the row under a key. -/
inductive Writes (s : Fleet) (key : String × String) (row : CollectorRegistryEntry) : Event → Prop
  | request (request : HttpRequest) (register : RegisterCollectorRequest)
      (admin : SentByAdmin deployment s.control request)
      (body : deployment.extract.registerCollector request.body = some register)
      (same : key = (register.id, register.version))
      (hashes : row.discoverSha256 = register.discoverSha256 ∧ row.metricsSha256 = register.metricsSha256)
      (enabled : row.enabled = register.enabled) : Writes s key row (.control (.http request))
  | command (tree : CollectorsTree) (dir : String) (manifest : CollectorCli.CollectorManifest)
      (found : Collector) (read : hashCollector sha256 tree dir = .ok (manifest, found))
      (same : key = (found.id, found.version))
      (hashes : row.discoverSha256 = found.discoverSha256 ∧ row.metricsSha256 = found.metricsSha256)
      (kept : ∀ before, s.control.collectorRegistry.find? key = some before → row.enabled = before.enabled) :
      Writes s key row (.registerOne tree dir)

variable {sha256} {deployment}

/-- The row under a key after an event was there, or the event wrote it. -/
theorem row_step {s : Fleet} {e : Event} {key : String × String} {row : CollectorRegistryEntry}
    (hfind : (step sha256 deployment s e).control.collectorRegistry.find? key = some row) :
    s.control.collectorRegistry.find? key = some row ∨ Writes sha256 deployment s key row e := by
  cases e with
  | agent name e => exact Or.inl hfind
  | registerOne tree dir =>
      obtain hsame | ⟨manifest, found, hread, hkey, hdiscover, hmetrics, hkept⟩ := find?_registerDir hfind
      · exact Or.inl hsame
      · exact Or.inr (.command tree dir manifest found hread hkey ⟨hdiscover, hmetrics⟩ hkept)
  | control e =>
      cases e with
      | resetPassword username password policy salt => exact Or.inl hfind
      | tick now => exact Or.inl hfind
      | http request =>
          change (Users.handle deployment request s.control).collectorRegistry.find? key = some row at hfind
          obtain hsame | ⟨hadmin, hwrites⟩ := Users.handle_registry deployment request s.control
          · rw [hsame] at hfind
            exact Or.inl hfind
          · generalize Users.handle deployment request s.control = after at hwrites hfind
            cases hwrites with
            | register before register hsame hbody =>
                obtain hold | ⟨hkey, hdiscover, hmetrics, henabled⟩ := Users.find?_registerCollector hfind
                · rw [hsame] at hold
                  exact Or.inl hold
                · exact Or.inr (.request request register hadmin hbody hkey ⟨hdiscover, hmetrics⟩ henabled)
            | delete before id version hsame =>
                change (before.collectorRegistry.delete (id, version)).find? key = some row at hfind
                rw [Table.find?_delete, hsame] at hfind
                split at hfind
                · cases hfind
                · exact Or.inl hfind

theorem listed_step {collector : Collector} (s : Fleet) (e : Event)
    (h : Listed collector (step sha256 deployment s e)) :
    Listed collector s ∨ Approves sha256 deployment collector s e := by
  obtain ⟨row, hrow, hdiscover, hmetrics⟩ := h
  obtain hsame | hwrites := row_step hrow
  · exact Or.inl ⟨row, hsame, hdiscover, hmetrics⟩
  · right
    cases hwrites with
    | request request register hadmin hbody hkey hhashes henabled =>
        refine .request request register hadmin hbody hkey ⟨?_, ?_⟩
        · exact hhashes.1.symm.trans hdiscover
        · exact hhashes.2.symm.trans hmetrics
    | command tree dir manifest found hread hkey hhashes hkept =>
        obtain ⟨hid, hversion⟩ := Prod.mk.inj hkey
        have hsame : found = collector := by
          cases found
          cases collector
          simp only at hid hversion hhashes hdiscover hmetrics
          rw [← hid, ← hversion, ← hhashes.1, hdiscover, ← hhashes.2, hmetrics]
        exact .command tree dir manifest (hsame ▸ hread)

theorem enabled_step {collector : Collector} (s : Fleet) (e : Event)
    (h : Enabled collector (step sha256 deployment s e)) :
    Enabled collector s ∨ SwitchesOn sha256 deployment collector s e := by
  obtain ⟨row, hrow, hon⟩ := h
  obtain hsame | hwrites := row_step hrow
  · exact Or.inl ⟨row, hsame, hon⟩
  · cases hwrites with
    | request request register hadmin hbody hkey hhashes henabled =>
        exact Or.inr (.request request register hadmin hbody hkey (henabled.symm.trans hon))
    | command tree dir manifest found hread hkey hhashes hkept =>
        cases hbefore : s.control.collectorRegistry.find? (collector.id, collector.version) with
        | none => exact Or.inr (.command tree dir manifest found hread hkey hbefore)
        | some before => exact Or.inl ⟨before, hbefore, (hkept before hbefore).symm.trans hon⟩

/-! ### Lists and copies -/

theorem mem_listCollectorRegistry {control : Control} {entry : RegistryEntry} :
    entry ∈ listCollectorRegistry control ↔ ∃ row ∈ control.collectorRegistry.rows, sentEntry row = entry := by
  unfold listCollectorRegistry
  rw [List.mem_map]
  simp only [List.mem_insertionSort]

section Copies

variable {runtime snapshot : RuntimeConfig} {cycle : Cycle} {entry : RegistryEntry}

/-- The entry is in a list that the cycle gets. -/
def Brought (cycle : Cycle) (entry : RegistryEntry) : Prop := ∃ registry, Answers cycle registry ∧ entry ∈ registry

theorem answers_of_fetched {registry : List RegistryEntry}
    (hfetched : (Heartbeats.runOnce sha256 snapshot cycle).fetched = some registry) :
    Answers cycle registry := by
  unfold Heartbeats.runOnce at hfetched
  cases hidentity : Heartbeats.identify cycle with
  | none =>
      simp only [hidentity] at hfetched
      cases hfetched
  | some identity =>
      simp only [hidentity, Heartbeats.fetchRegistry] at hfetched
      split at hfetched
      · exact Or.inl ⟨_, hfetched⟩
      · cases hfetched

theorem answers_of_report {state : Heartbeats.AgentState} {registered : Option Server.AgentConfig}
    {request : Nodes.HeartbeatRequest} {ending : Heartbeats.Ending}
    (hreport : Heartbeats.report cycle state registered request = some ending) :
    Answers cycle ending.response.collectorRegistry := by
  unfold Heartbeats.report at hreport
  split at hreport
  · rename_i response hanswer
    cases hreport
    exact Or.inr ⟨_, _, response, Or.inl hanswer, rfl⟩
  · cases hreport
  · split at hreport
    · cases hreport
    · split at hreport
      · rename_i response hanswer
        cases hreport
        exact Or.inr ⟨_, _, response, Or.inr hanswer, rfl⟩
      · cases hreport
      · cases hreport

/-- A cycle goes by what it fetches or by the copy. -/
theorem mem_usedRegistry (hentry : entry ∈ (Heartbeats.runOnce sha256 snapshot cycle).usedRegistry) :
    entry ∈ snapshot.collectorRegistry ∨ Brought cycle entry := by
  have hused : (Heartbeats.runOnce sha256 snapshot cycle).usedRegistry
      = (Heartbeats.runOnce sha256 snapshot cycle).fetched.getD snapshot.collectorRegistry := by
    unfold Heartbeats.runOnce at hentry ⊢
    cases hidentity : Heartbeats.identify cycle with
    | none =>
        simp only [hidentity] at hentry
        cases hentry
    | some identity => rfl
  rw [hused] at hentry
  cases hfetched : (Heartbeats.runOnce sha256 snapshot cycle).fetched with
  | none =>
      rw [hfetched] at hentry
      exact Or.inl hentry
  | some registry =>
      rw [hfetched] at hentry
      exact Or.inr ⟨registry, answers_of_fetched hfetched, hentry⟩

theorem mem_settle (hentry : entry ∈
      (Heartbeats.settle runtime (Heartbeats.runOnce sha256 snapshot cycle)).collectorRegistry) :
    entry ∈ runtime.collectorRegistry ∨ entry ∈ snapshot.collectorRegistry ∨ Brought cycle entry := by
  cases hending : (Heartbeats.runOnce sha256 snapshot cycle).ending with
  | none =>
      simp only [Heartbeats.settle, hending] at hentry
      exact Or.inl hentry
  | some ending =>
      simp only [Heartbeats.settle, hending, Heartbeats.mergedRegistry] at hentry
      split at hentry
      · exact Or.inr (mem_usedRegistry hentry)
      · split at hentry
        · refine Or.inr (Or.inr ⟨_, ?_, hentry⟩)
          unfold Heartbeats.runOnce at hending
          cases hidentity : Heartbeats.identify cycle with
          | none =>
              simp only [hidentity] at hending
              cases hending
          | some identity =>
              simp only [hidentity] at hending
              exact answers_of_report hending
        · exact Or.inl hentry

/-- The agent has the entry, in its configuration or in the copy of the cycle under way. -/
def HasEntry (entry : RegistryEntry) (loop : Loop) : Prop :=
  entry ∈ loop.runtime.collectorRegistry ∨
    ∃ snapshot, loop.snapshot = some snapshot ∧ entry ∈ snapshot.collectorRegistry

theorem hasEntry_step {loop : Loop} {e : Heartbeats.Event}
    (h : HasEntry entry (Heartbeats.step sha256 loop e)) :
    HasEntry entry loop ∨ ∃ cycle, e = .cycle cycle ∧ Brought cycle entry := by
  cases e with
  | wake =>
      obtain hruntime | ⟨snapshot, hsnapshot, hentry⟩ := h
      · exact Or.inl (Or.inl hruntime)
      · rw [← Option.some.inj hsnapshot] at hentry
        exact Or.inl (Or.inl hentry)
  | poll config =>
      obtain hruntime | hsnapshot := h
      · change entry ∈ (loop.runtime.applyServerConfig (some config)).collectorRegistry at hruntime
        rw [Heartbeats.collectorRegistry_applyServerConfig] at hruntime
        exact Or.inl (Or.inl hruntime)
      · exact Or.inl (Or.inr hsnapshot)
  | cycle cycle =>
      unfold Heartbeats.step at h
      cases hbegun : loop.snapshot with
      | none =>
          simp only [hbegun] at h
          exact Or.inl h
      | some snapshot =>
          simp only [hbegun] at h
          obtain hruntime | ⟨snapshot', hnone, -⟩ := h
          · obtain hkept | hcopied | hbrought := mem_settle hruntime
            · exact Or.inl (Or.inl hkept)
            · exact Or.inl (Or.inr ⟨snapshot, hbegun, hcopied⟩)
            · exact Or.inr ⟨cycle, rfl, hbrought⟩
          · cases hnone

end Copies

/-! ### Scripts that run -/

def scriptHash (collector : Collector) : Collectors.Script → String
  | .discover => collector.discoverSha256
  | .metrics => collector.metricsSha256

/-- The execution is one of the collector, of a script with the hash that the collector has for it. -/
def Covers (sha256 : Bytes → String) (collector : Collector) (record : Execution) : Prop :=
  collector.id = record.id ∧ collector.version = record.version ∧
    scriptHash collector record.script = sha256 record.bytes

section Runs

variable {clock : Int} {settings : String → Agent.CollectorSettings}

/-- The fleet after the events of a run. -/
abbrev fleetAfter (sha256 : Bytes → String) (deployment : Deployment) (clock : Int)
    (settings : String → Agent.CollectorSettings) (events : List Event) : Fleet :=
  Trace.run (step sha256 deployment) (start clock settings) events

def AgentHas (name : String) (entry : RegistryEntry) (s : Fleet) : Prop := HasEntry entry (s.agents name)

/-- The event is the end of a cycle of the agent that gets the entry. -/
def Brings (name : String) (entry : RegistryEntry) (_ : Fleet) (e : Event) : Prop :=
  ∃ cycle, e = .agent name (.cycle cycle) ∧ Brought cycle entry

theorem agentHas_step {name : String} {entry : RegistryEntry} (s : Fleet) (e : Event)
    (h : AgentHas name entry (step sha256 deployment s e)) :
    AgentHas name entry s ∨ Brings name entry s e := by
  cases e with
  | control e => exact Or.inl h
  | registerOne tree dir => exact Or.inl h
  | agent other e =>
      change HasEntry entry (Function.update s.agents other _ name) at h
      by_cases hname : name = other
      · subst hname
        rw [Function.update_self] at h
        obtain hkept | ⟨cycle, rfl, hbrought⟩ := hasEntry_step h
        · exact Or.inl hkept
        · exact Or.inr ⟨cycle, rfl, hbrought⟩
      · rw [Function.update_of_ne hname] at h
        exact Or.inl h

/-- An entry that an agent has was in the table at some moment. -/
theorem listed_of_agentHas {events : List Event} {name : String} {entry : RegistryEntry}
    (hserved : Served sha256 deployment (start clock settings) events)
    (hhas : AgentHas name entry (fleetAfter sha256 deployment clock settings events)) :
    ∃ moment later, events = moment ++ later ∧
      entry ∈ listCollectorRegistry (fleetAfter sha256 deployment clock settings moment).control := by
  have hstart : ¬ AgentHas name entry (start clock settings) := by
    rintro (hruntime | ⟨snapshot, hnone, -⟩)
    · cases hruntime
    · cases hnone
  obtain ⟨before, e, after, hsplit, cycle, rfl, registry, hanswers, hentry⟩ :=
    (Trace.since_of_holds agentHas_step hstart events hhas).cause
  obtain hempty | ⟨moment, later, hbefore, hlisted⟩ := hserved before name cycle after hsplit registry hanswers
  · rw [hempty] at hentry
    cases hentry
  · refine ⟨moment, later ++ .agent name (.cycle cycle) :: after, ?_, hlisted ▸ hentry⟩
    rw [hsplit, hbefore, List.append_assoc]

/-- A script that an agent runs has a hash that the table had at a moment of the run, for a collector that
was switched on at that moment. The hash was approved, and the collector switched on, by a request of an
administrator or by a command, and both have held from then to that moment. -/
theorem executed_script_origin (events : List Event) (name : String) (cycle : Cycle)
    (hserved : Served sha256 deployment (start clock settings) (events ++ [.agent name (.cycle cycle)]))
    {record : Execution}
    (hrecord : record ∈ executedBy sha256
      ((fleetAfter sha256 deployment clock settings events).agents name) (.cycle cycle)) :
    ∃ moment later collector, events = moment ++ later ∧ Covers sha256 collector record
      ∧ Trace.Since (step sha256 deployment) (Approves sha256 deployment collector) (Listed collector)
          (start clock settings) moment
      ∧ Trace.Since (step sha256 deployment) (SwitchesOn sha256 deployment collector) (Enabled collector)
          (start clock settings) moment := by
  have hearlier : Served sha256 deployment (start clock settings) events := by
    intro before name' cycle' after hsplit
    refine hserved before name' cycle' (after ++ [.agent name (.cycle cycle)]) ?_
    rw [hsplit, List.append_assoc, List.cons_append]
  generalize hloop : (fleetAfter sha256 deployment clock settings events).agents name = loop at hrecord
  obtain ⟨snapshot, hsnapshot, hexecuted⟩ : ∃ snapshot, loop.snapshot = some snapshot ∧
      record ∈ (Heartbeats.runOnce sha256 snapshot cycle).collected.executed := by
    unfold executedBy at hrecord
    cases hbegun : loop.snapshot with
    | none =>
        simp only [hbegun] at hrecord
        cases hrecord
    | some snapshot =>
        simp only [hbegun] at hrecord
        exact ⟨snapshot, rfl, hrecord⟩
  obtain ⟨entry, hentry, hon, hid, hversion, hhash⟩ := Heartbeats.registered_of_runOnce hexecuted
  obtain ⟨moment, later, hsplit, hlisted⟩ : ∃ moment later, events = moment ++ later ∧
      entry ∈ listCollectorRegistry (fleetAfter sha256 deployment clock settings moment).control := by
    obtain hcopied | ⟨registry, hanswers, hbrought⟩ := mem_usedRegistry hentry
    · refine @listed_of_agentHas _ _ _ _ _ name entry hearlier ?_
      unfold AgentHas
      rw [hloop]
      exact Or.inr ⟨snapshot, hsnapshot, hcopied⟩
    · obtain hempty | ⟨moment, later, hsplit, hlist⟩ := hserved events name cycle [] rfl registry hanswers
      · rw [hempty] at hbrought
        cases hbrought
      · exact ⟨moment, later, hsplit, hlist ▸ hbrought⟩
  obtain ⟨row, hrow, rfl⟩ := mem_listCollectorRegistry.mp hlisted
  have hfind := Table.find?_of_mem hrow
  refine ⟨moment, later, ⟨row.id, row.version, row.discoverSha256, row.metricsSha256⟩, hsplit,
    ⟨hid, hversion, ?_⟩, ?_, ?_⟩
  · rw [← hhash]
    cases record.script <;> rfl
  · refine Trace.since_of_holds listed_step ?_ moment ⟨row, hfind, rfl, rfl⟩
    rintro ⟨row', hnone, -⟩
    cases hnone
  · refine Trace.since_of_holds enabled_step ?_ moment ⟨row, hfind, hon⟩
    rintro ⟨row', hnone, -⟩
    cases hnone

end Runs

/-! ### A collector of the console -/

def nvidiaTree : CollectorsTree where
  entries := some [{ path := "/gpu/nvidia", fileName := some "nvidia" }]
  manifest := fun dir =>
    if dir = "/gpu/nvidia" then
      some (some [("id", .str "nvidia"), ("vendor", .str "nvidia"), ("name", .str "NVIDIA"),
        ("version", .str "1.0.0"), ("discover", .str "discover.sh"), ("metrics", .str "metrics.sh")])
    else none
  file := fun dir name =>
    if dir = "/gpu/nvidia" ∧ (name = "discover.sh" ∨ name = "metrics.sh") then some (some []) else none

def nvidiaSettings : String → Agent.CollectorSettings := fun _ =>
  { collectorRoot := some "gpu", collectorEnabled := ["nvidia"] }

def registeredEvents : List Event := [.registerOne nvidiaTree "/gpu/nvidia", .agent "node-a" .wake]

def nvidiaCycle : Cycle := Heartbeats.fetchCycle (some [Collectors.nvidiaEntry])

theorem listed_registeredEvents :
    listCollectorRegistry (fleetAfter (fun _ => Collectors.emptySha256) Users.setUpDeployment 0 nvidiaSettings
      registeredEvents).control = [Collectors.nvidiaEntry] := by
  decide +kernel

theorem served_nvidiaCycle :
    Served (fun _ => Collectors.emptySha256) Users.setUpDeployment (start 0 nvidiaSettings)
      (registeredEvents ++ [.agent "node-a" (.cycle nvidiaCycle)]) := by
  intro before name cycle after hsplit registry hanswers
  have hlast : before = registeredEvents ∧ cycle = nvidiaCycle := by
    rcases before with _ | ⟨first, _ | ⟨second, _ | ⟨third, rest⟩⟩⟩
    · simp [registeredEvents] at hsplit
    · simp [registeredEvents] at hsplit
    · simp only [registeredEvents, List.cons_append, List.nil_append, List.cons.injEq] at hsplit
      obtain ⟨rfl, rfl, hevent, -⟩ := hsplit
      cases hevent
      exact ⟨rfl, rfl⟩
    · simp [registeredEvents] at hsplit
  obtain ⟨rfl, rfl⟩ := hlast
  obtain ⟨token, hfetched⟩ | ⟨token, request, response, hanswer, hregistry⟩ := hanswers
  · right
    refine ⟨registeredEvents, [], (List.append_nil _).symm, ?_⟩
    exact (Option.some.inj hfetched).symm.trans listed_registeredEvents.symm
  · left
    obtain haccepted | hfailed := hanswer
    · cases haccepted
      exact hregistry.symm
    · cases hfailed

theorem executed_script_origin_nvidia :
    ∃ moment later collector, registeredEvents = moment ++ later
      ∧ Covers (fun _ => Collectors.emptySha256) collector (Collectors.discoverRun none)
      ∧ Trace.Since (step (fun _ => Collectors.emptySha256) Users.setUpDeployment)
          (Approves (fun _ => Collectors.emptySha256) Users.setUpDeployment collector) (Listed collector)
          (start 0 nvidiaSettings) moment
      ∧ Trace.Since (step (fun _ => Collectors.emptySha256) Users.setUpDeployment)
          (SwitchesOn (fun _ => Collectors.emptySha256) Users.setUpDeployment collector)
          (Enabled collector) (start 0 nvidiaSettings) moment := by
  refine executed_script_origin registeredEvents "node-a" nvidiaCycle served_nvidiaCycle ?_
  decide +kernel

end LightAI.ScriptOrigin
