import LightAI.Base.Router
import LightAI.Server.AgentConfig
import LightAI.Server.Access

/-!
# The control plane and the state of administrators

The routes, the authentication in front of them and the handlers as far as they write the tables that
administrators look after: the policies of the agents, users and groups, the registry of collectors,
the log policy of the server and the physical cleanup of the trash.
-/

namespace LightAI.Users

open Fallible Router

/-! ### Routes -/

/-- The handlers, under their names. -/
inductive Endpoint where
  | health
  | serveCaCert
  | serveCaFingerprint
  | securityStatus
  | setupStatus
  | setupAdmin
  | login
  | logout
  | currentUser
  | changePassword
  | listUsers
  | createUser
  | updateUser
  | listGroups
  | createGroup
  | updateGroup
  | deleteGroup
  | updateGroupMembers
  | registerAgent
  | agentHeartbeat
  | agentCollectorRegistry
  | listNodes
  | listAgentConfigPolicies
  | getGlobalAgentConfigPolicy
  | updateGlobalAgentConfigPolicy
  | getNodeAgentConfigPolicy
  | updateNodeAgentConfigPolicy
  | nodeMetrics
  | gpuMetrics
  | gpuMetricsByQuery
  | listRuntimeEnvironments
  | listNodeRuntimeEnvironments
  | createRuntimeEnvironment
  | getRuntimeEnvironment
  | updateRuntimeEnvironment
  | deleteRuntimeEnvironment
  | checkRuntimeEnvironment
  | listCollectorRegistryEntries
  | registerCollectorEntry
  | getCollectorEntry
  | updateCollectorEntry
  | deleteCollectorEntry
  | listModels
  | createModel
  | getModel
  | updateModel
  | deleteModel
  | listModelFiles
  | createModelFile
  | getModelFile
  | updateModelFile
  | deleteModelFile
  | verifyModelFile
  | createModelFileTrash
  | listModelInstances
  | createModelInstance
  | getModelInstance
  | updateModelInstance
  | deleteModelInstance
  | checkModelInstance
  | startModelInstance
  | stopModelInstance
  | testModelInstance
  | refreshInstanceLogs
  | startGateway
  | stopGateway
  | restartGateway
  | checkGateway
  | readGatewayLog
  | listModelFileTrash
  | listOllamaModels
  | readLogs
  | reportFrontendError
  | listAuditEvents
  | getServerLogPolicy
  | updateServerLogPolicy
  | cleanupModelFileTrash
  | deleteModelFileTrash
  | agentTaskPoll
  | agentTaskResult
  deriving DecidableEq

/-- The table of `app_with_web`, in its order. -/
def routes : List (Route Method Endpoint) :=
  [ route ["health"] [(.get, .health)],
    route [".well-known", "lightai", "ca.crt"] [(.get, .serveCaCert)],
    route [".well-known", "lightai", "ca-fingerprint"] [(.get, .serveCaFingerprint)],
    route ["api", "security", "status"] [(.get, .securityStatus)],
    route ["api", "setup", "status"] [(.get, .setupStatus)],
    route ["api", "setup", "admin"] [(.post, .setupAdmin)],
    route ["api", "auth", "login"] [(.post, .login)],
    route ["api", "auth", "logout"] [(.post, .logout)],
    route ["api", "auth", "me"] [(.get, .currentUser)],
    route ["api", "auth", "change-password"] [(.post, .changePassword)],
    route ["api", "users"] [(.get, .listUsers), (.post, .createUser)],
    route ["api", "users", ":id"] [(.put, .updateUser)],
    route ["api", "groups"] [(.get, .listGroups), (.post, .createGroup)],
    route ["api", "groups", ":id"] [(.put, .updateGroup), (.delete, .deleteGroup)],
    route ["api", "groups", ":id", "members"] [(.put, .updateGroupMembers)],
    route ["api", "agent", "register"] [(.post, .registerAgent)],
    route ["api", "agent", "heartbeat"] [(.post, .agentHeartbeat)],
    route ["api", "agent", "collector-registry"] [(.get, .agentCollectorRegistry)],
    route ["api", "nodes"] [(.get, .listNodes)],
    route ["api", "config", "agent"] [(.get, .listAgentConfigPolicies)],
    route ["api", "config", "agent", "global"]
      [(.get, .getGlobalAgentConfigPolicy), (.put, .updateGlobalAgentConfigPolicy)],
    route ["api", "nodes", ":node_id", "config"]
      [(.get, .getNodeAgentConfigPolicy), (.put, .updateNodeAgentConfigPolicy)],
    route ["api", "nodes", ":node_id", "metrics"] [(.get, .nodeMetrics)],
    route ["api", "nodes", ":node_id", "gpus", ":gpu_key", "metrics"] [(.get, .gpuMetrics)],
    route ["api", "nodes", ":node_id", "gpu-metrics"] [(.get, .gpuMetricsByQuery)],
    route ["api", "runtime-environments"] [(.get, .listRuntimeEnvironments)],
    route ["api", "nodes", ":node_id", "runtime-environments"]
      [(.get, .listNodeRuntimeEnvironments), (.post, .createRuntimeEnvironment)],
    route ["api", "runtime-environments", ":id"]
      [(.get, .getRuntimeEnvironment), (.put, .updateRuntimeEnvironment),
        (.delete, .deleteRuntimeEnvironment)],
    route ["api", "runtime-environments", ":id", "check"] [(.post, .checkRuntimeEnvironment)],
    route ["api", "collector-registry"]
      [(.get, .listCollectorRegistryEntries), (.post, .registerCollectorEntry)],
    route ["api", "collector-registry", ":id", ":version"]
      [(.get, .getCollectorEntry), (.put, .updateCollectorEntry), (.delete, .deleteCollectorEntry)],
    route ["api", "models"] [(.get, .listModels), (.post, .createModel)],
    route ["api", "models", ":id"]
      [(.get, .getModel), (.put, .updateModel), (.delete, .deleteModel)],
    route ["api", "models", ":id", "files"] [(.get, .listModelFiles), (.post, .createModelFile)],
    route ["api", "model-files", ":id"]
      [(.get, .getModelFile), (.put, .updateModelFile), (.delete, .deleteModelFile)],
    route ["api", "model-files", ":id", "verify"] [(.post, .verifyModelFile)],
    route ["api", "model-files", ":id", "trash"] [(.post, .createModelFileTrash)],
    route ["api", "model-instances"] [(.get, .listModelInstances), (.post, .createModelInstance)],
    route ["api", "model-instances", ":id"]
      [(.get, .getModelInstance), (.put, .updateModelInstance), (.delete, .deleteModelInstance)],
    route ["api", "model-instances", ":id", "check"] [(.post, .checkModelInstance)],
    route ["api", "model-instances", ":id", "start"] [(.post, .startModelInstance)],
    route ["api", "model-instances", ":id", "stop"] [(.post, .stopModelInstance)],
    route ["api", "model-instances", ":id", "test"] [(.post, .testModelInstance)],
    route ["api", "model-instances", ":id", "logs"] [(.post, .refreshInstanceLogs)],
    route ["api", "nodes", ":node_id", "gateway", "start"] [(.post, .startGateway)],
    route ["api", "nodes", ":node_id", "gateway", "stop"] [(.post, .stopGateway)],
    route ["api", "nodes", ":node_id", "gateway", "restart"] [(.post, .restartGateway)],
    route ["api", "nodes", ":node_id", "gateway", "check"] [(.post, .checkGateway)],
    route ["api", "nodes", ":node_id", "gateway", "logs"] [(.post, .readGatewayLog)],
    route ["api", "model-file-trash"] [(.get, .listModelFileTrash)],
    route ["api", "ollama", "models"] [(.get, .listOllamaModels)],
    route ["api", "logs"] [(.get, .readLogs)],
    route ["api", "frontend-errors"] [(.post, .reportFrontendError)],
    route ["api", "audit-events"] [(.get, .listAuditEvents)],
    route ["api", "config", "server-logs"]
      [(.get, .getServerLogPolicy), (.put, .updateServerLogPolicy)],
    route ["api", "model-file-trash", ":id", "cleanup"] [(.post, .cleanupModelFileTrash)],
    route ["api", "model-file-trash", ":id"] [(.delete, .deleteModelFileTrash)],
    route ["api", "agent", "tasks", "poll"] [(.post, .agentTaskPoll)],
    route ["api", "agent", "tasks", ":id", "result"] [(.post, .agentTaskResult)] ]

/-- A handler of `GET` answers `HEAD` too. -/
def Method.routed : Method → Method
  | head => get
  | method => method

/-! ### The state -/

structure CollectorRegistryEntry where
  id : String
  vendor : String
  name : String
  version : String
  description : String
  discoverSha256 : String
  metricsSha256 : String
  enabled : Bool
  createdAt : Int
  updatedAt : Int

def CollectorRegistryEntry.key (entry : CollectorRegistryEntry) : String × String :=
  (entry.id, entry.version)

structure RegisterCollectorRequest where
  id : String
  vendor : String
  name : String
  version : String
  description : String := ""
  discoverSha256 : String
  metricsSha256 : String
  enabled : Bool := true

/-- The tables of administrators. -/
structure Control where
  accounts : Accounts
  agentConfigPolicies :
    Table (String × String) Server.AgentConfigPolicyRow Server.AgentConfigPolicyRow.key := .empty
  collectorRegistry :
    Table (String × String) CollectorRegistryEntry CollectorRegistryEntry.key := .empty
  /-- The row of `platform_settings`, with its time. -/
  serverLogPolicy : Option (Server.LogPolicy × Int) := none
  /-- The trash items for which `cleanup_model_file_trash` was called. -/
  cleanups : List String := []

/-! ### Policies -/

def validateLogDir (value : String) : Except String Unit :=
  let trimmed := Text.trim value
  if trimmed = "" || Text.contains trimmed ".." || trimmed.toList.any (·.toNat = 0) then
    .error "log_dir is invalid"
  -- The only path that is nothing but its root and is written this way.
  else if trimmed = "/" then .error "log_dir is dangerous"
  else .ok ()

def validateLogPolicy (policy : Server.LogPolicy) : Except String Unit := do
  validateLogDir policy.logDir
  if policy.logLevel ∈ ["error", "warn", "info", "debug", "trace"] then pure ()
  else throw "log_level is invalid"
  if policy.logMaxFileBytes = 0 || policy.logMaxFileBytes > 1024 * 1024 * 1024 then
    throw "log_max_file_bytes must be between 1 and 1073741824"
  if policy.logRetentionFiles = 0 || policy.logRetentionFiles > 100 then
    throw "log_retention_files must be between 1 and 100"
  if policy.logRetentionDays > 3650 then
    throw "log_retention_days must be between 0 and 3650"

/-- One round of the loop of `validate_policy` over the intervals. -/
def validateSeconds (name : String) (value : Option Nat) : Except String Unit :=
  if value.any fun value => value = 0 || value > 86400 then
    .error (name ++ " must be between 1 and 86400")
  else .ok ()

def validatePolicy (policy : Server.AgentConfigPolicy) : Except String Unit := do
  validateSeconds "heartbeat_interval_secs" policy.heartbeatIntervalSecs
  validateSeconds "metrics_sample_interval_secs" policy.metricsSampleIntervalSecs
  validateSeconds "command_timeout_secs" policy.commandTimeoutSecs
  validateSeconds "environment_check_timeout_secs" policy.environmentCheckTimeoutSecs
  validateSeconds "collector_timeout_secs" policy.collectorTimeoutSecs
  if policy.collectorMaxOutputBytes.any fun value => value = 0 || value > 16 * 1024 * 1024 then
    throw "collector_max_output_bytes must be between 1 and 16777216"
  if (policy.allowedModelDirs.getD []).any fun dir => Text.isBlank dir || Text.contains dir ".." then
    throw "allowed_model_dirs contains invalid path"
  let default : Server.LogPolicy := {}
  validateLogPolicy
    { logDir := policy.logDir.getD default.logDir
      logLevel := policy.logLevel.getD default.logLevel
      logMaxFileBytes := policy.logMaxFileBytes.getD default.logMaxFileBytes
      logRetentionFiles := policy.logRetentionFiles.getD default.logRetentionFiles
      logRetentionDays := policy.logRetentionDays.getD default.logRetentionDays }

def Control.nextPolicyVersion (control : Control) : Int :=
  ((control.agentConfigPolicies.rows.map (·.version)).max?).getD Server.agentConfigVersion + 1

/-- What an `UPDATE` of a policy leaves of the row. -/
def setPolicy (policy : Server.AgentConfigPolicy) (version now : Int)
    (row : Server.AgentConfigPolicyRow) : Server.AgentConfigPolicyRow :=
  { row with policy, version, updatedAt := now }

theorem setPolicy_key (policy : Server.AgentConfigPolicy) (version now : Int)
    (row : Server.AgentConfigPolicyRow) : (setPolicy policy version now row).key = row.key := rfl

def saveAgentConfigPolicy (control : Control) (scope nodeId : String)
    (policy : Server.AgentConfigPolicy) : Option Control :=
  match validatePolicy policy with
  | .error _ => none
  | .ok _ =>
      let now := control.accounts.clock
      let version := control.nextPolicyVersion
      some { control with
        agentConfigPolicies := control.agentConfigPolicies.upsert
          { scope, nodeId, policy, version, updatedAt := now }
          (setPolicy policy version now) (setPolicy_key policy version now) }

def updateServerLogPolicy (control : Control) (policy : Server.LogPolicy) : Option Control :=
  match validateLogPolicy policy with
  | .error _ => none
  | .ok _ => some { control with serverLogPolicy := some (policy, control.accounts.clock) }

def setCollector (request : RegisterCollectorRequest) (now : Int) (entry : CollectorRegistryEntry) :
    CollectorRegistryEntry :=
  { entry with
    vendor := request.vendor
    name := request.name
    description := request.description
    discoverSha256 := request.discoverSha256
    metricsSha256 := request.metricsSha256
    enabled := request.enabled
    updatedAt := now }

theorem setCollector_key (request : RegisterCollectorRequest) (now : Int)
    (entry : CollectorRegistryEntry) : (setCollector request now entry).key = entry.key := rfl

def registerCollector (control : Control) (request : RegisterCollectorRequest) : Control :=
  let now := control.accounts.clock
  { control with
    collectorRegistry := control.collectorRegistry.upsert
      { id := request.id
        vendor := request.vendor
        name := request.name
        version := request.version
        description := request.description
        discoverSha256 := request.discoverSha256
        metricsSha256 := request.metricsSha256
        enabled := request.enabled
        createdAt := now
        updatedAt := now }
      (setCollector request now) (setCollector_key request now) }

def deleteCollectorRegistryEntry (control : Control) (id version : String) : Control :=
  { control with collectorRegistry := control.collectorRegistry.delete (id, version) }

/-! ### Requests -/

/-- What the extractors of the web framework make of a segment of a path and of a body. -/
structure Extractors where
  path : String → Option String
  setupAdmin : String → Option (String × String × Option String)
  login : String → Option (String × String)
  changePassword : String → Option (String × String)
  userCreate : String → Option UserCreateRequest
  userUpdate : String → Option UserUpdateRequest
  groupCreate : String → Option UserGroupCreateRequest
  groupUpdate : String → Option UserGroupUpdateRequest
  groupMembers : String → Option (List String)
  agentConfigPolicy : String → Option Server.AgentConfigPolicy
  registerCollector : String → Option RegisterCollectorRequest
  logPolicy : String → Option Server.LogPolicy

structure Deployment where
  crypto : Crypto
  policies : Policies := {}
  setupToken : Option String := none
  extract : Extractors

/-- A request, with the values that the server draws at random for it. -/
structure HttpRequest where
  method : Method
  path : String
  body : String := ""
  /-- The session cookie. -/
  session : Option String := none
  id : String
  salt : String
  sessionId : String
  sessionToken : String

/-- An operation of the repository, whatever it answers. -/
def Control.run {α : Type} (control : Control) (operation : Operation α) : Control :=
  { control with accounts := (serve Stmt.exec operation control.accounts).2 }

def requireAdmin (user : AuthUser) : Option Unit :=
  if user.effectiveRole = "admin" then some () else none

/-- `setup_admin` behind the check of its token. -/
def setupAndLogin (deployment : Deployment) (request : HttpRequest) (username password : String) :
    Operation Unit := do
  let _ ← setupInitialAdmin deployment.crypto username password deployment.policies.password
    request.id request.salt
  let _ ← loginUser deployment.crypto username password deployment.policies.session
    deployment.policies.password request.sessionId request.sessionToken
  pure ()

/-- What a handler makes of the tables, unless it ends before it comes to them. The handlers that are
not named write none of them. -/
def Endpoint.perform (deployment : Deployment) (request : HttpRequest) (user : Option AuthUser)
    (params : List String) (control : Control) : Endpoint → Option Control
  | setupAdmin => do
      let (username, password, token) ← deployment.extract.setupAdmin request.body
      if deployment.setupToken.any fun expected => token.getD "" ≠ expected then none
      else some (control.run (setupAndLogin deployment request username password))
  | login => do
      let (username, password) ← deployment.extract.login request.body
      some (control.run (loginUser deployment.crypto username password deployment.policies.session
        deployment.policies.password request.sessionId request.sessionToken))
  | logout => do
      let _ ← user
      let token ← request.session
      some (control.run (revokeSession deployment.crypto token))
  | changePassword => do
      let user ← user
      let (currentPassword, newPassword) ← deployment.extract.changePassword request.body
      some (control.run (changeUserPassword deployment.crypto user.id currentPassword newPassword
        deployment.policies.password request.salt))
  | createUser => do
      let user ← user
      let create ← deployment.extract.userCreate request.body
      requireAdmin user
      some (control.run (createUserWithPolicy deployment.crypto create deployment.policies.password
        request.id request.salt))
  | updateUser => do
      let user ← user
      let id ← params.head?.bind deployment.extract.path
      let update ← deployment.extract.userUpdate request.body
      requireAdmin user
      some (control.run (updateUserWithPolicy deployment.crypto id update
        deployment.policies.password request.salt))
  | createGroup => do
      let user ← user
      let create ← deployment.extract.groupCreate request.body
      requireAdmin user
      some (control.run (createUserGroup create request.id))
  | updateGroup => do
      let user ← user
      let id ← params.head?.bind deployment.extract.path
      let update ← deployment.extract.groupUpdate request.body
      requireAdmin user
      some (control.run (updateUserGroup id update))
  | updateGroupMembers => do
      let user ← user
      let id ← params.head?.bind deployment.extract.path
      let userIds ← deployment.extract.groupMembers request.body
      requireAdmin user
      some (control.run (replaceUserGroupMembers id userIds))
  | deleteGroup => do
      let user ← user
      let id ← params.head?.bind deployment.extract.path
      requireAdmin user
      some (control.run (deleteUserGroup id))
  | updateGlobalAgentConfigPolicy => do
      let _ ← user
      let policy ← deployment.extract.agentConfigPolicy request.body
      saveAgentConfigPolicy control "global" "" policy
  | updateNodeAgentConfigPolicy => do
      let _ ← user
      let nodeId ← params.head?.bind deployment.extract.path
      let policy ← deployment.extract.agentConfigPolicy request.body
      saveAgentConfigPolicy control "node" nodeId policy
  | registerCollectorEntry | updateCollectorEntry => do
      let user ← user
      let _ ← params.mapM deployment.extract.path
      let register ← deployment.extract.registerCollector request.body
      requireAdmin user
      some (registerCollector control register)
  | deleteCollectorEntry => do
      let user ← user
      let decoded ← params.mapM deployment.extract.path
      let id ← decoded.head?
      let version ← decoded.tail.head?
      requireAdmin user
      some (deleteCollectorRegistryEntry control id version)
  | updateServerLogPolicy => do
      let _ ← user
      let policy ← deployment.extract.logPolicy request.body
      Users.updateServerLogPolicy control policy
  | cleanupModelFileTrash => do
      let _ ← user
      let id ← params.head?.bind deployment.extract.path
      some { control with cleanups := id :: control.cleanups }
  | _ => none

/-- The paths that `control_plane_auth` lets through without a session. -/
def withoutSession (path : String) : Bool :=
  !Text.startsWith path "/api/" || Text.startsWith path "/api/agent/" || path = "/api/auth/login"
    || path = "/api/setup/status" || path = "/api/setup/admin"

def isPasswordChangeAllowedPath (path : String) : Bool :=
  path ∈ ["/api/auth/me", "/api/auth/logout", "/api/auth/change-password"]
    || path = "/api/frontend-errors"

/-- The user of a session may send the request. -/
def admits (user : AuthUser) (method : Method) (path : String) : Bool :=
  !(user.mustChangePassword && !isPasswordChangeAllowedPath path)
    && isAuthorizedForPath user method path

/-- A request through the router and `control_plane_auth`, which looks at the session of a path that has
a route. -/
def handle (deployment : Deployment) (request : HttpRequest) (control : Control) : Control :=
  match lookup routes request.method.routed request.path with
  | none => control
  | some (endpoint, params) =>
      if withoutSession request.path then
        (endpoint.perform deployment request none params control).getD control
      else match request.session with
        | none => control
        | some token =>
            let authenticated := control.run
              (authenticateSession deployment.crypto token deployment.policies.session)
            match (serve Stmt.exec (authenticateSession deployment.crypto token
                deployment.policies.session) control.accounts).1 with
            | .ok (some user) =>
                if admits user request.method request.path then
                  (endpoint.perform deployment request (some user) params authenticated).getD
                    authenticated
                else authenticated
            | _ => authenticated

end LightAI.Users
