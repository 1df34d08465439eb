import LightAI.Agent.DockerBackend

/-!
# Starting an Ollama instance

An instance is a model that is loaded on a daemon, and the instances of a runtime environment share one
daemon. A start looks for the daemon and starts it where it finds none; the daemon then stays, whatever
becomes of the instance.
-/

namespace LightAI.Agent

structure OllamaRuntimeConfig where
  host : String
  port : Nat
  modelsDir : String
  maxLoadedModels : Nat
  numParallel : Nat
  maxQueue : Nat
  keepAlive : String
  contextLength : Nat

namespace OllamaRuntimeConfig

/-- The casts to 16 and 32 bits wrap. -/
def fromRuntimeParams (params : Json) : OllamaRuntimeConfig :=
  let d := ((params.get? "defaults").filter Json.isObject).getD params
  { host := (d.getStr "host").getD "127.0.0.1"
    port := (d.getU64 "port").getD 11434 % 2 ^ 16
    modelsDir := (d.getStr "models_dir").getD ""
    maxLoadedModels := (d.getU64 "max_loaded_models").getD 2 % 2 ^ 32
    numParallel := (d.getU64 "num_parallel").getD 1 % 2 ^ 32
    maxQueue := (d.getU64 "max_queue").getD 512 % 2 ^ 32
    keepAlive := (d.getStr "keep_alive").getD "30m"
    contextLength := (d.getU64 "context_length").getD 4096 % 2 ^ 32 }

variable (cfg : OllamaRuntimeConfig)

def apiBase : String := "http://" ++ cfg.host ++ ":" ++ toString cfg.port

def env : List (String × String) :=
  [("OLLAMA_HOST", cfg.host ++ ":" ++ toString cfg.port)]
    ++ (if Text.isBlank cfg.modelsDir then [] else [("OLLAMA_MODELS", Text.trim cfg.modelsDir)])
    ++ [("OLLAMA_MAX_LOADED_MODELS", toString cfg.maxLoadedModels),
      ("OLLAMA_NUM_PARALLEL", toString cfg.numParallel),
      ("OLLAMA_MAX_QUEUE", toString cfg.maxQueue),
      ("OLLAMA_KEEP_ALIVE", cfg.keepAlive),
      ("OLLAMA_CONTEXT_LENGTH", toString cfg.contextLength)]

end OllamaRuntimeConfig

/-! ### The daemon -/

/-- A daemon that can be used: its URL, its log, and what has been done to have it. -/
structure EnsuredDaemon where
  baseUrl : String
  logPath : String
  action : String

/-- Asks a daemon that has been started until it answers. -/
def awaitDaemon (baseUrl : String) : Nat → Async Bool
  | 0 => pure false
  | rounds + 1 => do
      let reachable ← await (.apiTagsReachable baseUrl)
      if reachable then pure true else awaitDaemon baseUrl rounds

def daemonTooSlow (tail : Except String String) : String :=
  "ollama daemon did not become ready within 30s. Daemon log tail: " ++ tail.toOption.getD ""

/-- The daemon has been spawned: it has to answer in time, or it is killed. -/
def adoptDaemon (runtimeEnvId logDir baseUrl logPath : String) (child : Child) :
    Async (Except String EnsuredDaemon) := do
  let rounds ← await .daemonRounds
  let ready ← awaitDaemon baseUrl rounds
  if ready then do
    let _ ← perform (.insertDaemon runtimeEnvId { child, logPath })
    pure (.ok { baseUrl, logPath, action := "started_ollama_serve" })
  else do
    let _ ← await (.killChild child)
    let tail ← await (.readDaemonLog runtimeEnvId logDir 4096)
    pure (.error (daemonTooSlow tail))

/-- The daemon could not be spawned: perhaps another one has the port. -/
def daemonNotSpawned (runtimeEnvId logDir baseUrl startErr : String) :
    Async (Except String EnsuredDaemon) :=
  if Text.contains startErr "address already in use" || Text.contains startErr "bind" then do
    let reachable ← await (.apiTagsReachable baseUrl)
    if reachable then do
      let opened ← await (.daemonLogPath logDir runtimeEnvId)
      match opened with
      | .error error => pure (.error error)
      | .ok logPath => pure (.ok { baseUrl, logPath, action := "reused_existing_daemon" })
    else pure (.error ("Ollama port is already in use (" ++ baseUrl ++ ") but /api/tags is not " ++
      "reachable. Please check the process using the port."))
  else pure (.error ("ollama serve start failed: " ++ startErr))

/-- The daemon is spawned, once its log can be opened. -/
def launchDaemon (runtimeEnvId binaryPath logDir : String) (cfg : OllamaRuntimeConfig) :
    Async (Except String EnsuredDaemon) := do
  let opened ← await (.daemonLogPath logDir runtimeEnvId)
  match opened with
  | .error error => pure (.error error)
  | .ok logPath => do
      let spawned ← await (.spawnDaemon binaryPath cfg.env)
      match spawned with
      | .ok child => adoptDaemon runtimeEnvId logDir cfg.apiBase logPath child
      | .error startErr => daemonNotSpawned runtimeEnvId logDir cfg.apiBase startErr

def startDaemon (runtimeEnvId binaryPath logDir : String) (cfg : OllamaRuntimeConfig) :
    Async (Except String EnsuredDaemon) := do
  let _ ← perform (.removeDaemon runtimeEnvId)
  launchDaemon runtimeEnvId binaryPath logDir cfg

/-- The daemon that the agent has started earlier, if it still runs. -/
def liveDaemon (runtimeEnvId : String) : Async (Option DaemonHandle) := do
  let handle ← perform (.findDaemon runtimeEnvId)
  match handle with
  | none => pure none
  | some handle => do
      let waited ← await (.tryWait handle.child)
      match waited with
      | .ok none => pure (some handle)
      | _ => pure none

def ensureDaemon (runtimeEnvId binaryPath logDir : String) (cfg : OllamaRuntimeConfig) :
    Async (Except String EnsuredDaemon) := do
  let reachable ← await (.apiTagsReachable cfg.apiBase)
  if reachable then do
    let opened ← await (.daemonLogPath logDir runtimeEnvId)
    pure (.ok
      { baseUrl := cfg.apiBase
        logPath := opened.toOption.getD "logs/ollama-daemon.log"
        action := "reused_existing_daemon" })
  else do
    let live ← liveDaemon runtimeEnvId
    match live with
    | some handle =>
        pure (.ok
          { baseUrl := cfg.apiBase, logPath := handle.logPath, action := "reused_existing_daemon" })
    | none => startDaemon runtimeEnvId binaryPath logDir cfg

/-! ### The instance -/

/-- What is reported as the command of a start. -/
def loadCommand (model : String) (daemon : EnsuredDaemon) (detail : String) : String :=
  "ollama load model " ++ model ++ " via daemon " ++ daemon.baseUrl ++ "; daemon_action="
    ++ daemon.action ++ "; " ++ detail

/-- Loads the model of an instance on its daemon. -/
def loadModel (runtimeEnvId model keepAlive : String) (daemon : EnsuredDaemon) :
    Async ModelInstanceTaskResult := do
  let listed ← await (.listModels daemon.baseUrl)
  match listed with
  | .error error =>
      pure (instanceFailureWithDetails ("failed to check Ollama model: " ++ error) none
        (some (loadCommand model daemon ("model_check=error; error=" ++ error))))
  | .ok models =>
      if model ∈ models then do
        let warmed ← await (.warmupModel daemon.baseUrl model keepAlive)
        match warmed with
        | .error error =>
            pure (instanceFailureWithDetails ("ollama warmup failed: " ++ error) none
              (some (loadCommand model daemon
                ("warmup=POST /api/generate; warmup_error=" ++ error))))
        | .ok _ =>
            pure
              { instanceStatus := "running"
                message := "ollama model loaded: " ++ model
                baseUrl := some daemon.baseUrl
                endpointUrl := some (daemon.baseUrl ++ "/api/generate")
                processRef := some runtimeEnvId
                command := some (loadCommand model daemon "warmup=POST /api/generate") }
      else
        pure (instanceFailureWithDetails ("Ollama model not found: " ++ model ++
          ". Please run `ollama pull " ++ model ++ "` on the node first.") none
          (some (loadCommand model daemon "model_check=failed_not_found")))

/-- What a start reads from its payload. -/
structure OllamaStart where
  runtimeEnvId : String
  binaryPath : String
  logDir : String
  model : String
  cfg : OllamaRuntimeConfig
  keepAlive : String

def OllamaStart.fromPayload (deps : External) (payload : Json) : OllamaStart :=
  let params := (deps.jsonFromStr ((payload.getStr "params_json").getD "{}")).getD .null
  let cfg := OllamaRuntimeConfig.fromRuntimeParams ((payload.get? "runtime_params").getD .null)
  { runtimeEnvId := (payload.getStr "runtime_environment_id").getD ""
    binaryPath := (payload.getStr "binary_path").getD "ollama"
    logDir := (payload.getStr "log_dir").getD "logs"
    model := (params.getStr "ollama_model").getD ""
    cfg
    keepAlive := ((params.getStr "keep_alive").filter (· ≠ "")).getD cfg.keepAlive }

def OllamaStart.daemonFailure (start : OllamaStart) (error : String) : ModelInstanceTaskResult :=
  instanceFailureWithDetails ("ollama daemon error: " ++ error) none
    (some ("ollama load model " ++ start.model ++ " via daemon " ++ start.cfg.apiBase ++
      "; daemon_action=failed_to_start; error=" ++ error))

/-- What follows the attempt to have a daemon. -/
def OllamaStart.load (start : OllamaStart) :
    Except String EnsuredDaemon → Async ModelInstanceTaskResult
  | .error error => pure (start.daemonFailure error)
  | .ok daemon => loadModel start.runtimeEnvId start.model start.keepAlive daemon

def startOllamaInstance (deps : External) (payload : Json) : Async ModelInstanceTaskResult :=
  let start := OllamaStart.fromPayload deps payload
  if Text.isBlank start.model then
    pure (instanceFailure "ollama_model is required in instance params")
  else ensureDaemon start.runtimeEnvId start.binaryPath start.logDir start.cfg >>= start.load

end LightAI.Agent
