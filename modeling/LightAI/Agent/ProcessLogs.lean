import LightAI.Base.Slices
import LightAI.Agent.Gateway
import LightAI.Log.PlatformLog

/-!
# The logs of what an agent has started

The output of a child is redacted as it is read and kept in a buffer in memory and in a file; of the buffer
only the end is kept. A log that is read later is cut to its end and redacted then. A text is cut at an offset
in bytes, which panics within a character; bytes are cut anywhere.
-/

namespace LightAI.Agent

open Utf8 (Bytes)

def logRedactor : Redactor where
  needles := ["token", "secret", "password", "api_key", "apikey", "authorization"]
  limit := 500
  notice := "[redacted — sensitive log line]"
  needle_ne_empty := by decide
  newline_notMem := by decide
  notice_clean := by decide

def sanitizeLog (text : String) : String := logRedactor.redact text

/-- `none` is the panic of a slice. -/
def tailBytes (text : String) (maxBytes : Nat) : Option String :=
  if text.utf8ByteSize ≤ maxBytes then some text
  else Text.sliceFrom text (text.utf8ByteSize - maxBytes)

def maxLogBytes : Nat := 8192

def trimLogBuffer (buffer : String) : Option String :=
  if maxLogBytes < buffer.utf8ByteSize then Text.sliceFrom buffer (buffer.utf8ByteSize - maxLogBytes)
  else some buffer

/-! ### Reading the output of a child -/

/-- What one read of a pipe gives into the array of 1024 bytes, unless it is at its end. -/
structure Chunk where
  bytes : Bytes
  ne_nil : bytes ≠ []
  fits : bytes.length ≤ 1024

inductive Stream where
  | stdout
  | stderr
  deriving DecidableEq

def Stream.label : Stream → String
  | .stdout => "stdout"
  | .stderr => "stderr"

def Stream.header (stream : Stream) : String := stream.label ++ ":\n"

/-- The buffer of a child, and for each of its two readers what it has pushed to the buffer, what it has
written to the file, whether it has written its header, and whether it has panicked. -/
structure LogReaders where
  buffer : String := ""
  pushed : Stream → String := fun _ => ""
  written : Stream → String := fun _ => ""
  headerWritten : Stream → Bool := fun _ => false
  panicked : Stream → Bool := fun _ => false

namespace LogReaders

variable (s : LogReaders) (stream : Stream)

def writeHeader : LogReaders :=
  if s.headerWritten stream then s
  else
    { s with
      buffer := s.buffer ++ stream.header
      pushed := Function.update s.pushed stream (s.pushed stream ++ stream.header)
      written := Function.update s.written stream (s.written stream ++ stream.header)
      headerWritten := Function.update s.headerWritten stream true }

/-- The text reaches the buffer before the buffer is trimmed, and the file after it. -/
def writeText (text : String) : LogReaders :=
  let pushed := Function.update s.pushed stream (s.pushed stream ++ (text ++ "\n"))
  match trimLogBuffer (s.buffer ++ (text ++ "\n")) with
  | some buffer =>
      { s with
        buffer, pushed
        written := Function.update s.written stream (s.written stream ++ (text ++ "\n")) }
  | none =>
      { s with
        buffer := s.buffer ++ (text ++ "\n"), pushed
        panicked := Function.update s.panicked stream true }

/-- One round of the loop of `attach_log_reader`. -/
def read (event : Stream × Chunk) : LogReaders :=
  if s.panicked event.1 then s
  else (s.writeHeader event.1).writeText event.1 (sanitizeLog (Utf8.fromUtf8Lossy event.2.bytes))

end LogReaders

/-- `running_instance_log_tail`: the outer `none` is the panic. -/
def runningInstanceLogTail (buffer : Option String) (maxBytes : Nat) : Option (Option String) :=
  match buffer with
  | none => some none
  | some logText => (tailBytes logText maxBytes).map some

/-! ### Reading a log -/

/-- How the reading of a file ends. -/
inductive FileRead where
  | found (bytes : Bytes)
  | notFound
  | failed (error : String)

structure DockerOutput where
  stdout : Bytes
  stderr : Bytes

def DockerOutput.combined (output : DockerOutput) : String :=
  Utf8.fromUtf8Lossy output.stdout ++ "\n" ++ Utf8.fromUtf8Lossy output.stderr

/-- `read_docker_logs` once the command has ended. -/
def readDockerLogs (outcome : Except String DockerOutput) (tailBytes : Nat) :
    Option (Except String String) :=
  match outcome with
  | .error error => some (.error error)
  | .ok output =>
      (Text.sliceFrom output.combined (output.combined.utf8ByteSize - tailBytes)).map fun tail =>
        .ok (sanitizeLog tail)

def readDaemonLog (opened : Except String FileRead) (maxBytes : Nat) : Except String String := do
  match ← opened with
  | .found bytes => .ok (sanitizeLog (Utf8.fromUtf8Lossy (Log.tailOf maxBytes bytes)))
  | .notFound => .ok "Ollama daemon log not yet available"
  | .failed error => .error ("read daemon log: " ++ error)

def gatewayLogFile : String := "gateway.log"

def readGatewayLog (state : GatewayFile) (read : String → FileRead) (maxBytes : Nat) : GatewayTaskResult :=
  match state.loaded with
  | .error error => gatewayFailure ("Failed to load Gateway state: " ++ error)
  | .ok none => gatewayFailure "Gateway is not running"
  | .ok (some record) =>
      match validateControlledPath "log_path" record.logPath with
      | .error message => gatewayFailure message
      | .ok () =>
          if Text.fileName record.logPath ≠ some gatewayLogFile then
            gatewayFailure ("log_path file name must be " ++ gatewayLogFile)
          else
            match read record.logPath with
            | .notFound => gatewayFailure "Gateway log file not found"
            | .failed error => gatewayFailure ("Failed to read Gateway log file: " ++ error)
            | .found bytes =>
                { gatewayStatus := "log_available"
                  message := "Gateway log read succeeded"
                  logTail := some (Log.sanitize (Utf8.fromUtf8Lossy
                    (Log.tailOf (min maxBytes (512 * 1024)) bytes))) }

structure ReadInstanceLogResult where
  logStatus : String
  content : String
  message : String
  deriving DecidableEq

def logFailure (message : String) : ReadInstanceLogResult := ⟨"failed", "", message⟩

/-- What of a log file is shown, unless it is blank. -/
def logFileTail (content : String) (maxBytes : Nat) : Option (Option String) :=
  (tailBytes content maxBytes).map fun tail =>
    if Text.isBlank tail then none else some (sanitizeLog tail)

def readLogFile (logPath : String) (read : Except String String) (maxBytes : Nat) :
    Option ReadInstanceLogResult :=
  match read with
  | .error error => some (logFailure ("failed to read instance log file: " ++ error))
  | .ok content =>
      (logFileTail content maxBytes).map fun tail =>
        ⟨"available", tail.getD "log file is empty", "read from log file " ++ logPath⟩

def readContainerLog (containerRef : Option String) (docker : String → Except String DockerOutput)
    (maxBytes : Nat) : Option ReadInstanceLogResult :=
  match containerRef with
  | none => some (logFailure "Docker log read failed: no container ID or name in managed store")
  | some containerRef =>
      (readDockerLogs (docker containerRef) maxBytes).map fun log =>
        match log with
        | .error error => logFailure ("Docker log read failed: " ++ error)
        | .ok content =>
            ⟨"available", if Text.isBlank content then "Docker container log is empty" else content,
              "read from docker logs " ++ containerRef⟩

def maxBytesOf (payload : Json) : Nat := min ((payload.getU64 "max_bytes").getD (64 * 1024)) (512 * 1024)

/-- The buffers are those of the running instances, the records those of the store, as far as they can be
read. -/
def readInstanceLog (payload : Json) (buffers : String → Option String)
    (find : String → Option ManagedProcessRecord) (docker : String → Except String DockerOutput)
    (readToString : String → Except String String) : Option ReadInstanceLogResult :=
  let instanceId := (payload.getStr "instance_id").getD ""
  let maxBytes := maxBytesOf payload
  match runningInstanceLogTail (buffers instanceId) maxBytes with
  | none => none
  | some (some tail) =>
      some ⟨"available",
        if Text.isBlank tail then "instance process is running; no log output yet" else tail,
        "read from memory buffer"⟩
  | some none =>
      let missing :=
        logFailure "no instance log found; instance may have stopped or Agent restarted"
      match find instanceId with
      | none => some missing
      | some record =>
          if record.deployType = some "docker" then
            readContainerLog (record.containerId.or record.containerName) docker maxBytes
          else
            match record.logPath with
            | none => some missing
            | some logPath => readLogFile logPath (readToString logPath) maxBytes

end LightAI.Agent
