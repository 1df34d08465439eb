import LightAI.Base.Redaction
import LightAI.Base.Utf8
import LightAI.Log.Clock
import LightAI.Server.ControlPlane

/-!
# The platform log

The server and the agents write their own log in the same way. A log is a current file and rotated files with
numbers; an entry is one line or several. Appending rotates the files when the entry would make the current
one too large, and removes rotated files that are too many or too old. Reading gives the end of the current
file, once more without the lines that hold something sensitive.
-/

namespace LightAI.Log

open Server (LogPolicy)

def platformRedactor : Redactor where
  needles := ["token", "password", "authorization", "api key", "api_key", "apikey", "secret"]
  limit := 1000
  notice := "[redacted — sensitive log line]"
  needle_ne_empty := by decide
  newline_notMem := by decide
  notice_clean := by decide

def sanitize (value : String) : String := platformRedactor.redact value

/-! ### Files -/

structure LogFile where
  text : String
  /-- The time of the last write, in nanoseconds since the epoch. -/
  modified : Nat

/-- The files of a log: the current one under 0, the rotated ones under their numbers. -/
abbrev LogFiles := Nat → Option LogFile

/-- Renames a file to the next number, over the file that has it. -/
def renameToNext (index : Nat) (files : LogFiles) : LogFiles :=
  match files index with
  | none => files
  | some file => Function.update (Function.update files index none) (index + 1) (some file)

def removeFile (index : Nat) (files : LogFiles) : LogFiles := Function.update files index none

def currentSize (files : LogFiles) : Nat := (files 0).elim 0 fun file => file.text.utf8ByteSize

/-- The loop of `rotate_if_needed`, which goes down to 1. -/
def renameDown : Nat → LogFiles → LogFiles
  | 0, files => files
  | index + 1, files => renameDown index (renameToNext (index + 1) files)

def needsRotation (policy : LogPolicy) (incoming : Nat) (files : LogFiles) : Prop :=
  policy.logMaxFileBytes < currentSize files + incoming

instance (policy : LogPolicy) (incoming : Nat) (files : LogFiles) :
    Decidable (needsRotation policy incoming files) := inferInstanceAs (Decidable (_ < _))

def rotateIfNeeded (policy : LogPolicy) (incoming : Nat) (files : LogFiles) : LogFiles :=
  if needsRotation policy incoming files then
    renameToNext 0 (renameDown policy.logRetentionFiles files)
  else files

def writeEntry (now : Nat) (line : String) (files : LogFiles) : LogFiles :=
  Function.update files 0 (some ⟨((files 0).elim "" LogFile.text) ++ line, now⟩)

/-- Whether a file was last written before the days that it is kept for. -/
def expired (policy : LogPolicy) (now : Nat) (file : LogFile) : Bool :=
  file.modified + policy.logRetentionDays * 86400 * 10 ^ 9 < now

def removeExpired (policy : LogPolicy) (now index : Nat) (files : LogFiles) : LogFiles :=
  if (files index).any (expired policy now) then removeFile index files else files

def cleanupRetention (policy : LogPolicy) (now : Nat) (files : LogFiles) : LogFiles :=
  let files := (List.range' (policy.logRetentionFiles + 1) 20).foldl (fun files index =>
    removeFile index files) files
  if policy.logRetentionDays = 0 then files
  else (List.range' 1 (policy.logRetentionFiles + 20)).foldl (fun files index =>
    removeExpired policy now index files) files

/-! ### Entries -/

def rank (level : String) : Nat :=
  if level = "error" then 1
  else if level = "warn" then 2
  else if level = "info" then 3
  else if level = "debug" then 4
  else if level = "trace" then 5
  else 3

def levelEnabled (configured level : String) : Bool := rank level ≤ rank configured

/-- A number with zeros before it, up to a width. -/
def padded (width : Nat) (value : Nat) : String :=
  String.ofList ((toString value).toList.leftpad width '0')

/-- The sign counts for the width. -/
def paddedInt (width : Nat) (value : Int) : String :=
  if value < 0 then "-" ++ padded (width - 1) value.natAbs else padded width value.natAbs

def formatTimestamp (secs : Nat) : Option String := do
  let timeOfDay := secs % 86400
  let (year, month, day) ← civilFromDays (secs / 86400)
  some (paddedInt 4 year ++ "-" ++ padded 2 month ++ "-" ++ padded 2 day ++ "T"
    ++ padded 2 (timeOfDay / 3600) ++ ":" ++ padded 2 (timeOfDay % 3600 / 60) ++ ":"
    ++ padded 2 (timeOfDay % 60) ++ "Z")

def toAsciiUppercase (value : String) : String := value.map Char.toUpper

def entry (timestamp level message : String) : String :=
  timestamp ++ " [" ++ toAsciiUppercase level ++ "] " ++ sanitize message ++ "\n"

/-! ### The operations -/

/-- One call of `append`, with the time at which it runs, in nanoseconds since the epoch. -/
structure AppendCall where
  policy : LogPolicy
  fileName : String
  level : String
  message : String
  now : Nat

/-- What surrounds the logs: the names of the files that the program manages, and the directory that a path
leads to once it is prepared. -/
structure Host (Directory : Type) where
  managed : List String
  prepareDir : String → Except String Directory

/-- The files of the server's `safe_log_file`. -/
def serverManaged : List String := ["lightai-server.log", "lightai-agent.log", "instance.log"]

/-- The files of the agent's `safe_log_file`. -/
def agentManaged : List String := ["server.log", "lightai-agent.log", "instance.log"]

variable {Directory : Type} [DecidableEq Directory]

/-- All logs, by directory and file name. -/
abbrev Logs (Directory : Type) := Directory × String → LogFiles

def safeLogFile (host : Host Directory) (dir : Directory) (fileName : String) :
    Except String (Directory × String) :=
  if fileName ∈ host.managed then .ok (dir, fileName)
  else .error "log file is not managed by platform"

/-- The log that a call goes to. -/
def openLog (host : Host Directory) (policy : LogPolicy) (fileName : String) :
    Except String (Directory × String) := do
  Users.validateLogPolicy policy
  let dir ← host.prepareDir policy.logDir
  safeLogFile host dir fileName

/-- What `append` does to the files of its log. -/
def appendLine (policy : LogPolicy) (now : Nat) (line : String) (files : LogFiles) : LogFiles :=
  cleanupRetention policy now (writeEntry now line (rotateIfNeeded policy line.utf8ByteSize files))

/-- The log and the entry of a call that writes one. -/
def written (host : Host Directory) (call : AppendCall) :
    Except String (Option ((Directory × String) × String)) :=
  if levelEnabled call.policy.logLevel call.level then do
    let log ← openLog host call.policy call.fileName
    match formatTimestamp (call.now / 10 ^ 9) with
    | none => .error "attempt to add with overflow"
    | some timestamp => .ok (some (log, entry timestamp call.level call.message))
  else .ok none

def append (host : Host Directory) (call : AppendCall) (logs : Logs Directory) :
    Except String Unit × Logs Directory :=
  match written host call with
  | .error message => (.error message, logs)
  | .ok none => (.ok (), logs)
  | .ok (some (log, line)) =>
      (.ok (), Function.update logs log (appendLine call.policy call.now line (logs log)))

def noLogs : Logs Directory := fun _ _ => none

/-- The logs after some calls, oldest first. -/
def runAppends (host : Host Directory) (calls : List AppendCall) (logs : Logs Directory) : Logs Directory :=
  calls.foldl (fun logs call => (append host call logs).2) logs

/-- The end of some bytes. -/
def tailOf (maxBytes : Nat) (bytes : Utf8.Bytes) : Utf8.Bytes := bytes.drop (bytes.length - maxBytes)

def readTail (host : Host Directory) (policy : LogPolicy) (fileName : String) (maxBytes : Nat)
    (logs : Logs Directory) : Except String String := do
  let log ← openLog host policy fileName
  let bytes := Utf8.encode ((logs log 0).elim [] fun file => file.text.toList)
  .ok (sanitize (Utf8.fromUtf8Lossy (tailOf maxBytes bytes)))

def missingLogMessage (fileName : String) : String :=
  if fileName = "lightai-agent.log" then "Agent log file not found: logs/lightai-agent.log"
  else "Log file not found: logs/" ++ fileName

/-- The agent's reading for the server, which does not take a missing file for an empty one. -/
def readTailExisting (host : Host Directory) (policy : LogPolicy) (fileName : String) (maxBytes : Nat)
    (logs : Logs Directory) : Except String String := do
  let log ← openLog host policy fileName
  match logs log 0 with
  | none => .error (missingLogMessage fileName)
  | some file =>
      .ok (sanitize (Utf8.fromUtf8Lossy (tailOf maxBytes (Utf8.encode file.text.toList))))

end LightAI.Log
