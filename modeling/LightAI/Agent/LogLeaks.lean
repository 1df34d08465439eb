import LightAI.Base.CutLines
import LightAI.Agent.LogTails

/-!
# What a tail shows of sensitive lines

Four readers cut a log to its end and redact what is left. A line that they would redact as a whole is not
seen to be sensitive any more where its marker is cut off, and its rest is shown. The readers that cut a text
may also panic, and show nothing then.
-/

namespace LightAI.Agent

open Utf8 (Bytes newline lossyLines fromUtf8Lossy)

theorem logRedactor_notice : '\n' ∉ logRedactor.notice.toList := by decide

theorem platformRedactor_notice : '\n' ∉ Log.platformRedactor.notice.toList := by decide

/-- The bytes of a text from the offset on are those of its slice. -/
theorem drop_of_sliceFrom {text tail : String} {start : Nat} (hslice : Text.sliceFrom text start = some tail) :
    fromUtf8Lossy ((Utf8.encode text.toList).drop start) = tail := by
  obtain ⟨front, rfl, hfront⟩ := Text.sliceFrom_eq_some_iff.mp hslice
  rw [String.toList_append, Utf8.encode_append, ← hfront, ← Utf8.length_encode_toList, List.drop_left]
  unfold fromUtf8Lossy
  rw [Utf8.decode_encode, String.ofList_toList]

theorem tailOf_eq_drop (maxBytes : Nat) (bytes : Bytes) :
    Log.tailOf maxBytes bytes = bytes.drop (bytes.length - maxBytes) := rfl

/-- Of a sliced text as much is hidden as of its bytes. -/
theorem hidesLines_slice_iff {text tail : String} {start : Nat}
    (hslice : Text.sliceFrom text start = some tail) :
    logRedactor.HidesLines (Utf8.encode text.toList) start (sanitizeLog tail) ↔
      logRedactor.CleanCut (Utf8.encode text.toList) start := by
  have hiff := Redactor.hidesLines_redact_iff logRedactor_notice (by decide)
    (Utf8.encode text.toList) start
  rwa [drop_of_sliceFrom hslice] at hiff

/-- The cut that a limit makes in a text. -/
def CutsCleanly (text : String) (limit : Nat) : Prop :=
  logRedactor.CleanCut (Utf8.encode text.toList) (text.utf8ByteSize - limit)

theorem readDockerLogs_hides_iff (output : DockerOutput) (limit : Nat) :
    (∀ text, readDockerLogs (.ok output) limit = some (.ok text) →
        logRedactor.HidesLines (Utf8.encode output.combined.toList)
          (output.combined.utf8ByteSize - limit) text) ↔
      (TailBegins limit output.combined → CutsCleanly output.combined limit) := by
  rw [← sliceFrom_isTail_iff]
  unfold readDockerLogs
  dsimp only
  constructor
  · rintro hhides ⟨tail, hslice, -⟩
    apply (hidesLines_slice_iff hslice).mp
    apply hhides
    rw [hslice]
    rfl
  · intro hclean text htext
    obtain ⟨tail, hslice, heq⟩ := Option.map_eq_some_iff.mp htext
    rw [← Except.ok.inj heq]
    exact (hidesLines_slice_iff hslice).mpr (hclean ⟨tail, hslice, isTail_of_sliceFrom hslice⟩)

theorem readDaemonLog_hides_iff (bytes : Bytes) (maxBytes : Nat) :
    (∀ text, readDaemonLog (.ok (.found bytes)) maxBytes = .ok text →
        logRedactor.HidesLines bytes (bytes.length - maxBytes) text) ↔
      logRedactor.CleanCut bytes (bytes.length - maxBytes) := by
  rw [← Redactor.hidesLines_redact_iff logRedactor_notice (by decide)]
  constructor
  · intro hhides
    exact hhides _ rfl
  · intro hhides text htext
    rw [← Except.ok.inj htext]
    exact hhides

/-- The record of a gateway names a log that is read. -/
def AcceptedGatewayLog (logPath : String) : Prop :=
  validateControlledPath "log_path" logPath = .ok () ∧ Text.fileName logPath = some gatewayLogFile

theorem readGatewayLog_logTail (record : GatewayProcessRecord) (bytes : Bytes) (maxBytes : Nat) (text : String) :
    (readGatewayLog (.record record) (fun _ => .found bytes) maxBytes).logTail = some text ↔
      AcceptedGatewayLog record.logPath ∧
        Log.sanitize (fromUtf8Lossy (Log.tailOf (min maxBytes (512 * 1024)) bytes)) = text := by
  unfold readGatewayLog AcceptedGatewayLog
  have hloaded : (GatewayFile.record record).loaded = .ok (some record) := rfl
  rw [hloaded]
  dsimp only
  cases hpath : validateControlledPath "log_path" record.logPath with
  | error message =>
      constructor
      · intro hnone
        cases hnone
      · rintro ⟨⟨hcontrolled, -⟩, -⟩
        cases hcontrolled
  | ok controlled =>
      dsimp only
      by_cases hname : Text.fileName record.logPath = some gatewayLogFile
      · rw [if_neg (not_not.mpr hname)]
        exact ⟨fun h => ⟨⟨rfl, hname⟩, Option.some.inj h⟩, fun h => congrArg some h.2⟩
      · rw [if_pos hname]
        constructor
        · intro hnone
          cases hnone
        · rintro ⟨⟨-, haccepted⟩, -⟩
          exact absurd haccepted hname

theorem readGatewayLog_hides_iff (record : GatewayProcessRecord) (bytes : Bytes) (maxBytes : Nat) :
    (∀ text, (readGatewayLog (.record record) (fun _ => .found bytes) maxBytes).logTail = some text →
        Log.platformRedactor.HidesLines bytes (bytes.length - min maxBytes (512 * 1024)) text) ↔
      (AcceptedGatewayLog record.logPath →
        Log.platformRedactor.CleanCut bytes (bytes.length - min maxBytes (512 * 1024))) := by
  rw [← Redactor.hidesLines_redact_iff platformRedactor_notice (by decide)]
  constructor
  · intro hhides haccepted
    exact hhides _ ((readGatewayLog_logTail record bytes maxBytes _).mpr ⟨haccepted, rfl⟩)
  · intro hhides text htext
    obtain ⟨haccepted, rfl⟩ := (readGatewayLog_logTail record bytes maxBytes text).mp htext
    exact hhides haccepted

/-- A blank tail is not shown, but a message that the file is empty. -/
theorem readLogFile_hides_iff (logPath content : String) (maxBytes : Nat) :
    (∀ tail result, tailBytes content maxBytes = some tail → Text.isBlank tail = false →
        readLogFile logPath (.ok content) maxBytes = some result →
          logRedactor.HidesLines (Utf8.encode content.toList) (content.utf8ByteSize - maxBytes)
            result.content) ↔
      ∀ tail, tailBytes content maxBytes = some tail → Text.isBlank tail = false →
        CutsCleanly content maxBytes := by
  have hslice {tail : String} (htail : tailBytes content maxBytes = some tail) :
      Text.sliceFrom content (content.utf8ByteSize - maxBytes) = some tail := by
    unfold tailBytes at htail
    by_cases hle : content.utf8ByteSize ≤ maxBytes
    · rw [if_pos hle] at htail
      rw [← htail, Nat.sub_eq_zero_of_le hle]
      exact Text.sliceFrom_eq_some_iff.mpr ⟨"", String.empty_append.symm, rfl⟩
    · rwa [if_neg hle] at htail
  have hresult {tail : String} (htail : tailBytes content maxBytes = some tail)
      (hblank : Text.isBlank tail = false) :
      readLogFile logPath (.ok content) maxBytes
        = some ⟨"available", sanitizeLog tail, "read from log file " ++ logPath⟩ := by
    unfold readLogFile logFileTail
    dsimp only
    rw [htail, Option.map_some, Option.map_some, hblank]
    rfl
  constructor
  · intro hhides tail htail hblank
    have hhidden := hhides tail _ htail hblank (hresult htail hblank)
    dsimp only at hhidden
    exact (hidesLines_slice_iff (hslice htail)).mp hhidden
  · intro hclean tail result htail hblank hread
    rw [hresult htail hblank] at hread
    have hcontent : result.content = sanitizeLog tail := by rw [← Option.some.inj hread]
    rw [hcontent]
    exact (hidesLines_slice_iff (hslice htail)).mpr (hclean tail htail hblank)

/-- What the four readers show has nothing of a sensitive line in it exactly where the cut leaves nothing of
such a line that is not sensitive by itself. -/
theorem tails_hide_iff (output : DockerOutput) (limit : Nat) (bytes : Bytes) (maxBytes : Nat)
    (record : GatewayProcessRecord) (logPath content : String) :
    ((∀ text, readDockerLogs (.ok output) limit = some (.ok text) →
        logRedactor.HidesLines (Utf8.encode output.combined.toList)
          (output.combined.utf8ByteSize - limit) text) ↔
      (TailBegins limit output.combined → CutsCleanly output.combined limit)) ∧
    ((∀ text, readDaemonLog (.ok (.found bytes)) maxBytes = .ok text →
        logRedactor.HidesLines bytes (bytes.length - maxBytes) text) ↔
      logRedactor.CleanCut bytes (bytes.length - maxBytes)) ∧
    ((∀ text, (readGatewayLog (.record record) (fun _ => .found bytes) maxBytes).logTail = some text →
        Log.platformRedactor.HidesLines bytes (bytes.length - min maxBytes (512 * 1024)) text) ↔
      (AcceptedGatewayLog record.logPath →
        Log.platformRedactor.CleanCut bytes (bytes.length - min maxBytes (512 * 1024)))) ∧
    ((∀ tail result, tailBytes content maxBytes = some tail → Text.isBlank tail = false →
        readLogFile logPath (.ok content) maxBytes = some result →
          logRedactor.HidesLines (Utf8.encode content.toList) (content.utf8ByteSize - maxBytes)
            result.content) ↔
      ∀ tail, tailBytes content maxBytes = some tail → Text.isBlank tail = false →
        CutsCleanly content maxBytes) :=
  ⟨readDockerLogs_hides_iff output limit, readDaemonLog_hides_iff bytes maxBytes,
    readGatewayLog_hides_iff record bytes maxBytes, readLogFile_hides_iff logPath content maxBytes⟩

/-- The last three bytes of the line `token=abc` are shown. -/
theorem readDaemonLog_shows_rest :
    ¬∀ bytes maxBytes text, readDaemonLog (.ok (.found bytes)) maxBytes = .ok text →
      logRedactor.HidesLines bytes (bytes.length - maxBytes) text := by
  intro h
  have hclean := (readDaemonLog_hides_iff (Utf8.encode "token=abc".toList) 3).mp (h _ _)
  have hsensitive : logRedactor.isSensitive "token=abc" = true :=
    Redactor.isSensitive_iff.mpr ⟨"token", by decide, by decide⟩
  have hplain : logRedactor.isSensitive "abc" = false := by
    rw [← Bool.not_eq_true, Redactor.isSensitive_iff]
    unfold Redactor.Mentions
    decide
  have hshown : logRedactor.redactLine "abc" = "abc" := by
    unfold Redactor.redactLine
    rw [hplain]
    rfl
  obtain hempty | hnotice := hclean "token=abc" "abc" (by decide) hsensitive (by decide)
  · exact absurd hempty (by decide)
  · rw [hshown] at hnotice
    exact absurd hnotice (by decide)

end LightAI.Agent
