import LightAI.Base.ChunkedLines
import LightAI.Base.CutLines
import LightAI.Base.Trace
import LightAI.Agent.LogTails

/-!
# Redacting output as it arrives

The two readers of a child redact each chunk by itself. What they push and write is the redaction of the whole
output exactly where the chunks end where lines end, and no trimming of the buffer panics: a chunk that ends
within a line hides the marker from one part of the line and the secret from the other.
-/

namespace LightAI.Agent

open Utf8 (Bytes newline lossyLines fromUtf8Lossy)

/-! ### What a reader records -/

/-- The chunks of a stream among the reads of both readers, in order. -/
def readsOf (stream : Stream) (events : List (Stream × Chunk)) : List Bytes :=
  (events.filter fun event => event.1 = stream).map fun event => event.2.bytes

def outputOf (stream : Stream) (events : List (Stream × Chunk)) : Bytes := (readsOf stream events).flatten

def readersAfter (events : List (Stream × Chunk)) : LogReaders := Trace.run LogReaders.read {} events

/-- The header and the redaction of the whole output. -/
def transcript (stream : Stream) (output : Bytes) : String :=
  if output = [] then "" else stream.header ++ (sanitizeLog (fromUtf8Lossy output) ++ "\n")

/-- What a reader records as long as it does not panic. -/
def recorded (stream : Stream) (reads : List Bytes) : List Char :=
  if reads = [] then [] else stream.header.toList ++ reads.flatMap logRedactor.redactChunk

theorem ne_nil_of_mem_readsOf {stream : Stream} {events : List (Stream × Chunk)} :
    ∀ bytes ∈ readsOf stream events, bytes ≠ [] := by
  intro bytes hbytes
  obtain ⟨event, -, rfl⟩ := List.mem_map.mp hbytes
  exact event.2.ne_nil

theorem readsOf_append_self (stream : Stream) (events : List (Stream × Chunk)) (chunk : Chunk) :
    readsOf stream (events ++ [(stream, chunk)]) = readsOf stream events ++ [chunk.bytes] := by
  unfold readsOf
  rw [List.filter_append, List.map_append, List.filter_singleton]
  simp

theorem readsOf_append_of_ne {stream other : Stream} (hne : other ≠ stream) (events : List (Stream × Chunk))
    (chunk : Chunk) : readsOf stream (events ++ [(other, chunk)]) = readsOf stream events := by
  unfold readsOf
  rw [List.filter_append, List.map_append, List.filter_singleton]
  simp [hne]

theorem recorded_append (stream : Stream) (reads : List Bytes) (bytes : Bytes) :
    recorded stream (reads ++ [bytes])
      = recorded stream reads ++ ((if reads = [] then stream.header.toList else [])
          ++ logRedactor.redactChunk bytes) := by
  unfold recorded
  rw [if_neg (List.concat_ne_nil _ _), List.flatMap_append, List.flatMap_singleton]
  by_cases hreads : reads = []
  · rw [if_pos hreads, if_pos hreads, hreads, List.flatMap_nil, List.nil_append, List.nil_append]
  · rw [if_neg hreads, if_neg hreads, List.nil_append, List.append_assoc]

theorem recorded_eq_transcript_iff (stream : Stream) {reads : List Bytes} (hne : ∀ bytes ∈ reads, bytes ≠ []) :
    recorded stream reads = (transcript stream reads.flatten).toList ↔
      ∀ bytes ∈ reads.dropLast, bytes.getLast? = some newline := by
  cases reads with
  | nil => exact ⟨fun _ bytes hbytes => absurd hbytes List.not_mem_nil, fun _ => rfl⟩
  | cons first reads =>
      have hwhole : (first :: reads).flatten ≠ [] := by
        rw [List.flatten_cons]
        exact List.append_ne_nil_of_left_ne_nil (hne first List.mem_cons_self) _
      have htranscript : (transcript stream (first :: reads).flatten).toList
          = stream.header.toList ++ logRedactor.redactChunk (first :: reads).flatten := by
        unfold transcript
        rw [if_neg hwhole, String.toList_append]
        rfl
      have hrecorded : recorded stream (first :: reads)
          = stream.header.toList ++ (first :: reads).flatMap logRedactor.redactChunk :=
        if_neg (List.cons_ne_nil _ _)
      rw [htranscript, hrecorded, List.append_cancel_left_eq]
      exact Redactor.flatMap_redactChunk_iff (by decide) (List.cons_ne_nil _ _) hne

/-! ### One read -/

/-- The buffer can be trimmed after the read. -/
def TrimsCleanly (s : LogReaders) (event : Stream × Chunk) : Prop :=
  TailBegins maxLogBytes
    ((s.writeHeader event.1).buffer ++ (sanitizeLog (fromUtf8Lossy event.2.bytes) ++ "\n"))

theorem trimLogBuffer_eq_none_iff (buffer : String) :
    trimLogBuffer buffer = none ↔ ¬ TailBegins maxLogBytes buffer := by
  rw [← trimLogBuffer_iff]
  constructor
  · rintro hnone ⟨tail, htail, -⟩
    rw [hnone] at htail
    cases htail
  · intro hnot
    cases htrim : trimLogBuffer buffer with
    | none => rfl
    | some tail =>
        refine absurd ⟨tail, htrim, ?_⟩ hnot
        unfold trimLogBuffer at htrim
        by_cases hlong : maxLogBytes < buffer.utf8ByteSize
        · rw [if_pos hlong] at htrim
          exact isTail_of_sliceFrom htrim
        · rw [if_neg hlong] at htrim
          rw [← Option.some.inj htrim]
          exact isTail_self (Nat.le_of_not_lt hlong)

section Read

variable {s : LogReaders} {stream other : Stream} {chunk : Chunk}

theorem writeHeader_panicked : (s.writeHeader stream).panicked = s.panicked := by
  unfold LogReaders.writeHeader
  split <;> rfl

theorem writeHeader_headerWritten : (s.writeHeader stream).headerWritten stream = true := by
  unfold LogReaders.writeHeader
  by_cases hheader : s.headerWritten stream = true
  · rw [if_pos hheader]
    exact hheader
  · rw [if_neg hheader]
    exact Function.update_self _ _ _

theorem writeHeader_pushed :
    ((s.writeHeader stream).pushed stream).toList
      = (s.pushed stream).toList ++ (if s.headerWritten stream then [] else stream.header.toList) := by
  unfold LogReaders.writeHeader
  by_cases hheader : s.headerWritten stream = true
  · rw [if_pos hheader, if_pos hheader, List.append_nil]
  · rw [if_neg hheader, if_neg hheader]
    dsimp only
    rw [Function.update_self, String.toList_append]

theorem writeHeader_written (hsame : s.written stream = s.pushed stream) :
    (s.writeHeader stream).written stream = (s.writeHeader stream).pushed stream := by
  unfold LogReaders.writeHeader
  by_cases hheader : s.headerWritten stream = true
  · rw [if_pos hheader]
    exact hsame
  · rw [if_neg hheader]
    dsimp only
    rw [Function.update_self, Function.update_self, hsame]

/-- What one reader does leaves the account of the other one alone. -/
theorem read_of_ne (s : LogReaders) (chunk : Chunk) (hne : other ≠ stream) :
    (s.read (other, chunk)).panicked stream = s.panicked stream ∧
      (s.read (other, chunk)).headerWritten stream = s.headerWritten stream ∧
      (s.read (other, chunk)).pushed stream = s.pushed stream ∧
      (s.read (other, chunk)).written stream = s.written stream := by
  have hother : stream ≠ other := hne.symm
  unfold LogReaders.read
  split
  · exact ⟨rfl, rfl, rfl, rfl⟩
  · have hheader : (s.writeHeader other).panicked stream = s.panicked stream ∧
        (s.writeHeader other).headerWritten stream = s.headerWritten stream ∧
        (s.writeHeader other).pushed stream = s.pushed stream ∧
        (s.writeHeader other).written stream = s.written stream := by
      unfold LogReaders.writeHeader
      split
      · exact ⟨rfl, rfl, rfl, rfl⟩
      · exact ⟨rfl, Function.update_of_ne hother _ _, Function.update_of_ne hother _ _,
          Function.update_of_ne hother _ _⟩
    unfold LogReaders.writeText
    dsimp only
    split
    · exact ⟨hheader.1, hheader.2.1, (Function.update_of_ne hother _ _).trans hheader.2.2.1,
        (Function.update_of_ne hother _ _).trans hheader.2.2.2⟩
    · exact ⟨(Function.update_of_ne hother _ _).trans hheader.1, hheader.2.1,
        (Function.update_of_ne hother _ _).trans hheader.2.2.1, hheader.2.2.2⟩

theorem read_of_panicked (hpanicked : s.panicked stream = true) : s.read (stream, chunk) = s :=
  if_pos hpanicked

theorem read_of_trims (hrunning : s.panicked stream = false) (htrims : TrimsCleanly s (stream, chunk)) :
    (s.read (stream, chunk)).panicked = s.panicked ∧
      (s.read (stream, chunk)).headerWritten stream = true ∧
      ((s.read (stream, chunk)).pushed stream).toList
        = (s.pushed stream).toList ++ ((if s.headerWritten stream then [] else stream.header.toList)
            ++ logRedactor.redactChunk chunk.bytes) ∧
      (s.written stream = s.pushed stream →
        (s.read (stream, chunk)).written stream = (s.read (stream, chunk)).pushed stream) := by
  have hgoes : ¬ s.panicked stream = true := by
    rw [hrunning]
    exact Bool.false_ne_true
  cases htrim : trimLogBuffer ((s.writeHeader stream).buffer
      ++ (sanitizeLog (fromUtf8Lossy chunk.bytes) ++ "\n")) with
  | none => exact absurd htrims ((trimLogBuffer_eq_none_iff _).mp htrim)
  | some buffer =>
      unfold LogReaders.read
      rw [if_neg hgoes]
      unfold LogReaders.writeText
      dsimp only
      rw [htrim]
      refine ⟨writeHeader_panicked, writeHeader_headerWritten, ?_, ?_⟩
      · dsimp only
        rw [Function.update_self, String.toList_append, writeHeader_pushed, List.append_assoc]
        rfl
      · intro hsame
        dsimp only
        rw [Function.update_self, Function.update_self, writeHeader_written hsame]

/-- A reader that panics has pushed a text that it does not write any more. -/
theorem read_of_not_trims (hrunning : s.panicked stream = false)
    (hnot : ¬ TrimsCleanly s (stream, chunk)) (hsame : s.written stream = s.pushed stream) :
    (s.read (stream, chunk)).panicked stream = true ∧
      (s.read (stream, chunk)).written stream ≠ (s.read (stream, chunk)).pushed stream := by
  have hgoes : ¬ s.panicked stream = true := by
    rw [hrunning]
    exact Bool.false_ne_true
  unfold LogReaders.read
  rw [if_neg hgoes]
  unfold LogReaders.writeText
  dsimp only
  rw [(trimLogBuffer_eq_none_iff _).mpr hnot]
  dsimp only
  refine ⟨Function.update_self _ _ _, ?_⟩
  rw [Function.update_self, writeHeader_written hsame]
  intro hequal
  have hlength := congrArg (fun text : String => text.toList.length) hequal
  rw [String.toList_append, String.toList_append, List.length_append, List.length_append] at hlength
  have hone : "\n".toList.length = 1 := rfl
  omega

end Read

/-! ### Every run of the readers -/

/-- What the reader of a stream has recorded after some reads: a reader that runs has pushed and written all
that it has read, and one that has panicked has not written what it pushed. -/
structure Recorded (s : LogReaders) (reads : List Bytes) (stream : Stream) : Prop where
  pushed : s.panicked stream = false → (s.pushed stream).toList = recorded stream reads
  header : s.panicked stream = false → (s.headerWritten stream = true ↔ reads ≠ [])
  written : s.panicked stream = false → s.written stream = s.pushed stream
  lost : s.panicked stream = true → s.written stream ≠ s.pushed stream

theorem Recorded.read_self {s : LogReaders} {reads : List Bytes} {stream : Stream}
    (h : Recorded s reads stream) (chunk : Chunk) :
    Recorded (s.read (stream, chunk)) (reads ++ [chunk.bytes]) stream := by
  cases hpanicked : s.panicked stream with
  | true =>
      have hstays : ¬ s.panicked stream = false := by
        rw [hpanicked]
        exact Bool.noConfusion
      rw [read_of_panicked hpanicked]
      exact ⟨fun hrunning => absurd hrunning hstays, fun hrunning => absurd hrunning hstays,
        fun hrunning => absurd hrunning hstays, h.lost⟩
  | false =>
      by_cases htrims : TrimsCleanly s (stream, chunk)
      · obtain ⟨hstays, hheader, hpushed, hwritten⟩ := read_of_trims hpanicked htrims
        refine ⟨fun _ => ?_, fun _ => ?_, fun _ => hwritten (h.written hpanicked), ?_⟩
        · rw [hpushed, h.pushed hpanicked, recorded_append]
          by_cases hreads : reads = []
          · have hnot : ¬ s.headerWritten stream = true := fun hset => (h.header hpanicked).mp hset hreads
            rw [if_neg hnot, if_pos hreads]
          · rw [if_pos ((h.header hpanicked).mpr hreads), if_neg hreads]
        · exact ⟨fun _ => List.concat_ne_nil _ _, fun _ => hheader⟩
        · intro hnow
          rw [hstays, hpanicked] at hnow
          cases hnow
      · obtain ⟨hnow, hlost⟩ := read_of_not_trims hpanicked htrims (h.written hpanicked)
        have hstops : ¬ (s.read (stream, chunk)).panicked stream = false := by
          rw [hnow]
          exact Bool.noConfusion
        exact ⟨fun hrunning => absurd hrunning hstops, fun hrunning => absurd hrunning hstops,
          fun hrunning => absurd hrunning hstops, fun _ => hlost⟩

theorem Recorded.read_other {s : LogReaders} {reads : List Bytes} {stream other : Stream}
    (h : Recorded s reads stream) (hne : other ≠ stream) (chunk : Chunk) :
    Recorded (s.read (other, chunk)) reads stream := by
  obtain ⟨hpanicked, hheader, hpushed, hwritten⟩ := read_of_ne s chunk hne
  constructor
  · rw [hpanicked, hpushed]
    exact h.pushed
  · rw [hpanicked, hheader]
    exact h.header
  · rw [hpanicked, hpushed, hwritten]
    exact h.written
  · rw [hpanicked, hpushed, hwritten]
    exact h.lost

theorem recorded_after (events : List (Stream × Chunk)) (stream : Stream) :
    Recorded (readersAfter events) (readsOf stream events) stream := by
  unfold readersAfter
  induction events using List.reverseRecOn with
  | nil =>
      exact ⟨fun _ => rfl, fun _ => ⟨fun hset => absurd hset Bool.false_ne_true, fun hne => absurd rfl hne⟩,
        fun _ => rfl, fun hpanicked => absurd hpanicked Bool.false_ne_true⟩
  | append_singleton events event ih =>
      obtain ⟨other, chunk⟩ := event
      rw [Trace.run_append]
      by_cases hsame : other = stream
      · rw [hsame, readsOf_append_self]
        exact ih.read_self chunk
      · rw [readsOf_append_of_ne hsame]
        exact ih.read_other hsame chunk

/-- No reader has panicked exactly where every trimming was possible. -/
theorem none_panicked_iff (events : List (Stream × Chunk)) :
    (∀ stream, (readersAfter events).panicked stream = false) ↔
      Trace.Along LogReaders.read TrimsCleanly {} events := by
  induction events using List.reverseRecOn with
  | nil => exact ⟨fun _ => trivial, fun _ _ => rfl⟩
  | append_singleton events event ih =>
      obtain ⟨other, chunk⟩ := event
      have hafter : readersAfter (events ++ [(other, chunk)]) = (readersAfter events).read (other, chunk) :=
        Trace.run_append _ _ _ _
      rw [Trace.along_append, ← ih, hafter]
      constructor
      · intro hnone
        have hbefore : ∀ stream, (readersAfter events).panicked stream = false := by
          intro stream
          by_contra hpanicked
          rw [Bool.not_eq_false] at hpanicked
          by_cases hsame : other = stream
          · subst hsame
            have hnow := hnone other
            rw [read_of_panicked hpanicked, hpanicked] at hnow
            cases hnow
          · have hnow := hnone stream
            rw [(read_of_ne _ chunk hsame).1, hpanicked] at hnow
            cases hnow
        refine ⟨hbefore, ?_, trivial⟩
        by_contra hnot
        have hwritten := (recorded_after events other).written (hbefore other)
        have hnow := hnone other
        rw [(read_of_not_trims (hbefore other) hnot hwritten).1] at hnow
        cases hnow
      · rintro ⟨hbefore, htrims, -⟩ stream
        rw [(read_of_trims (hbefore other) htrims).1]
        exact hbefore stream

/-! ### The buffer -/

theorem allPushed_append (first second : List BufferPush) :
    allPushed (first ++ second) = allPushed first ++ allPushed second := by
  have hstart (pushes : List BufferPush) (text : String) :
      pushes.foldl (fun text push => text ++ push.content) text = text ++ allPushed pushes := by
    unfold allPushed
    induction pushes generalizing text with
    | nil => exact String.append_empty.symm
    | cons push pushes ih =>
        rw [List.foldl_cons, List.foldl_cons, ih, ih ("" ++ push.content), String.empty_append,
          String.append_assoc]
  calc allPushed (first ++ second)
      = second.foldl (fun text push => text ++ push.content) (allPushed first) := List.foldl_append
    _ = allPushed first ++ allPushed second := hstart second _

/-- What a read pushes to the buffer. -/
def pushesOf (s : LogReaders) (stream : Stream) (chunk : Chunk) : List BufferPush :=
  (if s.headerWritten stream then [] else [BufferPush.header stream.header])
    ++ [BufferPush.text (sanitizeLog (fromUtf8Lossy chunk.bytes) ++ "\n")]

theorem read_pushed {s : LogReaders} {stream : Stream} {chunk : Chunk}
    (hrunning : s.panicked stream = false) :
    (s.read (stream, chunk)).pushed stream = s.pushed stream ++ allPushed (pushesOf s stream chunk) := by
  have hgoes : ¬ s.panicked stream = true := by
    rw [hrunning]
    exact Bool.false_ne_true
  have htext (s : LogReaders) (text : String) :
      (s.writeText stream text).pushed stream = s.pushed stream ++ (text ++ "\n") := by
    unfold LogReaders.writeText
    dsimp only
    cases trimLogBuffer (s.buffer ++ (text ++ "\n")) <;> exact Function.update_self _ _ _
  have hone (text : String) : allPushed [BufferPush.text text] = text := String.empty_append
  have hheaderOne (text : String) : allPushed [BufferPush.header text] = text := String.empty_append
  unfold LogReaders.read pushesOf
  rw [if_neg hgoes, htext, allPushed_append, hone]
  unfold LogReaders.writeHeader
  by_cases hheader : s.headerWritten stream = true
  · have hnone : allPushed [] = "" := rfl
    rw [if_pos hheader, if_pos hheader, hnone, String.empty_append]
  · rw [if_neg hheader, if_neg hheader, hheaderOne]
    dsimp only
    rw [Function.update_self, String.append_assoc]

/-- The buffer is what the pushes of both readers leave, and each reader has pushed what is recorded of it. -/
theorem buffer_eq_bufferAfter (events : List (Stream × Chunk)) :
    ∃ pushes : List (Stream × BufferPush),
      (readersAfter events).buffer = bufferAfter (pushes.map Prod.snd) ∧
        ∀ stream, (readersAfter events).pushed stream
          = allPushed ((pushes.filter fun push => push.1 = stream).map Prod.snd) := by
  induction events using List.reverseRecOn with
  | nil => exact ⟨[], rfl, fun _ => rfl⟩
  | append_singleton events event ih =>
      obtain ⟨other, chunk⟩ := event
      obtain ⟨pushes, hbuffer, hpushed⟩ := ih
      have hafter : readersAfter (events ++ [(other, chunk)]) = (readersAfter events).read (other, chunk) :=
        Trace.run_append _ _ _ _
      rw [hafter]
      cases hpanicked : (readersAfter events).panicked other with
      | true =>
          rw [read_of_panicked hpanicked]
          exact ⟨pushes, hbuffer, hpushed⟩
      | false =>
          refine ⟨pushes ++ (pushesOf (readersAfter events) other chunk).map (Prod.mk other), ?_, ?_⟩
          · have hsnd : ((pushesOf (readersAfter events) other chunk).map (Prod.mk other)).map Prod.snd
                = pushesOf (readersAfter events) other chunk := by
              rw [List.map_map]
              exact List.map_id _
            rw [read_buffer hpanicked, hbuffer, List.map_append, hsnd]
            exact List.foldl_append.symm
          · intro stream
            rw [List.filter_append, List.map_append, allPushed_append, ← hpushed]
            by_cases hsame : other = stream
            · have hall : ((pushesOf (readersAfter events) other chunk).map (Prod.mk other)).filter
                  (fun push => push.1 = stream)
                  = (pushesOf (readersAfter events) other chunk).map (Prod.mk other) := by
                apply List.filter_eq_self.mpr
                intro push hpush
                obtain ⟨-, -, rfl⟩ := List.mem_map.mp hpush
                exact decide_eq_true hsame
              rw [hall, List.map_map, ← hsame, read_pushed hpanicked]
              exact congrArg (fun pushes => _ ++ allPushed pushes) (List.map_id _).symm
            · have hnone : ((pushesOf (readersAfter events) other chunk).map (Prod.mk other)).filter
                  (fun push => push.1 = stream) = [] := by
                apply List.filter_eq_nil_iff.mpr
                intro push hpush
                obtain ⟨kind, -, rfl⟩ := List.mem_map.mp hpush
                exact fun hstream => hsame (of_decide_eq_true hstream)
              rw [hnone, (read_of_ne _ chunk hsame).2.2.1]
              exact String.append_empty.symm

/-! ### The whole output -/

/-- What the reader of a stream pushes and writes depends on the output of the stream alone, and nothing of a
line that is redacted as a whole is in it. -/
structure WellRedacted (events : List (Stream × Chunk)) (stream : Stream) : Prop where
  pushed_eq : (readersAfter events).pushed stream = transcript stream (outputOf stream events)
  written_eq : (readersAfter events).written stream = transcript stream (outputOf stream events)
  disclosed : ∀ line ∈ ((readersAfter events).written stream).toList.splitOn '\n',
    line = [] ∨ line = (stream.label ++ ":").toList ∨ line = logRedactor.notice.toList ∨
      ∃ source ∈ lossyLines (outputOf stream events), logRedactor.isSensitive source = false ∧
        line = (Text.takeChars 500 source).toList

theorem mem_splitOn_transcript {stream : Stream} {output : Bytes} {line : List Char}
    (hline : line ∈ (transcript stream output).toList.splitOn '\n') :
    line = [] ∨ line = (stream.label ++ ":").toList ∨ line = logRedactor.notice.toList ∨
      ∃ source ∈ lossyLines output, logRedactor.isSensitive source = false ∧
        line = (Text.takeChars 500 source).toList := by
  unfold transcript at hline
  by_cases houtput : output = []
  · rw [if_pos houtput] at hline
    exact Or.inl (List.mem_singleton.mp hline)
  · have hlabel : '\n' ∉ (stream.label ++ ":").toList := by
      cases stream <;> decide
    have hsplit : (stream.header ++ (sanitizeLog (fromUtf8Lossy output) ++ "\n")).toList
        = (stream.label ++ ":").toList ++ '\n' :: ((sanitizeLog (fromUtf8Lossy output)).toList
            ++ '\n' :: []) := by
      unfold Stream.header
      simp [String.toList_append]
    have hnone : ([] : List Char).splitOn '\n' = [[]] := rfl
    rw [if_neg houtput, hsplit, List.splitOn_append_cons_self, List.splitOn_append_cons_self, hnone,
      List.splitOn_eq_singleton hlabel, List.mem_append, List.mem_singleton, List.mem_append,
      List.mem_singleton] at hline
    obtain hheader | hredacted | hempty := hline
    · exact Or.inr (Or.inl hheader)
    · right; right
      unfold sanitizeLog at hredacted
      rw [Redactor.splitOn_redact (by decide) (Redactor.lossyLines_ne_nil houtput)] at hredacted
      obtain ⟨source, hsource, rfl⟩ := List.mem_map.mp hredacted
      by_cases hsensitive : logRedactor.isSensitive source = true
      · exact Or.inl (congrArg String.toList (Redactor.redactLine_of_isSensitive hsensitive))
      · right
        refine ⟨source, hsource, Bool.eq_false_iff.mpr hsensitive, ?_⟩
        exact congrArg String.toList (if_neg hsensitive)
    · exact Or.inl hempty

theorem endsLines_of_pushed {events : List (Stream × Chunk)} {stream : Stream}
    (hpushed : (readersAfter events).pushed stream = transcript stream (outputOf stream events))
    (hwritten : (readersAfter events).written stream = transcript stream (outputOf stream events)) :
    (readersAfter events).panicked stream = false ∧
      ∀ bytes ∈ (readsOf stream events).dropLast, bytes.getLast? = some newline := by
  have hrecorded := recorded_after events stream
  have hrunning : (readersAfter events).panicked stream = false := by
    by_contra hpanicked
    rw [Bool.not_eq_false] at hpanicked
    exact hrecorded.lost hpanicked (hwritten.trans hpushed.symm)
  refine ⟨hrunning, ?_⟩
  rw [← recorded_eq_transcript_iff stream ne_nil_of_mem_readsOf, ← hrecorded.pushed hrunning, hpushed]
  rfl

end LightAI.Agent
