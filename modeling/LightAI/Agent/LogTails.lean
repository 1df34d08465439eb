import LightAI.Agent.ProcessLogs

/-!
# When a tail can be cut

A text that is longer than the limit is cut where the last bytes of the limit begin. That is possible exactly
where a character begins, and the offset is chosen without looking. The buffer of a child is always the end of
all that was pushed to it, so where it can be trimmed depends on what was pushed alone.
-/

namespace LightAI.Agent

open Utf8 (Bytes IsBoundary)

/-- A part at the end of a text that is not longer than a limit. -/
structure IsTail (limit : Nat) (text tail : String) : Prop where
  suffix : tail.toList <:+ text.toList
  size_le : tail.utf8ByteSize ≤ limit

/-- The last `limit` bytes of the text begin with a character, or the text is not longer than that. -/
def TailBegins (limit : Nat) (text : String) : Prop :=
  IsBoundary text.toList (text.utf8ByteSize - limit)

theorem isTail_of_sliceFrom {limit : Nat} {text tail : String}
    (hslice : Text.sliceFrom text (text.utf8ByteSize - limit) = some tail) : IsTail limit text tail := by
  obtain ⟨front, htext, hfront⟩ := Text.sliceFrom_eq_some_iff.mp hslice
  have hsize : text.utf8ByteSize = front.utf8ByteSize + tail.utf8ByteSize := by
    rw [htext, String.utf8ByteSize_append]
  refine ⟨⟨front.toList, ?_⟩, by omega⟩
  rw [htext, String.toList_append]

theorem sliceFrom_isTail_iff {limit : Nat} {text : String} :
    (∃ tail, Text.sliceFrom text (text.utf8ByteSize - limit) = some tail ∧ IsTail limit text tail) ↔
      TailBegins limit text := by
  have hstart : text.utf8ByteSize - limit ≤ (Utf8.encode text.toList).length := by
    rw [Utf8.length_encode_toList]
    exact Nat.sub_le _ _
  have hsome : (Text.sliceFrom text (text.utf8ByteSize - limit)).isSome = true ↔ TailBegins limit text := by
    unfold Text.sliceFrom TailBegins
    rw [Option.isSome_map, Utf8.sliceFrom_isSome_iff hstart]
  rw [← hsome]
  constructor
  · rintro ⟨tail, hslice, -⟩
    rw [hslice]
    rfl
  · intro hisSome
    obtain ⟨tail, htail⟩ := Option.isSome_iff_exists.mp hisSome
    exact ⟨tail, htail, isTail_of_sliceFrom htail⟩

theorem tailBegins_of_le {limit : Nat} {text : String} (hle : text.utf8ByteSize ≤ limit) :
    TailBegins limit text := by
  unfold TailBegins
  rw [Nat.sub_eq_zero_of_le hle]
  exact Utf8.isBoundary_zero _

theorem isTail_self {limit : Nat} {text : String} (hle : text.utf8ByteSize ≤ limit) :
    IsTail limit text text := ⟨List.suffix_rfl, hle⟩

theorem tailBytes_iff (text : String) (maxBytes : Nat) :
    (∃ tail, tailBytes text maxBytes = some tail ∧ IsTail maxBytes text tail) ↔ TailBegins maxBytes text := by
  unfold tailBytes
  by_cases hle : text.utf8ByteSize ≤ maxBytes
  · rw [if_pos hle]
    exact ⟨fun _ => tailBegins_of_le hle, fun _ => ⟨text, rfl, isTail_self hle⟩⟩
  · rw [if_neg hle]
    exact sliceFrom_isTail_iff

theorem trimLogBuffer_iff (buffer : String) :
    (∃ tail, trimLogBuffer buffer = some tail ∧ IsTail maxLogBytes buffer tail) ↔
      TailBegins maxLogBytes buffer := by
  unfold trimLogBuffer
  by_cases hlong : maxLogBytes < buffer.utf8ByteSize
  · rw [if_pos hlong]
    exact sliceFrom_isTail_iff
  · rw [if_neg hlong]
    have hle := Nat.le_of_not_lt hlong
    exact ⟨fun _ => tailBegins_of_le hle, fun _ => ⟨buffer, rfl, isTail_self hle⟩⟩

theorem readDockerLogs_iff (output : DockerOutput) (limit : Nat) :
    (∃ tail, readDockerLogs (.ok output) limit = some (.ok (sanitizeLog tail)) ∧
        IsTail limit output.combined tail) ↔ TailBegins limit output.combined := by
  rw [← sliceFrom_isTail_iff]
  constructor
  · rintro ⟨tail, hread, -⟩
    obtain ⟨cut, hcut, -⟩ := Option.map_eq_some_iff.mp hread
    exact ⟨cut, hcut, isTail_of_sliceFrom hcut⟩
  · rintro ⟨tail, hslice, htail⟩
    refine ⟨tail, ?_, htail⟩
    unfold readDockerLogs
    dsimp only
    rw [hslice]
    rfl

/-! ### The buffer of a child -/

/-- What a reader does to the buffer: the header is only pushed, a text is pushed and the buffer trimmed. -/
inductive BufferPush where
  | header (value : String)
  | text (value : String)

def BufferPush.content : BufferPush → String
  | .header value | .text value => value

/-- A reader that panics leaves the buffer as it is, for the other one to go on with. -/
def BufferPush.apply (buffer : String) : BufferPush → String
  | .header value => buffer ++ value
  | .text value => (trimLogBuffer (buffer ++ value)).getD (buffer ++ value)

def bufferAfter (pushes : List BufferPush) : String := pushes.foldl BufferPush.apply ""

def allPushed (pushes : List BufferPush) : String :=
  pushes.foldl (fun text push => text ++ push.content) ""

theorem read_buffer {s : LogReaders} {stream : Stream} {chunk : Chunk} (hrunning : s.panicked stream = false) :
    (s.read (stream, chunk)).buffer
      = ((if s.headerWritten stream then [] else [BufferPush.header stream.header])
          ++ [BufferPush.text (sanitizeLog (Utf8.fromUtf8Lossy chunk.bytes) ++ "\n")]).foldl
            BufferPush.apply s.buffer := by
  have hgoes : ¬ s.panicked stream = true := by
    rw [hrunning]
    exact Bool.false_ne_true
  have htext (s : LogReaders) (text : String) :
      (s.writeText stream text).buffer = BufferPush.apply s.buffer (.text (text ++ "\n")) := by
    unfold LogReaders.writeText BufferPush.apply
    dsimp only
    cases trimLogBuffer (s.buffer ++ (text ++ "\n")) <;> rfl
  unfold LogReaders.read
  rw [if_neg hgoes, htext, List.foldl_append]
  unfold LogReaders.writeHeader
  by_cases hheader : s.headerWritten stream = true
  · rw [if_pos hheader, if_pos hheader]
    rfl
  · rw [if_neg hheader, if_neg hheader]
    rfl

/-- The buffer is the end of a text, and the whole of it unless it has the size of a trimmed buffer. -/
def HoldsEnd (buffer total : String) : Prop :=
  ∃ front, total = front ++ buffer ∧ (front = "" ∨ maxLogBytes ≤ buffer.utf8ByteSize)

theorem HoldsEnd.append {buffer total : String} (h : HoldsEnd buffer total) (text : String) :
    HoldsEnd (buffer ++ text) (total ++ text) := by
  obtain ⟨front, rfl, hfront⟩ := h
  refine ⟨front, String.append_assoc, ?_⟩
  rw [String.utf8ByteSize_append]
  exact hfront.imp_right fun hsize => by omega

theorem HoldsEnd.trim {buffer total : String} (h : HoldsEnd buffer total) :
    HoldsEnd ((trimLogBuffer buffer).getD buffer) total := by
  unfold trimLogBuffer
  by_cases hlong : maxLogBytes < buffer.utf8ByteSize
  · rw [if_pos hlong]
    cases hslice : Text.sliceFrom buffer (buffer.utf8ByteSize - maxLogBytes) with
    | none => exact h
    | some tail =>
        obtain ⟨front, rfl, -⟩ := h
        obtain ⟨cut, rfl, hcut⟩ := Text.sliceFrom_eq_some_iff.mp hslice
        rw [String.utf8ByteSize_append] at hcut hlong
        refine ⟨front ++ cut, String.append_assoc.symm, Or.inr ?_⟩
        rw [Option.getD_some]
        omega
  · rw [if_neg hlong]
    exact h

theorem holdsEnd_foldl {buffer total : String} (h : HoldsEnd buffer total) (pushes : List BufferPush) :
    HoldsEnd (pushes.foldl BufferPush.apply buffer)
      (pushes.foldl (fun text push => text ++ push.content) total) := by
  induction pushes generalizing buffer total with
  | nil => exact h
  | cons push pushes ih =>
      apply ih
      cases push with
      | header text => exact h.append text
      | text text => exact (h.append text).trim

theorem holdsEnd_bufferAfter (pushes : List BufferPush) :
    HoldsEnd (bufferAfter pushes) (allPushed pushes) :=
  holdsEnd_foldl ⟨"", rfl, Or.inl rfl⟩ pushes

/-- The end of the buffer is the end of all that was pushed to it. -/
theorem HoldsEnd.tailBegins_iff {buffer total : String} (h : HoldsEnd buffer total) :
    TailBegins maxLogBytes buffer ↔ TailBegins maxLogBytes total := by
  obtain ⟨front, rfl, rfl | hsize⟩ := h
  · rw [String.empty_append]
  · have hshift : (Utf8.encode (front ++ buffer).toList)[(front ++ buffer).utf8ByteSize - maxLogBytes]?
        = (Utf8.encode buffer.toList)[buffer.utf8ByteSize - maxLogBytes]? := by
      have hfront := Utf8.length_encode_toList front
      have hindex : (front ++ buffer).utf8ByteSize - maxLogBytes
          = front.utf8ByteSize + (buffer.utf8ByteSize - maxLogBytes) := by
        rw [String.utf8ByteSize_append]
        omega
      rw [hindex, String.toList_append, Utf8.encode_append, List.getElem?_append_right (by omega), hfront,
        Nat.add_sub_cancel_left]
    unfold TailBegins IsBoundary
    rw [hshift]

/-- Every trimming of the buffer during some pushes gives the end of what was in it. -/
def AllTrimmed (pushes : List BufferPush) : Prop :=
  ∀ earlier text later, pushes = earlier ++ .text text :: later →
    ∃ tail, trimLogBuffer (bufferAfter earlier ++ text) = some tail ∧
      IsTail maxLogBytes (bufferAfter earlier ++ text) tail

theorem allTrimmed_iff (pushes : List BufferPush) :
    AllTrimmed pushes ↔ ∀ earlier text later, pushes = earlier ++ .text text :: later →
      TailBegins maxLogBytes (allPushed (earlier ++ [.text text])) := by
  have hstep (earlier : List BufferPush) (text : String) :
      (∃ tail, trimLogBuffer (bufferAfter earlier ++ text) = some tail ∧
          IsTail maxLogBytes (bufferAfter earlier ++ text) tail) ↔
        TailBegins maxLogBytes (allPushed (earlier ++ [.text text])) := by
    have hall : allPushed (earlier ++ [.text text]) = allPushed earlier ++ text := by
      unfold allPushed
      rw [List.foldl_append]
      rfl
    rw [trimLogBuffer_iff, ((holdsEnd_bufferAfter earlier).append text).tailBegins_iff, hall]
  constructor
  · intro h earlier text later hsplit
    exact (hstep earlier text).mp (h earlier text later hsplit)
  · intro h earlier text later hsplit
    exact (hstep earlier text).mpr (h earlier text later hsplit)

/-- The three functions give the end of their text exactly where a character begins at the offset that they
cut at. -/
theorem tail_cut_iff (text : String) (maxBytes : Nat) (pushes : List BufferPush) (output : DockerOutput)
    (limit : Nat) :
    ((∃ tail, tailBytes text maxBytes = some tail ∧ IsTail maxBytes text tail) ↔ TailBegins maxBytes text) ∧
    (AllTrimmed pushes ↔ ∀ earlier pushed later, pushes = earlier ++ .text pushed :: later →
      TailBegins maxLogBytes (allPushed (earlier ++ [.text pushed]))) ∧
    ((∃ tail, readDockerLogs (.ok output) limit = some (.ok (sanitizeLog tail)) ∧
      IsTail limit output.combined tail) ↔ TailBegins limit output.combined) :=
  ⟨tailBytes_iff text maxBytes, allTrimmed_iff pushes, readDockerLogs_iff output limit⟩

/-- The last byte of a character of two bytes is no text. -/
theorem tailBytes_within_character :
    ¬∀ text maxBytes, ∃ tail, tailBytes text maxBytes = some tail ∧ IsTail maxBytes text tail := by
  intro h
  obtain ⟨tail, htail, -⟩ := h "é" 1
  have hpanics : tailBytes "é" 1 = none := by decide
  rw [hpanics] at htail
  cases htail

end LightAI.Agent
