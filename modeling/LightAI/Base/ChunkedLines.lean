import LightAI.Base.TextLines

/-!
# Redaction chunk by chunk

Some bytes arrive in chunks, and each chunk is redacted by itself and ended with a line end. The result is that
of redacting the whole exactly where every chunk but the last ends with a line end: any other cut makes one
line more than the whole has.
-/

namespace Redactor

open Utf8 (Bytes newline lossyLines fromUtf8Lossy LeavesOpen)

variable {redactor : Redactor}

/-- Some bytes, redacted and ended. -/
def redactChunk (redactor : Redactor) (bytes : Bytes) : List Char :=
  (redactor.redact (fromUtf8Lossy bytes) ++ "\n").toList

theorem lossyLines_ne_nil {bytes : Bytes} (hbytes : bytes ≠ []) : lossyLines bytes ≠ [] := by
  intro hnil
  have hlength := Utf8.length_lossyLines bytes
  rw [hnil, List.length_nil] at hlength
  have hcount : bytes.count newline = 0 := by omega
  have hopen : LeavesOpen bytes :=
    ⟨hbytes, fun hlast => List.count_eq_zero.mp hcount (List.mem_of_getLast? hlast)⟩
  rw [if_pos hopen] at hlength
  omega

theorem redactChunk_eq {bytes : Bytes} (hbytes : bytes ≠ []) :
    redactor.redactChunk bytes
      = (lossyLines bytes).flatMap fun line => (redactor.redactLine line).toList ++ ['\n'] :=
  redact_ended (lossyLines_ne_nil hbytes)

/-- A redacted chunk has as many line ends as the chunk has lines. -/
theorem count_redactChunk (hnotice : '\n' ∉ redactor.notice.toList) {bytes : Bytes} (hbytes : bytes ≠ []) :
    (redactor.redactChunk bytes).count '\n' = (lossyLines bytes).length := by
  have hone (line : String) (hline : line ∈ lossyLines bytes) :
      (List.count '\n' ∘ fun line => (redactor.redactLine line).toList ++ ['\n']) line = 1 := by
    rw [Function.comp_apply, List.count_append, List.count_eq_zero_of_not_mem (newline_notMem_redactLine hnotice hline)]
    rfl
  rw [redactChunk_eq hbytes, List.count_flatMap, List.map_congr_left hone, List.map_const',
    List.sum_replicate, smul_eq_mul, mul_one]

/-- After a chunk that ends its last line, the rest is redacted as if it stood alone. -/
theorem redactChunk_append {bytes rest : Bytes} (hended : bytes.getLast? = some newline) (hrest : rest ≠ []) :
    redactor.redactChunk (bytes ++ rest) = redactor.redactChunk bytes ++ redactor.redactChunk rest := by
  obtain ⟨front, rfl⟩ := List.getLast?_eq_some_iff.mp hended
  rw [redactChunk_eq (List.append_ne_nil_of_right_ne_nil _ hrest), redactChunk_eq (List.concat_ne_nil _ _),
    redactChunk_eq hrest, ← List.flatMap_append, ← Utf8.lossyLines_append, List.append_assoc,
    List.singleton_append]

/-- The lines that are left open by some chunks. -/
def openLines (chunks : List Bytes) : Nat := (chunks.map fun bytes => if LeavesOpen bytes then 1 else 0).sum

theorem not_leavesOpen_iff {bytes : Bytes} (hbytes : bytes ≠ []) :
    ¬ LeavesOpen bytes ↔ bytes.getLast? = some newline := by
  unfold LeavesOpen
  rw [not_and, not_not]
  exact ⟨fun h => h hbytes, fun h _ => h⟩

/-- Only the last chunk leaves a line open in the whole, so the others must not leave any. -/
theorem openLines_eq_iff {first : Bytes} {chunks : List Bytes} (hne : ∀ bytes ∈ first :: chunks, bytes ≠ []) :
    (if LeavesOpen (first :: chunks).flatten then 1 else 0) ≤ openLines (first :: chunks) ∧
      (openLines (first :: chunks) = (if LeavesOpen (first :: chunks).flatten then 1 else 0) ↔
        ∀ bytes ∈ (first :: chunks).dropLast, bytes.getLast? = some newline) := by
  induction chunks generalizing first with
  | nil =>
      have hone : openLines [first] = if LeavesOpen [first].flatten then 1 else 0 := by
        unfold openLines
        simp
      exact ⟨le_of_eq hone.symm, fun _ bytes hbytes => absurd hbytes List.not_mem_nil, fun _ => hone⟩
  | cons second chunks ih =>
      obtain ⟨hle, hiff⟩ := ih fun bytes hbytes => hne bytes (List.mem_cons_of_mem _ hbytes)
      have hsecond : second ≠ [] := hne second (List.mem_cons_of_mem _ List.mem_cons_self)
      have hrest : (second :: chunks).flatten ≠ [] := by
        rw [List.flatten_cons]
        exact List.append_ne_nil_of_left_ne_nil hsecond _
      have hflatten : LeavesOpen (first :: second :: chunks).flatten ↔ LeavesOpen (second :: chunks).flatten := by
        rw [List.flatten_cons]
        exact Utf8.leavesOpen_append first hrest
      have hsum : openLines (first :: second :: chunks)
          = (if LeavesOpen first then 1 else 0) + openLines (second :: chunks) := List.sum_cons
      have hfirst := not_leavesOpen_iff (hne first List.mem_cons_self)
      rw [List.dropLast_cons_cons, List.forall_mem_cons, ← hfirst, ← hiff, hsum, if_congr hflatten rfl rfl]
      generalize openLines (second :: chunks) = rest at hle ⊢
      generalize (if LeavesOpen (second :: chunks).flatten then 1 else 0) = whole at hle ⊢
      by_cases hopen : LeavesOpen first
      · rw [if_pos hopen]
        exact ⟨by omega, fun h => by omega, fun h => absurd hopen h.1⟩
      · rw [if_neg hopen]
        exact ⟨by omega, fun h => ⟨hopen, by omega⟩, fun h => by omega⟩

theorem redactChunk_flatten {first : Bytes} {chunks : List Bytes} (hne : ∀ bytes ∈ first :: chunks, bytes ≠ [])
    (hended : ∀ bytes ∈ (first :: chunks).dropLast, bytes.getLast? = some newline) :
    (first :: chunks).flatMap redactor.redactChunk = redactor.redactChunk (first :: chunks).flatten := by
  induction chunks generalizing first with
  | nil => rw [List.flatMap_singleton, List.flatten_singleton]
  | cons second chunks ih =>
      rw [List.dropLast_cons_cons, List.forall_mem_cons] at hended
      have hsecond : second ≠ [] := hne second (List.mem_cons_of_mem _ List.mem_cons_self)
      have hrest : (second :: chunks).flatten ≠ [] := by
        rw [List.flatten_cons]
        exact List.append_ne_nil_of_left_ne_nil hsecond _
      rw [List.flatMap_cons, List.flatten_cons, redactChunk_append hended.1 hrest,
        ih (fun bytes hbytes => hne bytes (List.mem_cons_of_mem _ hbytes)) hended.2]

theorem count_flatMap_redactChunk (hnotice : '\n' ∉ redactor.notice.toList) {chunks : List Bytes}
    (hne : ∀ bytes ∈ chunks, bytes ≠ []) :
    (chunks.flatMap redactor.redactChunk).count '\n' = chunks.flatten.count newline + openLines chunks := by
  induction chunks with
  | nil => rfl
  | cons first chunks ih =>
      have hfirst := count_redactChunk hnotice (hne first List.mem_cons_self)
      have hsum : openLines (first :: chunks)
          = (if LeavesOpen first then 1 else 0) + openLines chunks := List.sum_cons
      rw [List.flatMap_cons, List.count_append, hfirst, Utf8.length_lossyLines,
        ih fun bytes hbytes => hne bytes (List.mem_cons_of_mem _ hbytes), List.flatten_cons,
        List.count_append, hsum]
      omega

/-- The chunks redacted one by one are the whole redacted exactly where all but the last end a line. -/
theorem flatMap_redactChunk_iff (hnotice : '\n' ∉ redactor.notice.toList) {chunks : List Bytes}
    (hchunks : chunks ≠ []) (hne : ∀ bytes ∈ chunks, bytes ≠ []) :
    chunks.flatMap redactor.redactChunk = redactor.redactChunk chunks.flatten ↔
      ∀ bytes ∈ chunks.dropLast, bytes.getLast? = some newline := by
  cases chunks with
  | nil => exact absurd rfl hchunks
  | cons first chunks =>
      constructor
      · intro hsame
        have hwhole : (first :: chunks).flatten ≠ [] := by
          rw [List.flatten_cons]
          exact List.append_ne_nil_of_left_ne_nil (hne first List.mem_cons_self) _
        have hcount := congrArg (List.count '\n') hsame
        rw [count_flatMap_redactChunk hnotice hne, count_redactChunk hnotice hwhole,
          Utf8.length_lossyLines, Nat.add_left_cancel_iff] at hcount
        exact (openLines_eq_iff hne).2.mp hcount
      · intro hended
        exact redactChunk_flatten hne hended

end Redactor
