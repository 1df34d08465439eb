import LightAI.Base.Segments
import LightAI.Log.CleanLogs

/-!
# What rotation keeps

Each operation on the files of a log is described by what it leaves under every number. With one policy the
files are the newest segments of the log, one under each number, and nothing lies beyond the numbers that are
retained. When the policy changes, clean-up reaches only twenty numbers further than what is to be retained.
-/

namespace LightAI.Log

open Server (LogPolicy)

/-! ### The operations, number by number -/

section Numbers

variable {files : LogFiles} {count index : Nat}

theorem renameToNext_next (index : Nat) (files : LogFiles) :
    renameToNext index files (index + 1) = (files index).or (files (index + 1)) := by
  unfold renameToNext
  cases files index with
  | none => rfl
  | some file => exact Function.update_self _ _ _

theorem renameToNext_self (index : Nat) (files : LogFiles) : renameToNext index files index = none := by
  unfold renameToNext
  cases hfile : files index with
  | none => exact hfile
  | some file =>
      dsimp only
      rw [Function.update_of_ne (by omega), Function.update_self]

theorem renameToNext_of_ne {other : Nat} (hself : other ≠ index) (hnext : other ≠ index + 1) :
    renameToNext index files other = files other := by
  unfold renameToNext
  cases files index with
  | none => rfl
  | some file =>
      dsimp only
      rw [Function.update_of_ne hnext, Function.update_of_ne hself]

theorem renameDown_outside (hindex : index = 0 ∨ count + 1 < index) :
    renameDown count files index = files index := by
  induction count generalizing files with
  | zero => rfl
  | succ count ih =>
      calc renameDown (count + 1) files index
          = renameDown count (renameToNext (count + 1) files) index := rfl
        _ = renameToNext (count + 1) files index := ih (by omega)
        _ = files index := renameToNext_of_ne (by omega) (by omega)

theorem renameDown_top (hcount : 1 ≤ count) :
    renameDown count files (count + 1) = (files count).or (files (count + 1)) := by
  obtain ⟨below, rfl⟩ := Nat.exists_eq_add_of_le' hcount
  calc renameDown (below + 1) files (below + 2)
      = renameDown below (renameToNext (below + 1) files) (below + 2) := rfl
    _ = renameToNext (below + 1) files (below + 2) := renameDown_outside (by omega)
    _ = (files (below + 1)).or (files (below + 2)) := renameToNext_next _ _

theorem renameDown_one (hcount : 1 ≤ count) : renameDown count files 1 = none := by
  induction count generalizing files with
  | zero => omega
  | succ count ih =>
      by_cases hlast : count = 0
      · rw [hlast]
        exact renameToNext_self 1 files
      · exact ih (by omega)

theorem renameDown_between (hlow : 2 ≤ index) (hhigh : index ≤ count) :
    renameDown count files index = files (index - 1) := by
  induction count generalizing files with
  | zero => omega
  | succ count ih =>
      have hstep : renameDown (count + 1) files index
          = renameDown count (renameToNext (count + 1) files) index := rfl
      rw [hstep]
      by_cases htop : index = count + 1
      · -- the place was left by the step before, so the file below moves into it
        rw [htop, renameDown_top (by omega), renameToNext_self, Option.or_none,
          renameToNext_of_ne (by omega) (by omega)]
        rfl
      · rw [ih (by omega), renameToNext_of_ne (by omega) (by omega)]

/-- The files after a rotation. -/
def rotated (policy : LogPolicy) (files : LogFiles) : LogFiles :=
  renameToNext 0 (renameDown policy.logRetentionFiles files)

variable {policy : LogPolicy}

theorem rotated_current : rotated policy files 0 = none := renameToNext_self 0 _

theorem rotated_retained (hlow : 1 ≤ index) (hhigh : index ≤ policy.logRetentionFiles) :
    rotated policy files index = files (index - 1) := by
  unfold rotated
  by_cases hfirst : index = 1
  · rw [hfirst, renameToNext_next, renameDown_outside (Or.inl rfl), renameDown_one (by omega),
      Option.or_none]
  · rw [renameToNext_of_ne (by omega) (by omega), renameDown_between (by omega) hhigh]

theorem rotated_beyond (hindex : policy.logRetentionFiles + 1 < index) :
    rotated policy files index = files index := by
  unfold rotated
  rw [renameToNext_of_ne (by omega) (by omega), renameDown_outside (Or.inr hindex)]

theorem rotateIfNeeded_of_needs {incoming : Nat} (hneeds : needsRotation policy incoming files) :
    rotateIfNeeded policy incoming files = rotated policy files := if_pos hneeds

theorem rotateIfNeeded_of_not {incoming : Nat} (hneeds : ¬ needsRotation policy incoming files) :
    rotateIfNeeded policy incoming files = files := if_neg hneeds

theorem foldl_removeFile (files : LogFiles) (from' count index : Nat) :
    (List.range' from' count).foldl (fun files index => removeFile index files) files index
      = if from' ≤ index ∧ index < from' + count then none else files index := by
  induction count generalizing from' files with
  | zero =>
      rw [if_neg (by omega)]
      rfl
  | succ count ih =>
      rw [List.range'_succ, List.foldl_cons, ih]
      unfold removeFile
      by_cases hfirst : index = from'
      · rw [if_neg (by omega), if_pos (by omega), hfirst, Function.update_self]
      · rw [Function.update_of_ne hfirst]
        by_cases hlater : from' + 1 ≤ index ∧ index < from' + 1 + count
        · rw [if_pos hlater, if_pos (by omega)]
        · rw [if_neg hlater, if_neg (by omega)]

theorem foldl_removeExpired (policy : LogPolicy) (now : Nat) (files : LogFiles) (from' count index : Nat) :
    (List.range' from' count).foldl (fun files index => removeExpired policy now index files) files index
      = if from' ≤ index ∧ index < from' + count then
          (files index).filter fun file => !expired policy now file
        else files index := by
  induction count generalizing from' files with
  | zero =>
      rw [if_neg (by omega)]
      rfl
  | succ count ih =>
      have hremoved (index : Nat) : removeExpired policy now from' files index
          = if index = from' then (files index).filter fun file => !expired policy now file
            else files index := by
        unfold removeExpired removeFile
        cases hfile : files from' with
        | none =>
            by_cases hsame : index = from'
            · rw [if_pos hsame, hsame, Option.any_none, if_neg (by decide), hfile]
              rfl
            · rw [if_neg hsame, Option.any_none, if_neg (by decide)]
        | some file =>
            rw [Option.any_some]
            cases hexpired : expired policy now file with
            | true =>
                rw [if_pos rfl]
                by_cases hsame : index = from'
                · rw [if_pos hsame, hsame, Function.update_self, hfile, Option.filter_some, hexpired]
                  rfl
                · rw [if_neg hsame, Function.update_of_ne hsame]
            | false =>
                rw [if_neg (by decide)]
                by_cases hsame : index = from'
                · rw [if_pos hsame, hsame, hfile, Option.filter_some, hexpired]
                  rfl
                · rw [if_neg hsame]
      rw [List.range'_succ, List.foldl_cons, ih, hremoved]
      by_cases hfirst : index = from'
      · rw [if_neg (by omega), if_pos hfirst, if_pos (by omega)]
      · rw [if_neg hfirst]
        by_cases hlater : from' + 1 ≤ index ∧ index < from' + 1 + count
        · rw [if_pos hlater, if_pos (by omega)]
        · rw [if_neg hlater, if_neg (by omega)]

/-- Clean-up removes the files just beyond the retention, leaves everything farther away, and of the retained
ones removes those that are too old. -/
theorem cleanupRetention_excess {now : Nat} (hlow : policy.logRetentionFiles < index)
    (hhigh : index ≤ policy.logRetentionFiles + 20) : cleanupRetention policy now files index = none := by
  unfold cleanupRetention
  by_cases hdays : policy.logRetentionDays = 0
  · rw [if_pos hdays, foldl_removeFile, if_pos (by omega)]
  · rw [if_neg hdays, foldl_removeExpired, if_pos (by omega), foldl_removeFile, if_pos (by omega)]
    rfl

theorem cleanupRetention_beyond {now : Nat} (hindex : policy.logRetentionFiles + 20 < index) :
    cleanupRetention policy now files index = files index := by
  unfold cleanupRetention
  by_cases hdays : policy.logRetentionDays = 0
  · rw [if_pos hdays, foldl_removeFile, if_neg (by omega)]
  · rw [if_neg hdays, foldl_removeExpired, if_neg (by omega), foldl_removeFile, if_neg (by omega)]

theorem cleanupRetention_current {now : Nat} : cleanupRetention policy now files 0 = files 0 := by
  unfold cleanupRetention
  by_cases hdays : policy.logRetentionDays = 0
  · rw [if_pos hdays, foldl_removeFile, if_neg (by omega)]
  · rw [if_neg hdays, foldl_removeExpired, if_neg (by omega), foldl_removeFile, if_neg (by omega)]

/-- A file that the policy takes for too old. -/
def Expires (policy : LogPolicy) (now : Nat) (file : LogFile) : Prop :=
  policy.logRetentionDays ≠ 0 ∧ expired policy now file = true

theorem cleanupRetention_retained {now : Nat} (hlow : 1 ≤ index) (hhigh : index ≤ policy.logRetentionFiles)
    (hfresh : ∀ file, files index = some file → ¬ Expires policy now file) :
    cleanupRetention policy now files index = files index := by
  unfold cleanupRetention
  by_cases hdays : policy.logRetentionDays = 0
  · rw [if_pos hdays, foldl_removeFile, if_neg (by omega)]
  · rw [if_neg hdays, foldl_removeExpired, if_pos (by omega), foldl_removeFile, if_neg (by omega)]
    cases hfile : files index with
    | none => rfl
    | some file =>
        have hkept : expired policy now file = false := by
          rw [← Bool.not_eq_true]
          exact fun hexpired => hfresh file hfile ⟨hdays, hexpired⟩
        rw [Option.filter_some, hkept]
        rfl

theorem writeEntry_current (now : Nat) (line : String) (files : LogFiles) :
    writeEntry now line files 0 = some ⟨((files 0).elim "" LogFile.text) ++ line, now⟩ :=
  Function.update_self _ _ _

theorem writeEntry_rotated {now : Nat} {line : String} (hindex : index ≠ 0) :
    writeEntry now line files index = files index := Function.update_of_ne hindex _ _

end Numbers

/-! ### One policy -/

/-- The text of a segment. -/
def concat (lines : List String) : String := lines.foldr (· ++ ·) ""

theorem concat_append_singleton (lines : List String) (line : String) :
    concat (lines ++ [line]) = concat lines ++ line := by
  induction lines with
  | nil => exact (String.append_empty).trans (String.empty_append).symm
  | cons first lines ih =>
      calc concat (first :: (lines ++ [line])) = first ++ concat (lines ++ [line]) := rfl
        _ = first ++ (concat lines ++ line) := by rw [ih]
        _ = concat (first :: lines) ++ line := String.append_assoc.symm

theorem utf8ByteSize_concat (lines : List String) :
    (concat lines).utf8ByteSize = Segments.total String.utf8ByteSize lines := by
  induction lines with
  | nil => rfl
  | cons first lines ih =>
      have hstep : concat (first :: lines) = first ++ concat lines := rfl
      rw [hstep, String.utf8ByteSize_append, ih]
      rfl

/-- The files hold the newest segments, one under each number, and nothing else. -/
def HoldSegments (policy : LogPolicy) (segments : List (List String)) (files : LogFiles) : Prop :=
  ∀ index, (files index).map LogFile.text
    = if index ≤ policy.logRetentionFiles then segments[index]?.map concat else none

/-- None of the retained files is too old when the log is cleaned up after a line is written. -/
def StaysFresh (policy : LogPolicy) (now : Nat) (line : String) (files : LogFiles) : Prop :=
  ∀ index, 1 ≤ index → index ≤ policy.logRetentionFiles → ∀ file,
    writeEntry now line (rotateIfNeeded policy line.utf8ByteSize files) index = some file →
      ¬ Expires policy now file

section OnePolicy

variable {policy : LogPolicy} {segments : List (List String)} {files : LogFiles} {line : String} {now : Nat}

theorem HoldSegments.currentSize_eq (hhold : HoldSegments policy segments files) :
    currentSize files = segments.head?.elim 0 (Segments.total String.utf8ByteSize) := by
  have hcurrent := hhold 0
  rw [if_pos (Nat.zero_le _), ← List.head?_eq_getElem?] at hcurrent
  unfold currentSize
  cases hhead : segments.head? with
  | none =>
      rw [hhead] at hcurrent
      cases hfile : files 0 with
      | none => rfl
      | some file =>
          rw [hfile] at hcurrent
          cases hcurrent
  | some newest =>
      rw [hhead] at hcurrent
      cases hfile : files 0 with
      | none =>
          rw [hfile] at hcurrent
          cases hcurrent
      | some file =>
          rw [hfile] at hcurrent
          have htext : file.text = concat newest := Option.some.inj hcurrent
          rw [Option.elim_some, Option.elim_some, htext, utf8ByteSize_concat]

/-- Where the line goes before anything is cleaned up: it continues the newest segment or begins one. -/
theorem HoldSegments.rotateIfNeeded (hhold : HoldSegments policy segments files) (line : String) :
    let before := rotateIfNeeded policy line.utf8ByteSize files
    let after := Segments.add String.utf8ByteSize policy.logMaxFileBytes segments line
    after.head?.map concat = some ((before 0).elim "" LogFile.text ++ line) ∧
      (∀ index, 1 ≤ index → index ≤ policy.logRetentionFiles →
        (before index).map LogFile.text = after[index]?.map concat) ∧
      ∀ index, policy.logRetentionFiles + 20 < index → before index = none := by
  have hsize := hhold.currentSize_eq
  have hnone (index : Nat) (hindex : policy.logRetentionFiles < index) : files index = none := by
    have hmap := hhold index
    rw [if_neg (by omega)] at hmap
    exact Option.map_eq_none_iff.mp hmap
  have hat (index : Nat) (hindex : index ≤ policy.logRetentionFiles) :
      (files index).map LogFile.text = segments[index]?.map concat := by
    rw [hhold index, if_pos hindex]
  have hcurrent := hat 0 (Nat.zero_le _)
  intro before after
  by_cases hneeds : needsRotation policy line.utf8ByteSize files
  · have hbefore : before = rotated policy files := rotateIfNeeded_of_needs hneeds
    have hafter : after = [line] :: segments := by
      cases hsegments : segments with
      | nil => exact congrArg (Segments.add _ _ · line) hsegments
      | cons newest older =>
          rw [hsegments] at hsize
          have hfull : policy.logMaxFileBytes < Segments.total String.utf8ByteSize newest
              + line.utf8ByteSize := by
            unfold needsRotation at hneeds
            rw [hsize] at hneeds
            exact hneeds
          calc after = Segments.add String.utf8ByteSize policy.logMaxFileBytes (newest :: older) line :=
                congrArg (Segments.add _ _ · line) hsegments
            _ = [line] :: newest :: older := Segments.add_of_full hfull older
    rw [hbefore, hafter]
    refine ⟨?_, ?_, ?_⟩
    · rw [rotated_current]
      exact congrArg some (concat_append_singleton [] line)
    · intro index hlow hhigh
      obtain ⟨below, rfl⟩ := Nat.exists_eq_add_of_le' hlow
      rw [rotated_retained hlow hhigh, List.getElem?_cons_succ]
      exact hat below (by omega)
    · intro index hindex
      rw [rotated_beyond (by omega)]
      exact hnone index (by omega)
  · have hbefore : before = files := rotateIfNeeded_of_not hneeds
    rw [hbefore]
    cases hsegments : segments with
    | nil =>
        have hafter : after = [[line]] := congrArg (Segments.add _ _ · line) hsegments
        rw [hsegments] at hcurrent hat
        rw [hafter]
        have hempty : files 0 = none := Option.map_eq_none_iff.mp hcurrent
        refine ⟨?_, ?_, fun index hindex => hnone index (by omega)⟩
        · rw [hempty]
          exact congrArg some (concat_append_singleton [] line)
        · intro index hlow hhigh
          obtain ⟨below, rfl⟩ := Nat.exists_eq_add_of_le' hlow
          exact hat (below + 1) hhigh
    | cons newest older =>
        rw [hsegments] at hsize hcurrent hat
        have hfull : ¬ policy.logMaxFileBytes < Segments.total String.utf8ByteSize newest
            + line.utf8ByteSize := by
          unfold needsRotation at hneeds
          rw [hsize] at hneeds
          exact hneeds
        have hafter : after = (newest ++ [line]) :: older :=
          (congrArg (Segments.add _ _ · line) hsegments).trans (Segments.add_of_fitting hfull older)
        rw [hafter]
        refine ⟨?_, ?_, fun index hindex => hnone index (by omega)⟩
        · obtain ⟨file, hfile, htext⟩ := Option.map_eq_some_iff.mp hcurrent
          rw [hfile, Option.elim_some, htext, ← concat_append_singleton]
          rfl
        · intro index hlow hhigh
          obtain ⟨below, rfl⟩ := Nat.exists_eq_add_of_le' hlow
          exact hat (below + 1) hhigh

/-- Appending a line adds it to the segments. -/
theorem HoldSegments.appendLine (hhold : HoldSegments policy segments files)
    (hfresh : StaysFresh policy now line files) :
    HoldSegments policy (Segments.add String.utf8ByteSize policy.logMaxFileBytes segments line)
      (appendLine policy now line files) := by
  obtain ⟨hcurrent, hretained, hbeyond⟩ := hhold.rotateIfNeeded line
  intro index
  unfold Log.appendLine
  by_cases hzero : index = 0
  · rw [hzero, if_pos (Nat.zero_le _), cleanupRetention_current, writeEntry_current,
      ← List.head?_eq_getElem?, hcurrent]
    rfl
  by_cases hkept : index ≤ policy.logRetentionFiles
  · rw [if_pos hkept, cleanupRetention_retained (by omega) hkept (hfresh index (by omega) hkept),
      writeEntry_rotated hzero]
    exact hretained index (by omega) hkept
  rw [if_neg hkept]
  by_cases hnear : index ≤ policy.logRetentionFiles + 20
  · rw [cleanupRetention_excess (by omega) hnear]
    rfl
  · rw [cleanupRetention_beyond (by omega), writeEntry_rotated hzero, hbeyond index (by omega)]
    rfl

end OnePolicy

/-! ### Runs with one policy -/

section Runs

variable {Directory : Type} [DecidableEq Directory] {host : Host Directory}

/-- The lines that a call writes to a log. -/
def linesTo (host : Host Directory) (log : Directory × String) (call : AppendCall) : List String :=
  match written host call with
  | .ok (some (target, line)) => if target = log then [line] else []
  | _ => []

/-- The whole text of a log, line by line, as if nothing were ever removed. -/
def writtenTo (host : Host Directory) (log : Directory × String) (calls : List AppendCall) : List String :=
  calls.flatMap (linesTo host log)

theorem runAppends_concat (calls : List AppendCall) (call : AppendCall) (logs : Logs Directory) :
    runAppends host (calls ++ [call]) logs = (append host call (runAppends host calls logs)).2 :=
  List.foldl_append

theorem writtenTo_concat (log : Directory × String) (calls : List AppendCall) (call : AppendCall) :
    writtenTo host log (calls ++ [call]) = writtenTo host log calls ++ linesTo host log call := by
  unfold writtenTo
  rw [List.flatMap_append, List.flatMap_singleton]

/-- What a call does to one log: it appends a line, or it leaves the log alone. -/
theorem append_cases (host : Host Directory) (call : AppendCall) (logs : Logs Directory)
    (log : Directory × String) :
    (∃ line, written host call = .ok (some (log, line)) ∧ linesTo host log call = [line] ∧
      (append host call logs).2 log = appendLine call.policy call.now line (logs log)) ∨
    (linesTo host log call = [] ∧ (append host call logs).2 log = logs log ∧
      ∀ line, written host call ≠ .ok (some (log, line))) := by
  unfold append linesTo
  cases hwritten : written host call with
  | error message => exact Or.inr ⟨rfl, rfl, fun line h => by cases h⟩
  | ok outcome =>
      cases outcome with
      | none => exact Or.inr ⟨rfl, rfl, fun line h => by cases h⟩
      | some target =>
          obtain ⟨opened, line⟩ := target
          dsimp only
          by_cases hsame : opened = log
          · subst hsame
            exact Or.inl ⟨line, rfl, if_pos rfl, Function.update_self _ _ _⟩
          · refine Or.inr ⟨if_neg hsame, Function.update_of_ne (Ne.symm hsame) _ _, ?_⟩
            intro other h
            exact hsame (congrArg Prod.fst (Option.some.inj (Except.ok.inj h)))

/-- No file of a log expires in a run: none is too old at any clean-up. -/
def NothingExpires (host : Host Directory) (calls : List AppendCall) : Prop :=
  ∀ before call after, calls = before ++ call :: after → ∀ log line,
    written host call = .ok (some (log, line)) →
      StaysFresh call.policy call.now line (runAppends host before noLogs log)

theorem runAppends_holdSegments {policy : LogPolicy} {calls : List AppendCall}
    (hpolicy : ∀ call ∈ calls, call.policy = policy) (hfresh : NothingExpires host calls)
    (log : Directory × String) :
    HoldSegments policy
      (Segments.ofEntries String.utf8ByteSize policy.logMaxFileBytes (writtenTo host log calls))
      (runAppends host calls noLogs log) := by
  induction calls using List.reverseRecOn with
  | nil =>
      intro index
      split <;> rfl
  | append_singleton calls call ih =>
      have hprevious := ih (fun earlier h => hpolicy earlier (List.mem_append_left _ h)) (by
        intro before earlier after hsplit log line hline
        exact hfresh before earlier (after ++ [call]) (by rw [hsplit, List.append_assoc]; rfl) log line hline)
      have hcall := hpolicy call (List.mem_append_right _ List.mem_cons_self)
      rw [runAppends_concat, writtenTo_concat]
      obtain ⟨line, hwritten, hlines, hafter⟩ | ⟨hlines, hafter, -⟩ :=
        append_cases host call (runAppends host calls noLogs) log
      · rw [hlines, hafter, Segments.ofEntries_concat, hcall]
        have hkept := hfresh calls call [] rfl log line hwritten
        rw [hcall] at hkept
        exact hprevious.appendLine hkept
      · rw [hlines, hafter, List.append_nil]
        exact hprevious

theorem nothingExpires_of_days {calls : List AppendCall}
    (hdays : ∀ call ∈ calls, call.policy.logRetentionDays = 0) : NothingExpires host calls := by
  intro before call after hcalls log line hwritten index hlow hhigh file hfile hexpires
  exact hexpires.1 (hdays call (by rw [hcalls]; exact List.mem_append_right _ List.mem_cons_self))

/-- With one policy, the files are the newest segments of the log in their order, each within the size of the
policy or with a single line in it. -/
theorem files_are_newest_segments (host : Host Directory) {policy : LogPolicy} {calls : List AppendCall}
    (hpolicy : ∀ call ∈ calls, call.policy = policy) (hfresh : NothingExpires host calls)
    (log : Directory × String) :
    let lines := writtenTo host log calls
    let segments := Segments.ofEntries String.utf8ByteSize policy.logMaxFileBytes lines
    segments.reverse.flatten = lines ∧
      (∀ index, (runAppends host calls noLogs log index).map LogFile.text
        = if index ≤ policy.logRetentionFiles then segments[index]?.map concat else none) ∧
      ∀ index file, runAppends host calls noLogs log index = some file →
        file.text.utf8ByteSize ≤ policy.logMaxFileBytes ∨ ∃ line ∈ lines, file.text = line := by
  intro lines segments
  have hhold := runAppends_holdSegments hpolicy hfresh log
  have hflatten : segments.reverse.flatten = lines := Segments.flatten_ofEntries _ _ lines
  refine ⟨hflatten, hhold, ?_⟩
  intro index file hfile
  have htext := hhold index
  rw [hfile] at htext
  by_cases hkept : index ≤ policy.logRetentionFiles
  · rw [if_pos hkept] at htext
    obtain ⟨segment, hsegment, hconcat⟩ := Option.map_eq_some_iff.mp htext.symm
    have hmem : segment ∈ segments := List.mem_of_getElem? hsegment
    obtain hsmall | hsingle := Segments.fits_ofEntries String.utf8ByteSize policy.logMaxFileBytes lines
      segment hmem
    · left
      rw [← hconcat, utf8ByteSize_concat]
      exact hsmall
    · right
      obtain ⟨line, rfl⟩ := List.length_eq_one_iff.mp hsingle
      refine ⟨line, ?_, ?_⟩
      · rw [← hflatten, List.mem_flatten]
        exact ⟨[line], List.mem_reverse.mpr hmem, List.mem_cons_self⟩
      · rw [← hconcat]
        exact String.append_empty
  · rw [if_neg hkept] at htext
    cases htext

/-- A server that starts again and again, under a policy that keeps its logs forever. -/
def serverStart (maxFileBytes retentionFiles : Nat) : AppendCall where
  policy :=
    { logMaxFileBytes := maxFileBytes
      logRetentionFiles := retentionFiles
      logRetentionDays := 0 }
  fileName := "lightai-server.log"
  level := "info"
  message := "server started"
  now := 0

def serverLog : String × String := ("logs", "lightai-server.log")

theorem files_are_newest_segments_example :
    let calls := List.replicate 5 (serverStart 100 2)
    let lines := writtenTo plainHost serverLog calls
    let segments := Segments.ofEntries String.utf8ByteSize 100 lines
    segments.reverse.flatten = lines ∧
      (∀ index, (runAppends plainHost calls noLogs serverLog index).map LogFile.text
        = if index ≤ 2 then segments[index]?.map concat else none) ∧
      ∀ index file, runAppends plainHost calls noLogs serverLog index = some file →
        file.text.utf8ByteSize ≤ 100 ∨ ∃ line ∈ lines, file.text = line := by
  have hpolicy : ∀ call ∈ List.replicate 5 (serverStart 100 2), call.policy = (serverStart 100 2).policy :=
    fun call h => congrArg AppendCall.policy (List.eq_of_mem_replicate h)
  have hdays : ∀ call ∈ List.replicate 5 (serverStart 100 2), call.policy.logRetentionDays = 0 :=
    fun call h => by rw [hpolicy call h]; rfl
  exact files_are_newest_segments plainHost hpolicy (nothingExpires_of_days hdays) serverLog

/-! ### Policies that change -/

/-- A call after some others that finds the current file of its log too large for its line. -/
def Rotates (host : Host Directory) (before : List AppendCall) (call : AppendCall) (log : Directory × String)
    (line : String) : Prop :=
  written host call = .ok (some (log, line)) ∧
    needsRotation call.policy line.utf8ByteSize (runAppends host before noLogs log)

theorem rotateIfNeeded_beyond {policy : LogPolicy} {incoming index : Nat} {files : LogFiles}
    (hindex : policy.logRetentionFiles + 1 < index) :
    rotateIfNeeded policy incoming files index = files index := by
  by_cases hneeds : needsRotation policy incoming files
  · rw [rotateIfNeeded_of_needs hneeds, rotated_beyond hindex]
  · rw [rotateIfNeeded_of_not hneeds]

theorem appendLine_excess {policy : LogPolicy} {now index : Nat} {line : String} {files : LogFiles}
    (hlow : policy.logRetentionFiles < index) (hhigh : index ≤ policy.logRetentionFiles + 20) :
    appendLine policy now line files index = none := cleanupRetention_excess hlow hhigh

theorem appendLine_beyond {policy : LogPolicy} {now index : Nat} {line : String} {files : LogFiles}
    (hindex : policy.logRetentionFiles + 20 < index) :
    appendLine policy now line files index = files index := by
  unfold appendLine
  rw [cleanupRetention_beyond hindex, writeEntry_rotated (by omega), rotateIfNeeded_beyond (by omega)]

theorem runAppends_of_written {before : List AppendCall} {call : AppendCall} {log : Directory × String}
    {line : String} (hwritten : written host call = .ok (some (log, line))) :
    runAppends host (before ++ [call]) noLogs log
      = appendLine call.policy call.now line (runAppends host before noLogs log) := by
  rw [runAppends_concat]
  unfold append
  rw [hwritten]
  exact Function.update_self _ _ _

/-- A number is in use only where some policy so far has retained that many files. -/
theorem retained_of_file {calls : List AppendCall} {log : Directory × String} {index : Nat}
    (hfile : runAppends host calls noLogs log index ≠ none) :
    ∃ call ∈ calls, index ≤ call.policy.logRetentionFiles := by
  induction calls using List.reverseRecOn with
  | nil => exact absurd rfl hfile
  | append_singleton calls call ih =>
      have hearlier (h : runAppends host calls noLogs log index ≠ none) :
          ∃ call' ∈ calls ++ [call], index ≤ call'.policy.logRetentionFiles := by
        obtain ⟨earlier, hmem, hindex⟩ := ih h
        exact ⟨earlier, List.mem_append_left _ hmem, hindex⟩
      rw [runAppends_concat] at hfile
      obtain ⟨line, -, -, hafter⟩ | ⟨-, hafter, -⟩ :=
        append_cases host call (runAppends host calls noLogs) log
      · rw [hafter] at hfile
        by_cases hkept : index ≤ call.policy.logRetentionFiles
        · exact ⟨call, List.mem_append_right _ List.mem_cons_self, hkept⟩
        by_cases hnear : index ≤ call.policy.logRetentionFiles + 20
        · exact absurd (appendLine_excess (by omega) hnear) hfile
        · rw [appendLine_beyond (by omega)] at hfile
          exact hearlier hfile
      · rw [hafter] at hfile
        exact hearlier hfile

/-- After each rotation nothing lies beyond the retention if and only if before each one nothing lies more than
twenty numbers beyond it. This is so as long as no policy retains over twenty files fewer than one before it. -/
theorem retention_iff (host : Host Directory) (calls : List AppendCall) :
    ((∀ before call after log line, calls = before ++ call :: after → Rotates host before call log line →
        ∀ index, call.policy.logRetentionFiles < index →
          runAppends host (before ++ [call]) noLogs log index = none) ↔
      ∀ before call after log line, calls = before ++ call :: after → Rotates host before call log line →
        ∀ index, call.policy.logRetentionFiles + 20 < index →
          runAppends host before noLogs log index = none) ∧
    ((∀ before call after, calls = before ++ call :: after → ∀ earlier ∈ before,
        earlier.policy.logRetentionFiles ≤ call.policy.logRetentionFiles + 20) →
      ∀ before call after log line, calls = before ++ call :: after → Rotates host before call log line →
        ∀ index, call.policy.logRetentionFiles + 20 < index →
          runAppends host before noLogs log index = none) := by
  refine ⟨⟨?_, ?_⟩, ?_⟩
  · intro hretained before call after log line hcalls hrotates index hindex
    have hafter := hretained before call after log line hcalls hrotates index (by omega)
    rw [runAppends_of_written hrotates.1, appendLine_beyond hindex] at hafter
    exact hafter
  · intro hclear before call after log line hcalls hrotates index hindex
    rw [runAppends_of_written hrotates.1]
    by_cases hnear : index ≤ call.policy.logRetentionFiles + 20
    · exact appendLine_excess hindex hnear
    · rw [appendLine_beyond (by omega)]
      exact hclear before call after log line hcalls hrotates index (by omega)
  · intro hsteady before call after log line hcalls hrotates index hindex
    by_contra hfile
    obtain ⟨earlier, hmem, hkept⟩ := retained_of_file hfile
    have hbound := hsteady before call after hcalls earlier hmem
    omega

end Runs

def startLine : String := entry "1970-01-01T00:00:00Z" "info" "server started"

theorem one_lt_startLine : 1 < startLine.utf8ByteSize := by
  have hbracket : " [".utf8ByteSize = 2 := by decide
  unfold startLine entry
  simp only [String.utf8ByteSize_append]
  omega

/-- Where 22 files were retained of a log that rotated with every line, the last of them is still there after
the policy has come to retain one. -/
theorem shrunk_retention_leaves_file :
    let before := List.replicate 23 (serverStart 1 22)
    let call := serverStart 1 1
    Rotates plainHost before call serverLog startLine ∧
      runAppends plainHost (before ++ [call]) noLogs serverLog 22 ≠ none := by
  intro before call
  have hfirst : written plainHost (serverStart 1 22) = .ok (some (serverLog, startLine)) := rfl
  have hlast : written plainHost (serverStart 1 1) = .ok (some (serverLog, startLine)) := rfl
  have hpolicy : ∀ earlier ∈ before, earlier.policy = (serverStart 1 22).policy :=
    fun earlier h => congrArg AppendCall.policy (List.eq_of_mem_replicate h)
  have hdays : ∀ earlier ∈ before, earlier.policy.logRetentionDays = 0 :=
    fun earlier h => by rw [hpolicy earlier h]; rfl
  have hlines : writtenTo plainHost serverLog before = List.replicate 23 startLine := by
    have hone : linesTo plainHost serverLog (serverStart 1 22) = [startLine] := by
      unfold linesTo
      rw [hfirst]
      exact if_pos rfl
    unfold writtenTo
    simp [before, hone]
  have hlarge := one_lt_startLine
  have hsegments : Segments.ofEntries String.utf8ByteSize 1 (List.replicate 23 startLine)
      = List.replicate 23 [startLine] := by
    rw [Segments.ofEntries_of_large String.utf8ByteSize 1 fun line h => by
      rw [List.eq_of_mem_replicate h]; exact hlarge]
    rfl
  have hfresh : NothingExpires plainHost before := nothingExpires_of_days hdays
  have hhold := runAppends_holdSegments hpolicy hfresh serverLog
  rw [hlines] at hhold
  have hrotates : Rotates plainHost before call serverLog startLine := by
    refine ⟨hlast, ?_⟩
    have hsize := hhold.currentSize_eq
    unfold needsRotation
    change 1 < _
    omega
  refine ⟨hrotates, ?_⟩
  have hfile := hhold 22
  rw [runAppends_of_written hlast, appendLine_beyond (by decide)]
  intro hnone
  rw [hnone] at hfile
  change none = if 22 ≤ 22 then (Segments.ofEntries String.utf8ByteSize 1 _)[22]?.map concat else none at hfile
  rw [hsegments] at hfile
  cases hfile

end LightAI.Log
