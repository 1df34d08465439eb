import LightAI.Log.PlatformLog

/-!
# No marker in the platform log

An entry mentions no marker of a secret, whatever its message: the message is redacted line by line, and what
stands before it is separated from it by a bracket. A file consists of such entries, each of which ends its
line, and rotation only moves files. What is read of a file is redacted once more, so the cut at the beginning
does not matter.
-/

namespace LightAI.Log

open Server (LogPolicy)

/-! ### An entry -/

def IsDateChar (c : Char) : Prop := c.isDigit = true ∨ c ∈ ['-', 'T', ':', 'Z']

def IsDateText (text : String) : Prop := ∀ c ∈ text.toList, IsDateChar c

theorem IsDateText.append {left right : String} (hleft : IsDateText left) (hright : IsDateText right) :
    IsDateText (left ++ right) := by
  intro c hc
  rw [String.toList_append, List.mem_append] at hc
  exact hc.elim (hleft c) (hright c)

theorem isDateText_sign {sign : Char} (hsign : sign ∈ ['-', 'T', ':', 'Z']) :
    IsDateText (String.ofList [sign]) := by
  intro c hc
  rw [String.toList_ofList, List.mem_singleton] at hc
  rw [hc]
  exact Or.inr hsign

theorem isDateText_padded (width value : Nat) : IsDateText (padded width value) := by
  intro c hc
  unfold padded at hc
  rw [String.toList_ofList, List.leftpad, List.mem_append] at hc
  left
  obtain hzero | hdigit := hc
  · rw [List.eq_of_mem_replicate hzero]
    rfl
  · rw [Nat.toString_eq_repr, Nat.toList_repr] at hdigit
    exact Nat.isDigit_of_mem_toDigits (by decide) (by decide) hdigit

theorem isDateText_paddedInt (width : Nat) (value : Int) : IsDateText (paddedInt width value) := by
  unfold paddedInt
  split
  · exact (isDateText_sign (by decide : '-' ∈ _)).append (isDateText_padded _ _)
  · exact isDateText_padded _ _

theorem isDateText_formatTimestamp {secs : Nat} {timestamp : String}
    (htimestamp : formatTimestamp secs = some timestamp) : IsDateText timestamp := by
  unfold formatTimestamp at htimestamp
  dsimp only at htimestamp
  have hdash := isDateText_sign (by decide : '-' ∈ ['-', 'T', ':', 'Z'])
  have hletter := isDateText_sign (by decide : 'T' ∈ ['-', 'T', ':', 'Z'])
  have hcolon := isDateText_sign (by decide : ':' ∈ ['-', 'T', ':', 'Z'])
  have hzone := isDateText_sign (by decide : 'Z' ∈ ['-', 'T', ':', 'Z'])
  cases hcivil : civilFromDays (secs / 86400) with
  | none =>
      rw [hcivil] at htimestamp
      cases htimestamp
  | some civil =>
      obtain ⟨year, month, day⟩ := civil
      rw [hcivil] at htimestamp
      rw [← Option.some.inj htimestamp]
      have hdate := (((isDateText_paddedInt 4 year).append hdash).append
        (isDateText_padded 2 month)).append hdash
      have hday := (hdate.append (isDateText_padded 2 day)).append hletter
      have hhours := (hday.append (isDateText_padded 2 (secs % 86400 / 3600))).append hcolon
      have hminutes := (hhours.append (isDateText_padded 2 (secs % 86400 % 3600 / 60))).append hcolon
      exact (hminutes.append (isDateText_padded 2 (secs % 86400 % 60))).append hzone

theorem isDigit_iff {c : Char} : c.isDigit = true ↔ 48 ≤ c.val.toNat ∧ c.val.toNat ≤ 57 := by
  unfold Char.isDigit
  rw [Bool.and_eq_true, decide_eq_true_iff, decide_eq_true_iff, ge_iff_le, UInt32.le_iff_toNat_le,
    UInt32.le_iff_toNat_le]
  rfl

theorem toLower_of_isDigit {c : Char} (hdigit : c.isDigit = true) : c.toLower = c := by
  have hrange := isDigit_iff.mp hdigit
  unfold Char.toLower
  rw [dif_neg]
  rintro ⟨hlow, -⟩
  have hlow' : 65 ≤ c.val.toNat := UInt32.le_iff_toNat_le.mp hlow
  omega

/-- Every marker has a letter that no timestamp has. -/
theorem not_mentions_timestamp {timestamp : String} (htimestamp : IsDateText timestamp) :
    ¬ platformRedactor.Mentions (timestamp.toList ++ [' ']) := by
  rintro ⟨needle, hneedle, hinfix⟩
  have hletters : ∀ needle ∈ platformRedactor.needles,
      needle.toList.any (fun letter => 59 ≤ letter.val.toNat && letter ≠ 't' && letter ≠ 'z') = true := by
    decide
  obtain ⟨letter, hin, hletter⟩ := List.any_eq_true.mp (hletters needle hneedle)
  have hlowered := hinfix.subset hin
  obtain ⟨c, hc, hlower⟩ := List.mem_map.mp hlowered
  rw [← hlower] at hletter
  rw [List.mem_append, List.mem_singleton] at hc
  obtain hc | hspace := hc
  · obtain hdigit | hsign := htimestamp c hc
    · have hrange := isDigit_iff.mp hdigit
      rw [toLower_of_isDigit hdigit, Bool.and_eq_true, Bool.and_eq_true, decide_eq_true_iff] at hletter
      omega
    · have hsigns : ['-', 'T', ':', 'Z'].all (fun sign => !(59 ≤ sign.toLower.val.toNat &&
          sign.toLower ≠ 't' && sign.toLower ≠ 'z')) = true := by decide
      have hnot := List.all_eq_true.mp hsigns c hsign
      rw [hletter] at hnot
      cases hnot
  · rw [hspace] at hletter
    exact absurd hletter (by decide)

def levels : List String := ["error", "warn", "info", "debug", "trace"]

theorem not_mentions_level {level : String} (hlevel : level ∈ levels) :
    ¬ platformRedactor.Mentions (toAsciiUppercase level).toList := by
  have hchars : (toAsciiUppercase level).toList = level.toList.map Char.toUpper := String.toList_map
  rw [hchars]
  have hall : ∀ level ∈ levels, ∀ needle ∈ platformRedactor.needles,
      ¬ needle.toList <:+: (level.toList.map Char.toUpper).map Char.toLower := by decide
  rintro ⟨needle, hneedle, hinfix⟩
  exact hall level hlevel needle hneedle hinfix

/-- An entry mentions no marker: neither before the bracket nor in the level nor in what is left of the
message, and no marker reaches over the brackets. -/
theorem not_mentions_entry {secs : Nat} {timestamp level : String}
    (htimestamp : formatTimestamp secs = some timestamp) (hlevel : level ∈ levels) (message : String) :
    ¬ platformRedactor.Mentions (entry timestamp level message).toList := by
  have hopen : ∀ needle ∈ platformRedactor.needles, '['.toLower ∉ needle.toList := by decide
  have hclose : ∀ needle ∈ platformRedactor.needles, ']'.toLower ∉ needle.toList := by decide
  have hnewline : ∀ needle ∈ platformRedactor.needles, '\n'.toLower ∉ needle.toList := by decide
  have hspace : ∀ needle ∈ platformRedactor.needles, needle.toList.head? ≠ some ' ' := by decide
  have hentry : (entry timestamp level message).toList
      = (timestamp.toList ++ [' ']) ++ '[' :: ((toAsciiUppercase level).toList
        ++ ']' :: ((' ' :: (sanitize message).toList) ++ '\n' :: [])) := by
    unfold entry
    simp
  rw [hentry]
  intro hmentions
  obtain hbefore | hmentions := hmentions.of_append_cons hopen
  · exact not_mentions_timestamp (isDateText_formatTimestamp htimestamp) hbefore
  obtain hin | hmentions := hmentions.of_append_cons hclose
  · exact not_mentions_level hlevel hin
  obtain hmessage | hend := hmentions.of_append_cons hnewline
  · obtain ⟨needle, hneedle, hinfix⟩ := hmessage
    rw [List.map_cons] at hinfix
    obtain hprefix | hinfix := List.infix_cons_iff.mp hinfix
    · apply hspace needle hneedle
      cases hchars : needle.toList with
      | nil => exact absurd hchars (platformRedactor.needle_ne_empty needle hneedle)
      | cons first rest =>
          rw [hchars] at hprefix
          exact congrArg some (List.cons_prefix_cons.mp hprefix).1
    · exact Redactor.redact_clean message ⟨needle, hneedle, hinfix⟩
  · exact Redactor.not_mentions_nil hend

/-! ### Files -/

/-- A text without markers that ends its last line. -/
structure IsClean (text : String) : Prop where
  not_mentions : ¬ platformRedactor.Mentions text.toList
  ended : text.toList = [] ∨ ∃ front, text.toList = front ++ ['\n']

theorem IsClean.append {left right : String} (hleft : IsClean left) (hright : IsClean right) :
    IsClean (left ++ right) := by
  have hnewline : ∀ needle ∈ platformRedactor.needles, '\n'.toLower ∉ needle.toList := by decide
  obtain hempty | ⟨front, hfront⟩ := hleft.ended
  · have hsame : (left ++ right).toList = right.toList := by rw [String.toList_append, hempty, List.nil_append]
    exact ⟨hsame ▸ hright.not_mentions, hsame ▸ hright.ended⟩
  · have hjoined : (left ++ right).toList = front ++ '\n' :: right.toList := by
      rw [String.toList_append, hfront, List.append_assoc, List.singleton_append]
    refine ⟨?_, ?_⟩
    · rw [hjoined]
      intro hmentions
      obtain hbefore | hafter := hmentions.of_append_cons hnewline
      · apply hleft.not_mentions
        rw [hfront]
        exact hbefore.of_infix (List.prefix_append _ _).isInfix
      · exact hright.not_mentions hafter
    · right
      obtain hempty | ⟨last, hlast⟩ := hright.ended
      · exact ⟨front, by rw [hjoined, hempty]⟩
      · exact ⟨front ++ '\n' :: last, by rw [hjoined, hlast, List.append_assoc, List.cons_append]⟩

theorem isClean_empty : IsClean "" := ⟨Redactor.not_mentions_nil, Or.inl rfl⟩

theorem isClean_entry {secs : Nat} {timestamp level : String}
    (htimestamp : formatTimestamp secs = some timestamp) (hlevel : level ∈ levels) (message : String) :
    IsClean (entry timestamp level message) where
  not_mentions := not_mentions_entry htimestamp hlevel message
  ended := Or.inr ⟨_, String.toList_append⟩

/-- Every file of a log has a property. -/
def Everywhere (holds : String → Prop) (files : LogFiles) : Prop :=
  ∀ index file, files index = some file → holds file.text

section Everywhere

variable {holds : String → Prop} {files : LogFiles}

theorem Everywhere.update (hfiles : Everywhere holds files) (index : Nat) {file : Option LogFile}
    (hfile : ∀ content, file = some content → holds content.text) :
    Everywhere holds (Function.update files index file) := by
  intro other content hcontent
  by_cases hsame : other = index
  · rw [hsame, Function.update_self] at hcontent
    exact hfile content hcontent
  · rw [Function.update_of_ne hsame] at hcontent
    exact hfiles other content hcontent

theorem Everywhere.renameToNext (hfiles : Everywhere holds files) (index : Nat) :
    Everywhere holds (renameToNext index files) := by
  unfold Log.renameToNext
  cases hfile : files index with
  | none => exact hfiles
  | some file =>
      have hremoved : Everywhere holds (Function.update files index none) :=
        hfiles.update index fun content h => by cases h
      apply hremoved.update
      intro content hcontent
      rw [← Option.some.inj hcontent]
      exact hfiles index file hfile

theorem Everywhere.renameDown (hfiles : Everywhere holds files) (count : Nat) :
    Everywhere holds (renameDown count files) := by
  induction count generalizing files with
  | zero => exact hfiles
  | succ count ih => exact ih (hfiles.renameToNext (count + 1))

theorem Everywhere.rotateIfNeeded (hfiles : Everywhere holds files) (policy : LogPolicy) (incoming : Nat) :
    Everywhere holds (rotateIfNeeded policy incoming files) := by
  unfold Log.rotateIfNeeded
  split
  · exact (hfiles.renameDown _).renameToNext 0
  · exact hfiles

theorem Everywhere.foldl_remove (hfiles : Everywhere holds files) (indexes : List Nat) {remove : LogFiles → Nat → LogFiles}
    (hremove : ∀ {files}, Everywhere holds files → ∀ index, Everywhere holds (remove files index)) :
    Everywhere holds (indexes.foldl remove files) := by
  induction indexes generalizing files with
  | nil => exact hfiles
  | cons index indexes ih => exact ih (hremove hfiles index)

theorem Everywhere.removeFile (hfiles : Everywhere holds files) (index : Nat) :
    Everywhere holds (removeFile index files) := hfiles.update index fun content h => by cases h

theorem Everywhere.removeExpired (hfiles : Everywhere holds files) (policy : LogPolicy) (now index : Nat) :
    Everywhere holds (removeExpired policy now index files) := by
  unfold Log.removeExpired
  split
  · exact hfiles.removeFile index
  · exact hfiles

theorem Everywhere.cleanupRetention (hfiles : Everywhere holds files) (policy : LogPolicy) (now : Nat) :
    Everywhere holds (cleanupRetention policy now files) := by
  have hremoved := hfiles.foldl_remove (List.range' (policy.logRetentionFiles + 1) 20)
    fun hfiles index => hfiles.removeFile index
  unfold Log.cleanupRetention
  dsimp only
  split
  · exact hremoved
  · exact hremoved.foldl_remove _ fun hfiles index => hfiles.removeExpired policy now index

end Everywhere

theorem appendLine_clean {files : LogFiles} (hfiles : Everywhere IsClean files) {line : String}
    (hline : IsClean line) (policy : LogPolicy) (now : Nat) :
    Everywhere IsClean (appendLine policy now line files) := by
  unfold appendLine
  have hrotated := hfiles.rotateIfNeeded policy line.utf8ByteSize
  generalize rotateIfNeeded policy line.utf8ByteSize files = rotated at hrotated ⊢
  apply Everywhere.cleanupRetention
  apply hrotated.update
  intro content hcontent
  rw [← Option.some.inj hcontent]
  cases hcurrent : rotated 0 with
  | none => exact isClean_empty.append hline
  | some file => exact (hrotated 0 file hcurrent).append hline

/-! ### Runs -/

variable {Directory : Type}

theorem of_written {host : Host Directory} {call : AppendCall} {log : Directory × String} {line : String}
    (hwritten : written host call = .ok (some (log, line))) :
    levelEnabled call.policy.logLevel call.level = true ∧
      openLog host call.policy call.fileName = .ok log ∧
      ∃ timestamp, formatTimestamp (call.now / 10 ^ 9) = some timestamp ∧
        line = entry timestamp call.level call.message := by
  unfold written at hwritten
  by_cases henabled : levelEnabled call.policy.logLevel call.level = true
  · rw [if_pos henabled] at hwritten
    cases hopen : openLog host call.policy call.fileName with
    | error message =>
        rw [hopen] at hwritten
        cases hwritten
    | ok opened =>
        rw [hopen] at hwritten
        cases htimestamp : formatTimestamp (call.now / 10 ^ 9) with
        | none =>
            rw [htimestamp] at hwritten
            cases hwritten
        | some timestamp =>
            rw [htimestamp] at hwritten
            cases hwritten
            exact ⟨henabled, rfl, timestamp, rfl, rfl⟩
  · rw [if_neg henabled] at hwritten
    cases hwritten

theorem readTail_clean {host : Host Directory} {policy : LogPolicy} {fileName : String} {maxBytes : Nat}
    {logs : Logs Directory} {text : String}
    (hread : readTail host policy fileName maxBytes logs = .ok text) :
    ¬ platformRedactor.Mentions text.toList := by
  unfold readTail at hread
  cases hopen : openLog host policy fileName with
  | error message =>
      rw [hopen] at hread
      cases hread
  | ok log =>
      rw [hopen] at hread
      have htext : sanitize _ = text := Except.ok.inj hread
      rw [← htext]
      exact Redactor.redact_clean _

theorem readTailExisting_clean {host : Host Directory} {policy : LogPolicy} {fileName : String}
    {maxBytes : Nat} {logs : Logs Directory} {text : String}
    (hread : readTailExisting host policy fileName maxBytes logs = .ok text) :
    ¬ platformRedactor.Mentions text.toList := by
  unfold readTailExisting at hread
  cases hopen : openLog host policy fileName with
  | error message =>
      rw [hopen] at hread
      cases hread
  | ok log =>
      rw [hopen] at hread
      dsimp only [bind, Except.bind] at hread
      cases hfile : logs log 0 with
      | none =>
          rw [hfile] at hread
          cases hread
      | some file =>
          rw [hfile] at hread
          have htext : sanitize _ = text := Except.ok.inj hread
          rw [← htext]
          exact Redactor.redact_clean _

variable [DecidableEq Directory]

theorem append_clean {host : Host Directory} {call : AppendCall} (hlevel : call.level ∈ levels)
    {logs : Logs Directory} (hlogs : ∀ log, Everywhere IsClean (logs log)) :
    ∀ log, Everywhere IsClean ((append host call logs).2 log) := by
  intro log
  unfold append
  cases hwritten : written host call with
  | error message => exact hlogs log
  | ok outcome =>
      cases outcome with
      | none => exact hlogs log
      | some target =>
          obtain ⟨opened, line⟩ := target
          obtain ⟨-, -, timestamp, htimestamp, rfl⟩ := of_written hwritten
          dsimp only
          by_cases hsame : log = opened
          · rw [hsame, Function.update_self]
            exact appendLine_clean (hlogs opened) (isClean_entry htimestamp hlevel call.message) _ _
          · rw [Function.update_of_ne hsame]
            exact hlogs log

theorem runAppends_clean {host : Host Directory} {calls : List AppendCall}
    (hlevels : ∀ call ∈ calls, call.level ∈ levels) {logs : Logs Directory}
    (hlogs : ∀ log, Everywhere IsClean (logs log)) :
    ∀ log, Everywhere IsClean (runAppends host calls logs log) := by
  induction calls generalizing logs with
  | nil => exact hlogs
  | cons call calls ih =>
      have hcall : ∀ log, Everywhere IsClean ((append host call logs).2 log) :=
        append_clean (hlevels call List.mem_cons_self) hlogs
      exact ih (fun later hlater => hlevels later (List.mem_cons_of_mem _ hlater)) hcall

/-- A line holds a marker, in some letter case. -/
def HoldsMarker (line : String) : Prop :=
  ∃ needle ∈ platformRedactor.needles, ∃ part, Text.toAsciiLowercase part = needle ∧
    Text.contains line part = true

theorem not_holdsMarker {text line : String} (htext : ¬ platformRedactor.Mentions text.toList)
    (hline : line ∈ Text.lines text) : ¬ HoldsMarker line := by
  rintro ⟨needle, hneedle, part, hlower, hcontains⟩
  apply htext
  have hpart : part.toList <:+: text.toList :=
    (Text.contains_iff.mp hcontains).trans (Text.infix_of_mem_lines hline)
  refine ⟨needle, hneedle, ?_⟩
  rw [← hlower, Text.toList_toAsciiLowercase]
  exact hpart.map Char.toLower

/-- However the logs came about, no line of a file and no line that is read holds a marker. -/
theorem no_line_holdsMarker (host : Host Directory) (calls : List AppendCall)
    (hlevels : ∀ call ∈ calls, call.level ∈ levels) :
    (∀ log index file, runAppends host calls noLogs log index = some file →
      ∀ line ∈ Text.lines file.text, ¬ HoldsMarker line) ∧
    ∀ policy fileName maxBytes text,
      (readTail host policy fileName maxBytes (runAppends host calls noLogs) = .ok text ∨
        readTailExisting host policy fileName maxBytes (runAppends host calls noLogs) = .ok text) →
      ∀ line ∈ Text.lines text, ¬ HoldsMarker line := by
  have hnone : ∀ log : Directory × String, Everywhere IsClean (noLogs log) :=
    fun log index file hfile => by cases hfile
  refine ⟨?_, ?_⟩
  · intro log index file hfile line hline
    have hclean : IsClean file.text := runAppends_clean hlevels hnone log index file hfile
    exact not_holdsMarker hclean.not_mentions hline
  · intro policy fileName maxBytes text hread line hline
    obtain hread | hread := hread
    · exact not_holdsMarker (readTail_clean hread) hline
    · exact not_holdsMarker (readTailExisting_clean hread) hline

/-- The server's host where every directory can be prepared. -/
def plainHost : Host String := ⟨serverManaged, .ok⟩

theorem no_line_holdsMarker_example :
    let call : AppendCall :=
      { policy := {}
        fileName := "lightai-server.log"
        level := "error"
        message := "login failed\nPassword: hunter2"
        now := 0 }
    ∀ log index file, runAppends plainHost [call, call] noLogs log index = some file →
      ∀ line ∈ Text.lines file.text, ¬ HoldsMarker line :=
  (no_line_holdsMarker plainHost _ (by decide)).1

end LightAI.Log
