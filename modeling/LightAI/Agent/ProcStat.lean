import LightAI.Base.LastMarker
import LightAI.Base.Words
import LightAI.Agent.Reports

/-!
# The line of a process

The kernel writes the name of the command into the line between parentheses. The name is any text: it may hold
spaces and parentheses, and even what closes it. The fields behind it hold neither, so that the last
parenthesis of the line is the one that closes the name.
-/

namespace LightAI.Agent

/-- A field of the line behind the name of the command. -/
structure StatField where
  text : String
  isWord : Text.IsWord text
  closing_notMem : ')' ∉ text.toList

/-- What the kernel writes into `/proc/{pid}/stat`. The state of the process is field 3, the first behind the
name of the command. -/
structure ProcStat where
  pid : Nat
  comm : String
  fields : List StatField
  complete : 20 ≤ fields.length
  ending : String
  blank : Text.isBlank ending = true

namespace ProcStat

variable (stat : ProcStat)

/-- The fields as they stand in the line. -/
def rest : String := " ".intercalate (stat.fields.map (·.text)) ++ stat.ending

def line : String := toString stat.pid ++ " (" ++ stat.comm ++ ") " ++ stat.rest

/-- Field 22, the start time of the process. -/
def startField : StatField := stat.fields.get ⟨19, stat.complete⟩

theorem closing_notMem_rest : ')' ∉ stat.rest.toList := by
  intro hmem
  unfold rest at hmem
  rw [String.toList_append, List.mem_append] at hmem
  obtain hfields | hending := hmem
  · rw [String.toList_intercalate] at hfields
    have hinfix : [')'] <:+: [' '].intercalate ((stat.fields.map (·.text)).map String.toList) :=
      (List.singleton_infix_iff _ _).mpr hfields
    obtain ⟨piece, hpiece, hpart⟩ := Text.infix_intercalate (by decide) (List.cons_ne_nil _ _) hinfix
    rw [List.map_map] at hpiece
    obtain ⟨field, -, rfl⟩ := List.mem_map.mp hpiece
    exact field.closing_notMem ((List.singleton_infix_iff _ _).mp hpart)
  · have hspace := List.all_eq_true.mp stat.blank ')' hending
    exact absurd hspace (by decide)

theorem afterLast_line : Text.afterLast ") " stat.line = some stat.rest :=
  Text.afterLast_append rfl (by decide) stat.closing_notMem_rest _

theorem splitWhitespace_rest : Text.splitWhitespace stat.rest = stat.fields.map (·.text) := by
  apply Text.splitWhitespace_words ?_ stat.blank
  intro word hword
  obtain ⟨field, -, rfl⟩ := List.mem_map.mp hword
  exact field.isWord

/-- Field 22 is read, whatever the name of the command is. -/
theorem parseLinuxStatStartTime_line :
    parseLinuxStatStartTime stat.line = Text.parseU64 stat.startField.text := by
  have hfield : (stat.fields.map (·.text))[19]? = some stat.startField.text := by
    rw [List.getElem?_map, List.getElem?_eq_getElem stat.complete]
    rfl
  unfold parseLinuxStatStartTime
  rw [stat.afterLast_line, Option.bind_eq_bind, Option.bind_some, stat.splitWhitespace_rest, hfield]
  rfl

end ProcStat

/-- For every name of the command and every list of fields behind it, the start time that is read off the line
is field 22, and this is what a check compares with the start time of the record. -/
theorem start_time_found (stat : ProcStat) :
    parseLinuxStatStartTime stat.line = Text.parseU64 stat.startField.text ∧
      (∀ startTime, startTime < 2 ^ 64 → stat.startField.text = toString startTime →
        parseLinuxStatStartTime stat.line = some startTime) ∧
      ∀ (deps : External) (env : Nat → Moment) (w : World) (record : ManagedProcessRecord),
        record.isDocker = false → (env w.now).answer (.readStat record.processId) = some stat.line →
        ((run env (checkRecord deps record) w).1.isRunning = true ↔
          ∃ startTime, Text.parseU64 stat.startField.text = some startTime ∧
            ∀ expected, record.processStartTime = some expected → startTime = expected) := by
  have hparse := stat.parseLinuxStatStartTime_line
  refine ⟨hparse, ?_, ?_⟩
  · intro startTime hfits hfield
    rw [hparse, hfield]
    exact Text.parseU64_toString hfits
  · intro deps env w record hlocal hanswer
    rw [run_checkRecord, check_isRunning_iff]
    unfold Moment.shows
    rw [hlocal, if_neg Bool.false_ne_true, hanswer]
    constructor
    · rintro ⟨line, startTime, hline, hread, hexpected⟩
      rw [← Option.some.inj hline, hparse] at hread
      exact ⟨startTime, hread, hexpected⟩
    · rintro ⟨startTime, hread, hexpected⟩
      exact ⟨stat.line, startTime, rfl, hparse.trans hread, hexpected⟩

/-- The name of the command is itself like the end of a line. -/
example : parseLinuxStatStartTime
    "7 (sh) S 1 2 (x) ) S 1 2 3 4 5 6 7 8 9 10 11 12 13 14 15 16 17 18 987654 20\n" = some 987654 := by
  decide +kernel

end LightAI.Agent
