import LightAI.Agent.Scripts
import LightAI.Base.FirstOfEach

/-!
# The rows that an output is made of

Every `STATUS` row has to be well-formed, and the last one counts. Of the rows of the devices the first of
each key counts. A metric row that lacks its health status is skipped, but only after its key has been
remembered, so that it takes the place of the rows that come after it.
-/

namespace LightAI.Collectors

open Keyed
open Nodes (GpuMetrics)

/-! ### The rows -/

def isStatus (cols : List String) : Bool := cols.head? = some "STATUS"

/-- A `STATUS` row of six columns, with the schema and one of the statuses that are known. -/
def WellFormedStatus (cols : List String) : Prop :=
  cols.length = 6 ∧ cols[1]? = some "1" ∧ ((cols[2]?).bind CollectorStatus.parse).isSome = true

instance (cols : List String) : Decidable (WellFormedStatus cols) := by
  unfold WellFormedStatus
  infer_instance

theorem statusRow_isOk_iff (cols : List String) :
    (∃ header, statusRow cols = .ok header) ↔ WellFormedStatus cols := by
  constructor
  · rintro ⟨header, hrow⟩
    have hstatus := statusRow_ok hrow
    unfold statusRow at hrow
    split at hrow
    · rename_i first schema status vendor collector message
      by_cases hschema : schema ≠ "1"
      · rw [if_pos hschema] at hrow
        cases hrow
      · refine ⟨rfl, congrArg some (not_not.mp hschema), ?_⟩
        rw [hstatus]
        rfl
    · cases hrow
  · rintro ⟨hlength, hschema, hstatus⟩
    match cols, hlength with
    | [first, schema, status, vendor, collector, message], _ =>
        obtain ⟨parsed, hparsed⟩ := Option.isSome_iff_exists.mp hstatus
        have hone : schema = "1" := Option.some.inj hschema
        have hknown : CollectorStatus.parse status = some parsed := hparsed
        refine ⟨⟨parsed, emptyToOpt vendor, emptyToOpt collector, emptyToOpt message⟩, ?_⟩
        simp only [statusRow, hone, hknown, ne_eq, not_true_eq_false, if_false]

section Reading

variable {Row : Type} {record : String} {entry : List String → Option (String × Option Row)}

/-- What a row is to the reading of this kind of row. -/
def counted (record : String) (entry : List String → Option (String × Option Row)) (cols : List String) :
    Option (String × Option Row) :=
  if cols.head? = some record then entry cols else none

/-- What the rows come to, all their `STATUS` rows being well-formed. -/
def tableOf (record : String) (entry : List String → Option (String × Option Row))
    (lines : List (List String)) : Table Row where
  header := (lines.filter isStatus).getLast?.bind fun cols => (statusRow cols).toOption
  entries := (firstOfEach Prod.fst (lines.filterMap (counted record entry))).filterMap Prod.snd
  seenKeys := ((firstOfEach Prod.fst (lines.filterMap (counted record entry))).map Prod.fst).reverse

theorem tableOf_concat_uncounted {lines : List (List String)} {cols : List String}
    (hstatus : isStatus cols = false) (hnone : counted record entry cols = none) :
    tableOf record entry (lines ++ [cols]) = tableOf record entry lines := by
  unfold tableOf
  rw [List.filter_append, List.filterMap_append, List.filter_cons_of_neg (by rw [hstatus]; decide),
    List.filterMap_cons_none hnone]
  simp

theorem read_tableOf (hrecord : record ≠ "STATUS") {lines : List (List String)} {cols : List String}
    (hcols : isStatus cols = true → WellFormedStatus cols) :
    (tableOf record entry lines).read record entry cols
      = .ok (tableOf record entry (lines ++ [cols])) := by
  unfold Table.read
  by_cases hstatus : cols.head? = some "STATUS"
  · have hcounts : isStatus cols = true := decide_eq_true hstatus
    obtain ⟨header, hrow⟩ := (statusRow_isOk_iff cols).mpr (hcols hcounts)
    have hnone : counted record entry cols = none := by
      unfold counted
      rw [hstatus, if_neg]
      exact fun heq => hrecord (Option.some.inj heq).symm
    rw [if_pos hstatus, hrow]
    unfold tableOf
    rw [List.filter_append, List.filterMap_append, List.filter_cons_of_pos hcounts,
      List.filterMap_cons_none hnone]
    simp [hrow, Except.toOption]
  · have hother : isStatus cols = false := decide_eq_false hstatus
    rw [if_neg hstatus]
    by_cases hkind : cols.head? = some record
    · rw [if_pos hkind]
      have hcounted : counted record entry cols = entry cols := if_pos hkind
      cases hentry : entry cols with
      | none => rw [tableOf_concat_uncounted hother (hcounted.trans hentry)]
      | some found =>
          obtain ⟨key, row⟩ := found
          have hsome : [cols].filterMap (counted record entry) = [(key, row)] :=
            List.filterMap_cons_some (hcounted.trans hentry)
          have hseen : key ∈ (tableOf record entry lines).seenKeys ↔
              key ∈ (lines.filterMap (counted record entry)).map Prod.fst := by
            unfold tableOf
            rw [List.mem_reverse, mem_keys_firstOfEach]
          have hnext := firstOfEach_concat Prod.fst
            (lines.filterMap (counted record entry)) (key, row)
          have hheader : (lines ++ [cols]).filter isStatus = lines.filter isStatus := by
            rw [List.filter_append, List.filter_cons_of_neg (by rw [hother]; decide)]
            exact List.append_nil _
          dsimp only
          by_cases hmem : key ∈ (tableOf record entry lines).seenKeys
          · rw [if_pos hmem]
            rw [if_pos (hseen.mp hmem), List.append_nil] at hnext
            unfold tableOf
            rw [hheader, List.filterMap_append, hsome, hnext]
          · rw [if_neg hmem]
            rw [if_neg (fun h => hmem (hseen.mpr h))] at hnext
            unfold tableOf
            rw [hheader, List.filterMap_append, hsome, hnext]
            cases row <;> simp
    · rw [if_neg hkind, tableOf_concat_uncounted hother (if_neg hkind)]

/-- Rows whose `STATUS` rows are well-formed are read to their end. -/
theorem readAll_of_wellFormed (hrecord : record ≠ "STATUS") {lines : List (List String)}
    (hlines : ∀ cols ∈ lines, isStatus cols = true → WellFormedStatus cols) :
    lines.foldlM (Table.read record entry) {} = .ok (tableOf record entry lines) := by
  induction lines using List.reverseRecOn with
  | nil => rfl
  | append_singleton lines cols ih =>
      have hbefore : ∀ cols ∈ lines, isStatus cols = true → WellFormedStatus cols :=
        fun cols hmem => hlines cols (List.mem_append_left _ hmem)
      have hlast := hlines cols (List.mem_append_right _ (List.mem_singleton_self _))
      rw [List.foldlM_append, ih hbefore]
      simp only [List.foldlM_cons, List.foldlM_nil]
      exact (congrArg (· >>= pure) (read_tableOf hrecord hlast)).trans rfl

/-- A `STATUS` row that is not well-formed ends the reading. -/
theorem wellFormed_of_readAll {lines : List (List String)} {table table' : Table Row}
    (hread : lines.foldlM (Table.read record entry) table = .ok table') :
    ∀ cols ∈ lines, isStatus cols = true → WellFormedStatus cols := by
  induction lines generalizing table with
  | nil => exact fun _ hmem => absurd hmem List.not_mem_nil
  | cons first rest ih =>
      rw [List.foldlM_cons] at hread
      cases hfirst : table.read record entry first with
      | error message =>
          rw [hfirst] at hread
          cases hread
      | ok middle =>
          rw [hfirst] at hread
          intro cols hmem hstatus
          obtain rfl | hlater := List.mem_cons.mp hmem
          · rcases Table.header_read hfirst with ⟨-, header, hrow, -⟩ | ⟨hother, -⟩
            · exact (statusRow_isOk_iff _).mp ⟨header, hrow⟩
            · exact absurd (of_decide_eq_true hstatus) hother
          · exact ih hread cols hlater hstatus

/-- An output is accepted exactly if it has a `STATUS` row and all of them are well-formed. -/
theorem parseOutput_isOk_iff (hrecord : record ≠ "STATUS") (missing tsv : String) :
    (∃ output, parseOutput record missing entry tsv = .ok output) ↔
      (∃ cols ∈ rows tsv, isStatus cols = true) ∧
        ∀ cols ∈ rows tsv, isStatus cols = true → WellFormedStatus cols := by
  unfold parseOutput
  constructor
  · rintro ⟨output, hparse⟩
    cases hread : (rows tsv).foldlM (Table.read record entry) {} with
    | error message =>
        rw [hread] at hparse
        cases hparse
    | ok table =>
        have hrows := wellFormed_of_readAll hread
        refine ⟨?_, hrows⟩
        rw [readAll_of_wellFormed hrecord hrows] at hparse
        by_contra hnone
        have hempty : (rows tsv).filter isStatus = [] :=
          List.filter_eq_nil_iff.mpr fun cols hmem hstatus => hnone ⟨cols, hmem, hstatus⟩
        simp [tableOf, hempty] at hparse
  · rintro ⟨⟨cols, hmem, hstatus⟩, hrows⟩
    rw [readAll_of_wellFormed hrecord hrows]
    have hne : (rows tsv).filter isStatus ≠ [] :=
      List.ne_nil_of_mem (List.mem_filter.mpr ⟨hmem, hstatus⟩)
    obtain ⟨hlast, hlastStatus⟩ := List.mem_filter.mp (List.getLast_mem hne)
    obtain ⟨header, hrow⟩ := (statusRow_isOk_iff _).mpr (hrows _ hlast hlastStatus)
    have hheader : (tableOf record entry (rows tsv)).header = some header := by
      unfold tableOf
      rw [List.getLast?_eq_some_getLast hne, Option.bind_some, hrow]
      rfl
    exact ⟨⟨header, (tableOf record entry (rows tsv)).entries⟩, by simp only [hheader]⟩

/-- What an accepted output holds. -/
theorem parseOutput_ok (hrecord : record ≠ "STATUS") {missing tsv : String} {output : Output Row}
    (hparse : parseOutput record missing entry tsv = .ok output) :
    (∃ last, ((rows tsv).filter isStatus).getLast? = some last ∧
        statusRow last = .ok output.header) ∧
      output.entries
        = (firstOfEach Prod.fst ((rows tsv).filterMap (counted record entry))).filterMap Prod.snd := by
  have hrows := ((parseOutput_isOk_iff hrecord missing tsv).mp ⟨output, hparse⟩).2
  unfold parseOutput at hparse
  rw [readAll_of_wellFormed hrecord hrows] at hparse
  cases hlast : ((rows tsv).filter isStatus).getLast? with
  | none => simp [tableOf, hlast] at hparse
  | some last =>
      have hmem := List.mem_filter.mp (List.mem_of_getLast? hlast)
      obtain ⟨header, hrow⟩ := (statusRow_isOk_iff _).mpr (hrows _ hmem.1 hmem.2)
      simp only [tableOf, hlast, hrow, Option.bind_some, Except.toOption] at hparse
      obtain rfl := Except.ok.inj hparse
      exact ⟨⟨last, rfl, hrow⟩, rfl⟩

/-- The row is neither a `STATUS` row nor one of the kind that counts. -/
theorem read_other {table : Table Row} {cols : List String} (hstatus : isStatus cols = false)
    (hkind : cols.head? ≠ some record) : table.read record entry cols = .ok table := by
  unfold Table.read
  rw [if_neg (of_decide_eq_false hstatus), if_neg hkind]

/-- The rows of other kinds do not matter. -/
theorem readAll_filter (lines : List (List String)) (table : Table Row) :
    (lines.filter fun cols => isStatus cols || cols.head? = some record).foldlM
        (Table.read record entry) table
      = lines.foldlM (Table.read record entry) table := by
  induction lines generalizing table with
  | nil => rfl
  | cons first rest ih =>
      by_cases hfirst : (isStatus first || decide (first.head? = some record)) = true
      · rw [List.filter_cons_of_pos (by simpa using hfirst), List.foldlM_cons, List.foldlM_cons]
        congr 1
        funext middle
        exact ih middle
      · rw [List.filter_cons_of_neg (by simpa using hfirst), List.foldlM_cons, ih]
        rw [Bool.not_eq_true, Bool.or_eq_false_iff] at hfirst
        rw [read_other hfirst.1 (of_decide_eq_false hfirst.2)]
        rfl

theorem parseOutput_congr {missing tsv tsv' : String}
    (hsame : (rows tsv').filter (fun cols => isStatus cols || cols.head? = some record)
      = (rows tsv).filter fun cols => isStatus cols || cols.head? = some record) :
    parseOutput record missing entry tsv' = parseOutput record missing entry tsv := by
  unfold parseOutput
  rw [← readAll_filter, hsame, readAll_filter]

end Reading

/-! ### Discovery -/

/-- The device of a valid `DEVICE` row. -/
def deviceRow (cols : List String) : Option DiscoveryDevice :=
  if cols.head? = some "DEVICE" then (deviceEntry cols).bind Prod.snd else none

theorem deviceEntry_some {cols : List String} {key : String} {row : Option DiscoveryDevice}
    (hentry : deviceEntry cols = some (key, row)) :
    ∃ device, row = some device ∧ device.deviceKey = key ∧ cols.length = 10 ∧ cols[1]? = some "1" ∧
      key ≠ "" ∧ cols[2]?.map Text.trim = some key := by
  unfold deviceEntry at hentry
  split at hentry
  · rename_i first schema name vendor index label uuid pciBusId driverVersion message
    by_cases hskipped : schema ≠ "1" ∨ Text.trim name = ""
    · rw [if_pos hskipped] at hentry
      cases hentry
    · rw [if_neg hskipped] at hentry
      obtain ⟨rfl, rfl⟩ := Prod.mk.inj (Option.some.inj hentry)
      obtain ⟨hschema, hkey⟩ := not_or.mp hskipped
      exact ⟨_, rfl, rfl, rfl, congrArg some (not_not.mp hschema), hkey, rfl⟩
  · cases hentry

/-- A `DEVICE` row is valid with ten columns, the schema and a key that is not blank. -/
theorem deviceRow_isSome_iff (cols : List String) :
    (deviceRow cols).isSome = true ↔ cols.head? = some "DEVICE" ∧ cols.length = 10 ∧
      cols[1]? = some "1" ∧ ∃ column, cols[2]? = some column ∧ Text.trim column ≠ "" := by
  unfold deviceRow
  by_cases hkind : cols.head? = some "DEVICE"
  · rw [if_pos hkind]
    constructor
    · intro hsome
      obtain ⟨device, hdevice⟩ := Option.isSome_iff_exists.mp hsome
      obtain ⟨⟨key, row⟩, hentry, -⟩ := Option.bind_eq_some_iff.mp hdevice
      obtain ⟨-, -, -, hlength, hschema, hkey, hcolumn⟩ := deviceEntry_some hentry
      obtain ⟨column, hfound, htrim⟩ := Option.map_eq_some_iff.mp hcolumn
      exact ⟨hkind, hlength, hschema, column, hfound, htrim ▸ hkey⟩
    · rintro ⟨-, hlength, hschema, column, hcolumn, hkey⟩
      match cols, hlength with
      | [first, schema, name, vendor, index, label, uuid, pciBusId, driverVersion, message], _ =>
          have hone : schema = "1" := Option.some.inj hschema
          obtain rfl : name = column := Option.some.inj hcolumn
          simp [deviceEntry, hone, hkey]
  · rw [if_neg hkind]
    simp [hkind]

/-- Where every row that counts has a value, the values are those of the first rows. -/
theorem filterMap_counted_deviceEntry (lines : List (List String)) :
    (firstOfEach Prod.fst (lines.filterMap (counted "DEVICE" deviceEntry))).filterMap Prod.snd
      = firstOfEach DiscoveryDevice.deviceKey (lines.filterMap deviceRow) := by
  have hcounted : ∀ pair ∈ lines.filterMap (counted "DEVICE" deviceEntry),
      ∃ device, pair = (device.deviceKey, some device) := by
    intro pair hmem
    obtain ⟨cols, -, hcols⟩ := List.mem_filterMap.mp hmem
    obtain ⟨key, row⟩ := pair
    unfold counted at hcols
    split at hcols
    · obtain ⟨device, rfl, rfl, -⟩ := deviceEntry_some hcols
      exact ⟨device, rfl⟩
    · cases hcols
  have hrows : lines.filterMap deviceRow
      = (lines.filterMap (counted "DEVICE" deviceEntry)).filterMap Prod.snd := by
    rw [List.filterMap_filterMap]
    congr 1
    funext cols
    unfold deviceRow counted
    split <;> rfl
  rw [hrows, filterMap_firstOfEach_eq_iff]
  · intro k value hmem
    obtain ⟨first, hfirst⟩ := Option.isSome_iff_exists.mp (List.find?_isSome.mpr
      ⟨(k, some value), hmem, by simp⟩ : ((lines.filterMap (counted "DEVICE" deviceEntry)).find?
        fun pair => pair.1 = k).isSome = true)
    obtain ⟨device, rfl⟩ := hcounted first (List.mem_of_find?_eq_some hfirst)
    have hfound := List.find?_some hfirst
    have hkey : device.deviceKey = k := by simpa using hfound
    exact ⟨device, by rw [hfirst, hkey]⟩
  · intro k value hmem
    obtain ⟨device, hpair⟩ := hcounted _ hmem
    obtain ⟨rfl, hsame⟩ := Prod.mk.inj hpair
    rw [Option.some.inj hsame]

/-- A discovery is accepted exactly if it has a `STATUS` row and all of them are well-formed. Its status is
that of the last one, its devices are those of the first valid row of each key, and no other row matters. -/
theorem parseDiscovery_grammar (tsv : String) :
    ((∃ result, parseDiscovery tsv = .ok result) ↔
        (∃ cols ∈ rows tsv, isStatus cols = true) ∧
          ∀ cols ∈ rows tsv, isStatus cols = true → WellFormedStatus cols) ∧
      (∀ result, parseDiscovery tsv = .ok result →
        (∃ last, ((rows tsv).filter isStatus).getLast? = some last ∧
          last[2]?.bind CollectorStatus.parse = some result.header.status) ∧
        result.entries = firstOfEach DiscoveryDevice.deviceKey ((rows tsv).filterMap deviceRow)) ∧
      ∀ tsv', (rows tsv').filter (fun cols => isStatus cols || cols.head? = some "DEVICE")
          = (rows tsv).filter (fun cols => isStatus cols || cols.head? = some "DEVICE") →
        parseDiscovery tsv' = parseDiscovery tsv := by
  have hrecord : "DEVICE" ≠ "STATUS" := by decide
  refine ⟨parseOutput_isOk_iff hrecord _ tsv, ?_, fun tsv' hsame => parseOutput_congr hsame⟩
  intro result hparse
  obtain ⟨⟨last, hlast, hrow⟩, hentries⟩ := parseOutput_ok hrecord hparse
  refine ⟨⟨last, hlast, statusRow_ok hrow⟩, ?_⟩
  rw [hentries]
  exact filterMap_counted_deviceEntry (rows tsv)

/-! ### Metrics -/

/-- The sample of a well-formed `METRIC` row. -/
def metricRow (bytesOfMb : String → Option Int) (cols : List String) : Option MetricSample :=
  if cols.head? = some "METRIC" then (metricEntry bytesOfMb cols).bind Prod.snd else none

/-- A `METRIC` row of twelve columns, with the schema, for a device of this key. -/
def namesDevice (key : String) (cols : List String) : Bool :=
  cols.head? = some "METRIC" && cols.length = 12 && cols[1]? = some "1"
    && cols[2]?.map Text.trim = some key && key ≠ ""

def hasHealth (cols : List String) : Bool := (cols[10]?.map Text.trim).any (· ≠ "")

/-- The first row of a device has a health status, if any row of the device has. -/
def HealthFirst (lines : List (List String)) : Prop :=
  ∀ key, (∃ cols ∈ lines, namesDevice key cols = true ∧ hasHealth cols = true) →
    ∃ first, lines.find? (namesDevice key) = some first ∧ hasHealth first = true

section Metrics

variable {bytesOfMb : String → Option Int}

theorem metricEntry_some {cols : List String} {key : String} {row : Option MetricSample}
    (hentry : metricEntry bytesOfMb cols = some (key, row)) :
    (cols.length = 12 ∧ cols[1]? = some "1" ∧ cols[2]?.map Text.trim = some key ∧ key ≠ "") ∧
      row.isSome = hasHealth cols ∧ ∀ sample, row = some sample → sample.deviceKey = key := by
  unfold metricEntry at hentry
  split at hentry
  · rename_i first schema name total used free utilization memoryUtilization temperature power health message
    by_cases hskipped : schema ≠ "1" ∨ Text.trim name = ""
    · rw [if_pos hskipped] at hentry
      cases hentry
    · rw [if_neg hskipped] at hentry
      obtain ⟨rfl, rfl⟩ := Prod.mk.inj (Option.some.inj hentry)
      obtain ⟨hschema, hname⟩ := not_or.mp hskipped
      refine ⟨⟨rfl, congrArg some (not_not.mp hschema), rfl, hname⟩, ?_⟩
      by_cases hhealth : Text.trim health = ""
      · simp [hasHealth, hhealth]
      · simp only [if_neg hhealth]
        refine ⟨by simp [hasHealth, hhealth], ?_⟩
        rintro sample ⟨⟩
        rfl
  · cases hentry

theorem metricEntry_of_namesDevice (bytesOfMb : String → Option Int) {key : String} {cols : List String}
    (hnames : namesDevice key cols = true) : ∃ row, metricEntry bytesOfMb cols = some (key, row) := by
  simp only [namesDevice, Bool.and_eq_true, decide_eq_true_eq] at hnames
  obtain ⟨⟨⟨⟨-, hlength⟩, hschema⟩, hname⟩, hkey⟩ := hnames
  match cols, hlength with
  | [first, schema, name, total, used, free, utilization, memoryUtilization, temperature, power, health,
      message], _ =>
      have hone : schema = "1" := Option.some.inj hschema
      have htrim : Text.trim name = key := Option.some.inj hname
      have hkept : ¬ (schema ≠ "1" ∨ Text.trim name = "") := by
        rw [htrim]
        exact not_or.mpr ⟨not_not.mpr hone, hkey⟩
      dsimp only [metricEntry]
      rw [if_neg hkept, htrim]
      exact ⟨_, rfl⟩

theorem namesDevice_iff (bytesOfMb : String → Option Int) (key : String) (cols : List String) :
    namesDevice key cols = true ↔
      ∃ row, counted "METRIC" (metricEntry bytesOfMb) cols = some (key, row) := by
  constructor
  · intro hnames
    have hkind : cols.head? = some "METRIC" := by
      simp only [namesDevice, Bool.and_eq_true, decide_eq_true_eq] at hnames
      exact hnames.1.1.1.1
    obtain ⟨row, hentry⟩ := metricEntry_of_namesDevice bytesOfMb hnames
    exact ⟨row, (if_pos hkind).trans hentry⟩
  · rintro ⟨row, hcounted⟩
    unfold counted at hcounted
    split at hcounted
    · rename_i hkind
      obtain ⟨⟨hlength, hschema, hname, hkey⟩, -⟩ := metricEntry_some hcounted
      unfold namesDevice
      rw [hkind, hlength, hschema, hname]
      simpa using hkey
    · cases hcounted

theorem metricEntry_some_of_counted {cols : List String} {key : String} {row : Option MetricSample}
    (hcounted : counted "METRIC" (metricEntry bytesOfMb) cols = some (key, row)) :
    row.isSome = hasHealth cols ∧ ∀ sample, row = some sample → sample.deviceKey = key := by
  unfold counted at hcounted
  split at hcounted
  · exact (metricEntry_some hcounted).2
  · cases hcounted

/-- The first row that counts for a device has a sample exactly if it has a health status. -/
theorem firstHasValue_iff (lines : List (List String)) (key : String) :
    FirstHasValue (lines.filterMap (counted "METRIC" (metricEntry bytesOfMb))) key ↔
      ∃ first, lines.find? (namesDevice key) = some first ∧ hasHealth first = true := by
  have hnames : (fun cols => (counted "METRIC" (metricEntry bytesOfMb) cols).any
      fun pair => decide (pair.1 = key)) = namesDevice key := by
    funext cols
    rw [Bool.eq_iff_iff, namesDevice_iff bytesOfMb, Option.any_eq_true_iff_get]
    constructor
    · rintro ⟨hsome, hkey⟩
      obtain ⟨⟨key', row⟩, hpair⟩ := Option.isSome_iff_exists.mp hsome
      simp only [hpair, Option.get_some, decide_eq_true_eq] at hkey
      exact ⟨row, hkey ▸ hpair⟩
    · rintro ⟨row, hcounted⟩
      simp [hcounted]
  unfold FirstHasValue
  rw [List.find?_filterMap, hnames]
  constructor
  · rintro ⟨value, hvalue⟩
    obtain ⟨first, hfirst, hcounted⟩ := Option.bind_eq_some_iff.mp hvalue
    refine ⟨first, hfirst, ?_⟩
    rw [← (metricEntry_some_of_counted hcounted).1]
    rfl
  · rintro ⟨first, hfirst, hhealth⟩
    obtain ⟨row, hcounted⟩ := (namesDevice_iff bytesOfMb key first).mp (List.find?_some hfirst)
    have hsome := (metricEntry_some_of_counted hcounted).1
    rw [hhealth] at hsome
    obtain ⟨sample, rfl⟩ := Option.isSome_iff_exists.mp hsome
    exact ⟨sample, by rw [hfirst, Option.bind_some, hcounted]⟩

/-- The samples are those of the first well-formed rows of each key exactly if no device has a row
without a health status before its first well-formed one. -/
theorem metrics_first_iff {tsv : String} {result : MetricsResult}
    (hparse : parseMetrics bytesOfMb tsv = .ok result) :
    result.entries = firstOfEach MetricSample.deviceKey ((rows tsv).filterMap (metricRow bytesOfMb)) ↔
      HealthFirst (rows tsv) := by
  have hrecord : "METRIC" ≠ "STATUS" := by decide
  have hrows : (rows tsv).filterMap (metricRow bytesOfMb)
      = ((rows tsv).filterMap (counted "METRIC" (metricEntry bytesOfMb))).filterMap Prod.snd := by
    rw [List.filterMap_filterMap]
    congr 1
    funext cols
    unfold metricRow counted
    split <;> rfl
  have hkeys : ∀ key sample,
      (key, some sample) ∈ (rows tsv).filterMap (counted "METRIC" (metricEntry bytesOfMb)) →
      sample.deviceKey = key := by
    intro key sample hmem
    obtain ⟨cols, -, hcounted⟩ := List.mem_filterMap.mp hmem
    exact (metricEntry_some_of_counted hcounted).2 sample rfl
  rw [(parseOutput_ok hrecord hparse).2, hrows, filterMap_firstOfEach_eq_iff hkeys]
  constructor
  · rintro h key ⟨cols, hmem, hnames, hhealth⟩
    obtain ⟨row, hcounted⟩ := (namesDevice_iff bytesOfMb key cols).mp hnames
    have hsome := (metricEntry_some_of_counted hcounted).1
    rw [hhealth] at hsome
    obtain ⟨sample, rfl⟩ := Option.isSome_iff_exists.mp hsome
    exact (firstHasValue_iff _ key).mp (h key sample (List.mem_filterMap.mpr ⟨cols, hmem, hcounted⟩))
  · intro h key sample hmem
    obtain ⟨cols, hcols, hcounted⟩ := List.mem_filterMap.mp hmem
    refine (firstHasValue_iff _ key).mpr (h key ⟨cols, hcols, ?_, ?_⟩)
    · exact (namesDevice_iff bytesOfMb key cols).mpr ⟨some sample, hcounted⟩
    · rw [← (metricEntry_some_of_counted hcounted).1]
      rfl

end Metrics

/-- One device, measured twice: the first row lacks its health status. -/
def healthlessTsv : String :=
  "STATUS\t1\tok\tnvidia\tnvidia-r535\t\nMETRIC\t1\tgpu\t\t\t\t\t\t\t\t\t\nMETRIC\t1\tgpu\t\t\t\t\t\t\t\tok\t\n"

def healthyTsv : String :=
  "STATUS\t1\tok\tnvidia\tnvidia-r535\t\nMETRIC\t1\tgpu\t\t\t\t72\t\t\t\tok\t\n"

theorem metrics_first_iff_example :
    ∃ result, parseMetrics (fun _ => none) healthyTsv = .ok result ∧
      (result.entries = firstOfEach MetricSample.deviceKey
          ((rows healthyTsv).filterMap (metricRow fun _ => none)) ↔ HealthFirst (rows healthyTsv)) :=
  ⟨_, rfl, metrics_first_iff rfl⟩

/-- The row without a health status keeps the well-formed one out. -/
theorem healthless_row_hides_sample :
    ¬∀ (bytesOfMb : String → Option Int) (tsv : String) (result : MetricsResult),
      parseMetrics bytesOfMb tsv = .ok result →
      result.entries
        = firstOfEach MetricSample.deviceKey ((rows tsv).filterMap (metricRow bytesOfMb)) := by
  intro h
  have hnone : (parseMetrics (fun _ => none) healthlessTsv).toOption.map (·.entries.length) = some 0 := by
    decide +kernel
  have hone : (firstOfEach MetricSample.deviceKey
      ((rows healthlessTsv).filterMap (metricRow fun _ => none))).length = 1 := by
    decide +kernel
  cases hparse : parseMetrics (fun _ => none) healthlessTsv with
  | error message =>
      rw [hparse] at hnone
      cases hnone
  | ok result =>
      rw [hparse] at hnone
      have hentries := h (fun _ => none) healthlessTsv result hparse
      have hlength : result.entries.length = 0 := Option.some.inj hnone
      rw [hentries, hone] at hlength
      cases hlength

end LightAI.Collectors
