import LightAI.Agent.Reports
import LightAI.Base.Dialogue

/-!
# Operations on the store that overlap

Each operation on the store of managed processes loads all of its records, and later saves all of them.
The heartbeat and the tasks do so independently of each other, and the heartbeat asks for every process in
between. A save writes back what was loaded, so it undoes whatever has been saved since the load.
-/

namespace LightAI.Agent

open Interleaving
open Server (ManagedInstanceReport)

/-! ### The operations -/

inductive StoreRequest where
  | upsert (record : ManagedProcessRecord)
  | remove (instanceId : String)
  | reports

inductive StoreResult where
  | changed (result : Except String Unit)
  | reported (reports : List ManagedInstanceReport)

def StoreRequest.program (deps : External) : StoreRequest → Async StoreResult
  | upsert record => do
      let result ← Agent.upsert record
      pure (.changed result)
  | remove instanceId => do
      let result ← Agent.remove instanceId
      pure (.changed result)
  | reports => do
      let reports ← Agent.reports deps
      pure (.reported reports)

/-- The operations on the store, of which any number may be under way, and the passing of time. -/
def storeSystem (env : Nat → Moment) (deps : External) :
    System StoreRequest Unit Op Op.Answer World StoreResult where
  handle := StoreRequest.program deps
  exec := Op.exec env
  act _ := World.tick

abbrev StoreConfig := Config StoreRequest Op Op.Answer World StoreResult

abbrev StoreEvent := Event StoreRequest Unit

/-! ### What an operation has been told -/

abbrev Told := List (Exchange Op Op.Answer)

/-- The records that a load has given. -/
def loadedIn : Exchange Op Op.Answer → Option (List ManagedProcessRecord)
  | ⟨.readStore, .ok records⟩ => some records
  | _ => none

/-- What an answer says of the process or container of a record, if it has been asked for. -/
def checkedIn (deps : External) (record : ManagedProcessRecord) : Exchange Op Op.Answer → Option ProcessCheck
  | ⟨.call (.dockerInspect containerRef), outcome⟩ =>
      if record.isDocker ∧ record.containerRef = some containerRef then
        some (dockerCheck (inspectedStatus deps outcome))
      else none
  | ⟨.call (.readStat processId), stat⟩ =>
      if ¬ record.isDocker ∧ record.processId = processId then
        some (processCheck record (Option.bind stat parseLinuxStatStartTime))
      else none
  | _ => none

def loadedRecords (told : Told) : Option (List ManagedProcessRecord) := told.findSome? loadedIn

def foundRunning (deps : External) (told : Told) (record : ManagedProcessRecord) : Bool :=
  told.any fun exchange => (checkedIn deps record exchange).any (·.isRunning)

def foundEnded (deps : External) (told : Told) (record : ManagedProcessRecord) : Bool :=
  told.any fun exchange => (checkedIn deps record exchange).any (!·.isRunning)

/-! ### What has been done to the store -/

/-- `owed` are the records that a start has written, that no stop has removed, and whose process or
container has run at every moment since; `gone` are the instances without a record that any start has
written since the last stop. `overtaken` are the instances that a start or stop has saved since the thread
has loaded the records. -/
structure StoreHistory where
  owed : List ManagedProcessRecord
  gone : String → Bool
  told : Nat → Told := fun _ => []
  overtaken : Nat → List String := fun _ => []

namespace StoreHistory

/-- Before anything is done, the store has what its file holds. -/
def start (file : StoreFile) : StoreHistory where
  owed := file.held
  gone instanceId := file.held.all (·.instanceId ≠ instanceId)

/-- A start or stop has saved the records. -/
def saved (h : StoreHistory) : StoreRequest → StoreHistory
  | .upsert record =>
      { h with
        owed := record :: h.owed
        gone := Function.update h.gone record.instanceId false
        overtaken := fun index => record.instanceId :: h.overtaken index }
  | .remove instanceId =>
      { h with
        owed := without instanceId h.owed
        gone := Function.update h.gone instanceId true
        overtaken := fun index => instanceId :: h.overtaken index }
  | .reports => h

variable (env : Nat → Moment) (deps : External)

/-- The dialogues go on, and what is owed of a record ends with its process or container. -/
def pass (c : StoreConfig) (e : StoreEvent) (h : StoreHistory) : StoreHistory :=
  { h with
    owed := h.owed.filter (env c.shared.now).runs
    told := (storeSystem env deps).noteAnswer c e h.told }

def note (c : StoreConfig) (e : StoreEvent) (h : StoreHistory) : StoreHistory :=
  match e, System.performed c e with
  | .step index, some (_, .readStore) =>
      { h.pass env deps c e with overtaken := Function.update h.overtaken index [] }
  | .step _, some (t, .writeStore _) =>
      if (env c.shared.now).fileError .writeStore = none then (h.pass env deps c e).saved t.request
      else h.pass env deps c e
  | _, _ => h.pass env deps c e

end StoreHistory

/-- No update is lost: the file holds every record that is owed, and none of an instance that is gone. -/
def StoreHolds (file : StoreFile) (h : StoreHistory) : Prop :=
  (∀ record ∈ h.owed, record ∈ file.held) ∧ ∀ record ∈ file.held, h.gone record.instanceId = false

/-! ### Operations that do not get into each other's way -/

/-- Since the thread has loaded the records, a start or a stop of the instance has been saved, and the
process of the record that the start has written runs, or one of the records `back`, that go back into the
file, is of the instance that the stop has removed. -/
def StoreHistory.undoes (h : StoreHistory) (m : Moment) (back : List ManagedProcessRecord)
    (instanceId : String) : Prop :=
  (∃ record ∈ h.owed, record.instanceId = instanceId ∧ m.runs record = true) ∨
    h.gone instanceId = true ∧ ∃ record ∈ back, record.instanceId = instanceId

/-- A start or a stop saves when nothing done to other instances since its load would be undone, and a start
does not replace the record of a process of the same instance that still runs. A heartbeat saves when
nothing done since its load would be undone, and no check has found a process ended that runs. -/
def StoreRequest.Careful (deps : External) (m : Moment) (h : StoreHistory) (index : Nat) :
    StoreRequest → Prop
  | upsert record =>
      (∀ instanceId ∈ h.overtaken index, instanceId ≠ record.instanceId →
        ¬ h.undoes m ((loadedRecords (h.told index)).getD []) instanceId) ∧
      ∀ other ∈ h.owed, other.instanceId = record.instanceId → m.runs other = true → other = record
  | remove instanceId =>
      ∀ other ∈ h.overtaken index, other ≠ instanceId →
        ¬ h.undoes m ((loadedRecords (h.told index)).getD []) other
  | reports =>
      (∀ instanceId ∈ h.overtaken index,
        ¬ h.undoes m
          (((loadedRecords (h.told index)).getD []).filter (foundRunning deps (h.told index))) instanceId) ∧
      ∀ record ∈ h.owed, m.runs record = true → foundEnded deps (h.told index) record = false

def CarefulSave (env : Nat → Moment) (deps : External) (p : StoreConfig × StoreHistory) (e : StoreEvent) :
    Prop :=
  ∀ index, e = .step index → ∀ t records, System.performed p.1 e = some (t, .writeStore records) →
    (env p.1.shared.now).fileError .writeStore = none →
      t.request.Careful deps (env p.1.shared.now) p.2 index

/-! ### What the programs perform -/

/-- What a save writes of the records that have been loaded. -/
def StoreRequest.Saves (deps : External) (told : Told) (loaded saved : List ManagedProcessRecord) :
    StoreRequest → Prop
  | upsert record => saved = without record.instanceId loaded ++ [record]
  | remove instanceId => saved = without instanceId loaded
  | reports =>
      (∀ record ∈ saved, record ∈ loaded ∧ foundRunning deps told record = true) ∧
        ∀ record ∈ loaded, (record.isDocker = true → record.containerRef ≠ none) →
          foundEnded deps told record = false → record ∈ saved

/-- A request loads first, and saves what it makes of the records loaded. -/
def StoreRequest.Allows (deps : External) (request : StoreRequest) (told : Told) : Op → Prop
  | .readStore => told = []
  | .writeStore saved => ∃ loaded, loadedRecords told = some loaded ∧ request.Saves deps told loaded saved
  | _ => True

section Programs

variable {deps : External} {ok : Told → Op → Prop}

theorem heeds_modify {f : List ManagedProcessRecord → List ManagedProcessRecord}
    (hread : ok [] .readStore)
    (hwrite : ∀ records, ok [⟨.readStore, .ok records⟩] (.writeStore (f records))) :
    (modify f).Heeds ok (fun _ _ => True) [] := by
  refine ⟨hread, fun answer => ?_⟩
  cases answer with
  | error error => trivial
  | ok records => exact ⟨hwrite records, fun _ => trivial⟩

theorem loadedRecords_single (records : List ManagedProcessRecord) :
    loadedRecords [⟨.readStore, .ok records⟩] = some records := rfl

/-- An exchange that is not a load leaves what has been loaded. -/
theorem loadedRecords_cons {exchange : Exchange Op Op.Answer} (hnone : loadedIn exchange = none)
    (told : Told) : loadedRecords (exchange :: told) = loadedRecords told := by
  simp [loadedRecords, hnone]

/-- What a check of a record has added to what was told before. -/
def Told.Checked (deps : External) (record : ManagedProcessRecord) (told told' : Told)
    (check : ProcessCheck) : Prop :=
  (∃ asked, told' = asked ++ told ∧ ∀ exchange ∈ asked, loadedIn exchange = none) ∧
    (check.isRunning = true → foundRunning deps told' record = true) ∧
    (check.isRunning = false → (record.isDocker = true → record.containerRef ≠ none) →
      foundEnded deps told' record = true)

theorem heeds_checkRecord (hcall : ∀ told call, ok told (.call call)) (record : ManagedProcessRecord)
    (told : Told) :
    (checkRecord deps record).Heeds ok (fun told' check => told.Checked deps record told' check) told := by
  unfold checkRecord
  by_cases hdocker : record.isDocker = true
  · rw [if_pos hdocker]
    unfold checkDockerRecord
    cases href : record.containerRef with
    | none =>
        refine ⟨⟨[], rfl, ?_⟩, ?_, ?_⟩
        · simp
        · intro hrunning
          cases hrunning
        · intro _ hasked
          exact absurd href (hasked hdocker)
    | some containerRef =>
        refine ⟨hcall told _, fun outcome => ?_⟩
        have hchecked : checkedIn deps record ⟨.call (.dockerInspect containerRef), outcome⟩
            = some (dockerCheck (inspectedStatus deps outcome)) := by
          simp [checkedIn, hdocker, href]
        refine ⟨⟨[_], rfl, ?_⟩, ?_, ?_⟩
        · simp [loadedIn]
        · intro hrunning
          simp [foundRunning, hchecked, hrunning]
        · intro hended _
          simp [foundEnded, hchecked, hended]
  · rw [if_neg hdocker]
    refine ⟨hcall told _, fun stat => ?_⟩
    have hchecked : checkedIn deps record ⟨.call (.readStat record.processId), stat⟩
        = some (processCheck record (Option.bind stat parseLinuxStatStartTime)) := by
      simp [checkedIn, hdocker]
    refine ⟨⟨[_], rfl, ?_⟩, ?_, ?_⟩
    · simp [loadedIn]
    · intro hrunning
      simp [foundRunning, hchecked, hrunning]
    · intro hended _
      simp [foundEnded, hchecked, hended]

theorem loadedRecords_append {asked : Told} (hnone : ∀ exchange ∈ asked, loadedIn exchange = none)
    (told : Told) : loadedRecords (asked ++ told) = loadedRecords told := by
  induction asked with
  | nil => rfl
  | cons exchange asked ih =>
      rw [List.cons_append, loadedRecords_cons (hnone exchange List.mem_cons_self)]
      exact ih fun other hother => hnone other (List.mem_cons_of_mem exchange hother)

theorem foundRunning_append {told : Told} {record : ManagedProcessRecord} (asked : Told)
    (h : foundRunning deps told record = true) : foundRunning deps (asked ++ told) record = true := by
  unfold foundRunning at h ⊢
  rw [List.any_append, h, Bool.or_true]

theorem foundEnded_append {told : Told} {record : ManagedProcessRecord} (asked : Told)
    (h : foundEnded deps told record = true) : foundEnded deps (asked ++ told) record = true := by
  unfold foundEnded at h ⊢
  rw [List.any_append, h, Bool.or_true]

/-- What the checks of the records have added to what was told before. -/
def Told.AllChecked (deps : External) (records : List ManagedProcessRecord) (told told' : Told)
    (checks : List (ManagedProcessRecord × ProcessCheck)) : Prop :=
  (∃ asked, told' = asked ++ told ∧ ∀ exchange ∈ asked, loadedIn exchange = none) ∧
    checks.map Prod.fst = records ∧
    ∀ entry ∈ checks,
      (entry.2.isRunning = true → foundRunning deps told' entry.1 = true) ∧
        (entry.2.isRunning = false → (entry.1.isDocker = true → entry.1.containerRef ≠ none) →
          foundEnded deps told' entry.1 = true)

theorem heeds_checkRecords (hcall : ∀ told call, ok told (.call call))
    (records : List ManagedProcessRecord) (told : Told) :
    (checkRecords deps records).Heeds ok (fun told' checks => told.AllChecked deps records told' checks)
      told := by
  induction records generalizing told with
  | nil =>
      refine ⟨⟨[], rfl, ?_⟩, rfl, ?_⟩
      · simp
      · simp
  | cons record records ih =>
      refine (heeds_checkRecord hcall record told).bind fun told₁ check hcheck => ?_
      refine (ih told₁).bind fun told₂ checks hchecks => ?_
      obtain ⟨⟨asked₁, rfl, hnone₁⟩, hrunning, hended⟩ := hcheck
      obtain ⟨⟨asked₂, rfl, hnone₂⟩, hrecords, hentries⟩ := hchecks
      refine ⟨⟨asked₂ ++ asked₁, (List.append_assoc ..).symm, ?_⟩, ?_, ?_⟩
      · intro exchange hexchange
        rcases List.mem_append.mp hexchange with hexchange | hexchange
        · exact hnone₂ exchange hexchange
        · exact hnone₁ exchange hexchange
      · rw [List.map_cons, hrecords]
      · intro entry hentry
        rcases List.mem_cons.mp hentry with rfl | hentry
        · constructor
          · intro hfound
            exact foundRunning_append asked₂ (hrunning hfound)
          · intro hfound hasked
            exact foundEnded_append asked₂ (hended hfound hasked)
        · exact hentries entry hentry

/-- What is saved of the records checked: those that some answer has shown running, and all that no answer
has shown ended. -/
theorem saves_of_allChecked {records : List ManagedProcessRecord} {told told' : Told}
    {checks : List (ManagedProcessRecord × ProcessCheck)}
    (h : told.AllChecked deps records told' checks) :
    StoreRequest.reports.Saves deps told' records ((checks.filter (·.2.isRunning)).map Prod.fst) := by
  obtain ⟨-, hrecords, hentries⟩ := h
  constructor
  · intro record hrecord
    obtain ⟨entry, hentry, rfl⟩ := List.mem_map.mp hrecord
    obtain ⟨hmem, hrunning⟩ := List.mem_filter.mp hentry
    refine ⟨?_, (hentries entry hmem).1 hrunning⟩
    rw [← hrecords]
    exact List.mem_map_of_mem hmem
  · intro record hrecord hasked hended
    rw [← hrecords] at hrecord
    obtain ⟨entry, hentry, rfl⟩ := List.mem_map.mp hrecord
    refine List.mem_map_of_mem (List.mem_filter.mpr ⟨hentry, ?_⟩)
    by_contra hnot
    have hfound := (hentries entry hentry).2 (Bool.eq_false_iff.mpr hnot) hasked
    exact absurd (hended.symm.trans hfound) Bool.false_ne_true

theorem heeds_reports :
    (reports deps).Heeds (StoreRequest.reports.Allows deps) (fun _ _ => True) [] := by
  refine ⟨rfl, fun answer => ?_⟩
  cases answer with
  | error error => trivial
  | ok records =>
      refine (heeds_checkRecords (fun _ _ => trivial) records _).bind fun told checks hchecks => ?_
      refine ⟨⟨records, ?_, saves_of_allChecked hchecks⟩, fun _ => trivial⟩
      obtain ⟨⟨asked, rfl, hnone⟩, -⟩ := hchecks
      rw [loadedRecords_append hnone, loadedRecords_single]

theorem heeds_program (request : StoreRequest) :
    (request.program deps).Heeds (request.Allows deps) (fun _ _ => True) [] := by
  cases request with
  | upsert record =>
      have hmodify : (Agent.upsert record).Heeds ((StoreRequest.upsert record).Allows deps)
          (fun _ _ => True) [] :=
        heeds_modify rfl fun records => ⟨records, loadedRecords_single records, rfl⟩
      exact hmodify.bind fun _ _ _ => trivial
  | remove instanceId =>
      have hmodify : (Agent.remove instanceId).Heeds ((StoreRequest.remove instanceId).Allows deps)
          (fun _ _ => True) [] :=
        heeds_modify rfl fun records => ⟨records, loadedRecords_single records, rfl⟩
      exact hmodify.bind fun _ _ _ => trivial
  | reports => exact heeds_reports.bind fun _ _ _ => trivial

end Programs

/-! ### What one event does -/

section Note

variable {env : Nat → Moment} {deps : External} {c : StoreConfig} {e : StoreEvent} {h : StoreHistory}
  {index : Nat} {t : Thread StoreRequest Op Op.Answer StoreResult}

theorem note_of_none (hnone : System.performed c e = none) : h.note env deps c e = h.pass env deps c e := by
  unfold StoreHistory.note
  rw [hnone]
  cases e <;> rfl

theorem note_of_read (hperf : System.performed c (.step index : StoreEvent) = some (t, .readStore)) :
    h.note env deps c (.step index)
      = { h.pass env deps c (.step index) with
          overtaken := Function.update h.overtaken index [] } := by
  unfold StoreHistory.note
  rw [hperf]

theorem note_of_write {records : List ManagedProcessRecord}
    (hperf : System.performed c (.step index : StoreEvent) = some (t, .writeStore records)) :
    h.note env deps c (.step index)
      = if (env c.shared.now).fileError .writeStore = none then
          (h.pass env deps c (.step index)).saved t.request
        else h.pass env deps c (.step index) := by
  unfold StoreHistory.note
  rw [hperf]

theorem note_of_other {op : Op} (hperf : System.performed c (.step index : StoreEvent) = some (t, op))
    (hread : op ≠ .readStore) (hwrite : ∀ records, op ≠ .writeStore records) :
    h.note env deps c (.step index) = h.pass env deps c (.step index) := by
  unfold StoreHistory.note
  rw [hperf]
  cases op with
  | readStore => exact absurd rfl hread
  | writeStore records => exact absurd rfl (hwrite records)
  | _ => rfl

theorem exec_store_of_ne {op : Op} (hwrite : ∀ records, op ≠ .writeStore records) (w : World) :
    (op.exec env w).2.store = w.store := by
  cases op with
  | writeStore records => exact absurd rfl (hwrite records)
  | monitor instanceId =>
      simp only [Op.exec]
      split
      · rfl
      · split <;> rfl
  | writeGateway record =>
      simp only [Op.exec]
      split <;> rfl
  | removeGateway =>
      simp only [Op.exec]
      split <;> rfl
  | _ => rfl

end Note

/-! ### What has been loaded is up to date until it is overtaken -/

/-- The records agree with what has been done to the instance. -/
def StoreHistory.AgreesOn (h : StoreHistory) (records : List ManagedProcessRecord) (instanceId : String) :
    Prop :=
  (∀ record ∈ h.owed, record.instanceId = instanceId → record ∈ records) ∧
    ∀ record ∈ records, record.instanceId = instanceId → h.gone instanceId = false

theorem storeHolds_iff {file : StoreFile} {h : StoreHistory} :
    StoreHolds file h ↔ ∀ instanceId, h.AgreesOn file.held instanceId := by
  constructor
  · rintro ⟨howed, hgone⟩ instanceId
    constructor
    · intro record hrecord _
      exact howed record hrecord
    · rintro record hrecord rfl
      exact hgone record hrecord
  · intro hagrees
    constructor
    · intro record hrecord
      exact (hagrees record.instanceId).1 record hrecord rfl
    · intro record hrecord
      exact (hagrees record.instanceId).2 record hrecord rfl

theorem StoreHistory.AgreesOn.anti {h h' : StoreHistory} {records : List ManagedProcessRecord}
    {instanceId : String} (hagrees : h.AgreesOn records instanceId)
    (howed : ∀ record ∈ h'.owed, record.instanceId = instanceId → record ∈ h.owed)
    (hgone : h'.gone instanceId = h.gone instanceId) : h'.AgreesOn records instanceId := by
  constructor
  · intro record hrecord hid
    exact hagrees.1 record (howed record hrecord hid) hid
  · intro record hrecord hid
    rw [hgone]
    exact hagrees.2 record hrecord hid

structure StoreInv (deps : External) (c : StoreConfig) (h : StoreHistory) : Prop where
  attentive : System.Attentive (StoreRequest.Allows deps) h.told c
  loaded : ∀ index records, loadedRecords (h.told index) = some records →
    ∀ instanceId, instanceId ∉ h.overtaken index → h.AgreesOn records instanceId
  holds : ∀ instanceId, h.AgreesOn c.shared.store.held instanceId

section Step

variable {env : Nat → Moment} {deps : External} {c : StoreConfig} {e : StoreEvent} {h : StoreHistory}

theorem mem_owed_of_pass {record : ManagedProcessRecord} (hrecord : record ∈ (h.pass env deps c e).owed) :
    record ∈ h.owed := List.mem_of_mem_filter hrecord

theorem agreesOn_pass {records : List ManagedProcessRecord} {instanceId : String}
    (hagrees : h.AgreesOn records instanceId) : (h.pass env deps c e).AgreesOn records instanceId :=
  hagrees.anti (fun _ hrecord _ => mem_owed_of_pass hrecord) rfl

/-- An update of one instance changes nothing for the others. -/
theorem agreesOn_saved {records : List ManagedProcessRecord} {instanceId : String}
    (request : StoreRequest) (hagrees : h.AgreesOn records instanceId)
    (hupsert : ∀ record, request = .upsert record → instanceId ≠ record.instanceId)
    (hremove : ∀ removed, request = .remove removed → instanceId ≠ removed) :
    (h.saved request).AgreesOn records instanceId := by
  cases request with
  | upsert record =>
      have hne := hupsert record rfl
      refine hagrees.anti ?_ (Function.update_of_ne hne _ _)
      intro other hother hid
      rcases List.mem_cons.mp hother with rfl | hother
      · exact absurd hid.symm hne
      · exact hother
  | remove removed =>
      have hne := hremove removed rfl
      refine hagrees.anti ?_ (Function.update_of_ne hne _ _)
      intro other hother _
      exact List.mem_of_mem_filter hother
  | reports => exact hagrees

/-- What has been loaded has what is owed of an instance, and of what goes back into the file nothing is
of an instance that is gone, unless a later update of the instance would be undone. -/
theorem loaded_upToDate {m : Moment} {index : Nat} {loaded back : List ManagedProcessRecord} {instanceId : String}
    (hloaded : ∀ instanceId, instanceId ∉ h.overtaken index → h.AgreesOn loaded instanceId)
    (hback : ∀ record ∈ back, record ∈ loaded)
    (hundoes : instanceId ∈ h.overtaken index → ¬ h.undoes m back instanceId) :
    (∀ record ∈ h.owed.filter m.runs, record.instanceId = instanceId → record ∈ loaded) ∧
      ∀ record ∈ back, record.instanceId = instanceId → h.gone instanceId = false := by
  by_cases hovertaken : instanceId ∈ h.overtaken index
  · have hnot := hundoes hovertaken
    constructor
    · intro record hrecord hid
      obtain ⟨hmem, hruns⟩ := List.mem_filter.mp hrecord
      exact absurd (Or.inl ⟨record, hmem, hid, hruns⟩) hnot
    · intro record hrecord hid
      by_contra hgone
      exact hnot (Or.inr ⟨Bool.not_eq_false _ ▸ hgone, record, hrecord, hid⟩)
  · have hagrees := hloaded instanceId hovertaken
    constructor
    · intro record hrecord hid
      exact hagrees.1 record (List.mem_of_mem_filter hrecord) hid
    · intro record hrecord hid
      exact hagrees.2 record (hback record hrecord) hid

/-- A process or container that runs belongs to a record that its check can ask for. -/
theorem askable_of_runs {m : Moment} {record : ManagedProcessRecord} (hruns : m.runs record = true)
    (hdocker : record.isDocker = true) : record.containerRef ≠ none := by
  intro hnone
  simp [Moment.runs, hdocker, hnone] at hruns

/-- A careful save leaves the file in agreement with all that has been done. -/
theorem agreesOn_of_save {request : StoreRequest} {index : Nat} {loaded records : List ManagedProcessRecord}
    (hread : loadedRecords (h.told index) = some loaded)
    (hloaded : ∀ instanceId, instanceId ∉ h.overtaken index → h.AgreesOn loaded instanceId)
    (hsaves : request.Saves deps (h.told index) loaded records)
    (hcareful : request.Careful deps (env c.shared.now) h index) (instanceId : String) :
    ((h.pass env deps c e).saved request).AgreesOn records instanceId := by
  cases request with
  | upsert record =>
      obtain ⟨hundoes, hreplaced⟩ := hcareful
      obtain rfl : records = without record.instanceId loaded ++ [record] := hsaves
      rw [hread] at hundoes
      by_cases hid : instanceId = record.instanceId
      · subst hid
        constructor
        · intro other hother hsame
          rcases List.mem_cons.mp hother with rfl | hother
          · exact List.mem_append_right _ (List.mem_singleton_self other)
          · obtain ⟨hmem, hruns⟩ := List.mem_filter.mp hother
            rw [hreplaced other hmem hsame hruns]
            exact List.mem_append_right _ (List.mem_singleton_self record)
        · intro other _ _
          exact Function.update_self ..
      · have hfresh := loaded_upToDate hloaded
          (fun _ hmem => hmem) fun hovertaken => hundoes instanceId hovertaken hid
        refine agreesOn_saved _ ⟨?_, ?_⟩ ?_ ?_
        · intro other hother hsame
          have hne : other.instanceId ≠ record.instanceId := hsame ▸ hid
          exact List.mem_append_left _ (mem_without.mpr ⟨hfresh.1 other hother hsame, hne⟩)
        · intro other hother hsame
          rcases List.mem_append.mp hother with hother | hother
          · exact hfresh.2 other (mem_without.mp hother).1 hsame
          · rw [List.mem_singleton.mp hother] at hsame
            exact absurd hsame.symm hid
        · rintro _ ⟨⟩
          exact hid
        · rintro _ ⟨⟩
  | remove removed =>
      obtain rfl : records = without removed loaded := hsaves
      have hundoes : ∀ other ∈ h.overtaken index, other ≠ removed →
          ¬ h.undoes (env c.shared.now) loaded other := by
        intro other hother hne
        have hnot := hcareful other hother hne
        rwa [hread] at hnot
      by_cases hid : instanceId = removed
      · subst hid
        constructor
        · intro other hother hsame
          exact absurd hsame (mem_without.mp hother).2
        · intro other hother hsame
          exact absurd hsame (mem_without.mp hother).2
      · have hfresh := loaded_upToDate hloaded
          (fun _ hmem => hmem) fun hovertaken => hundoes instanceId hovertaken hid
        refine agreesOn_saved _ ⟨?_, ?_⟩ ?_ ?_
        · intro other hother hsame
          have hne : other.instanceId ≠ removed := hsame ▸ hid
          exact mem_without.mpr ⟨hfresh.1 other hother hsame, hne⟩
        · intro other hother hsame
          exact hfresh.2 other (mem_without.mp hother).1 hsame
        · rintro _ ⟨⟩
        · rintro _ ⟨⟩
          exact hid
  | reports =>
      obtain ⟨hundoes, hshown⟩ := hcareful
      rw [hread] at hundoes
      obtain ⟨hsaved, hall⟩ := hsaves
      have hfresh := loaded_upToDate hloaded
        (fun record hmem => List.mem_of_mem_filter hmem) (hundoes instanceId)
      constructor
      · intro record hrecord hid
        obtain ⟨hmem, hruns⟩ := List.mem_filter.mp hrecord
        exact hall record (hfresh.1 record hrecord hid) (askable_of_runs hruns) (hshown record hmem hruns)
      · intro record hrecord hid
        obtain ⟨hmem, hfound⟩ := hsaved record hrecord
        exact hfresh.2 record (List.mem_filter.mpr ⟨hmem, hfound⟩) hid

end Step

/-! ### Runs -/

section Run

variable {env : Nat → Moment} {deps : External}

theorem told_note (c : StoreConfig) (e : StoreEvent) (h : StoreHistory) :
    (h.note env deps c e).told = (storeSystem env deps).noteAnswer c e h.told := by
  unfold StoreHistory.note
  split
  · rfl
  · split
    · rename_i t _ _ _
      cases t.request <;> rfl
    · rfl
  · rfl

/-- Where nothing is loaded and nothing is saved, what was up to date stays so. -/
theorem StoreInv.of_pass {c : StoreConfig} {e : StoreEvent} {h : StoreHistory} (hinv : StoreInv deps c h)
    (hnote : h.note env deps c e = h.pass env deps c e)
    (hstore : ((storeSystem env deps).apply c e).shared.store = c.shared.store)
    (htold : ∀ index, loadedRecords ((storeSystem env deps).noteAnswer c e h.told index)
      = loadedRecords (h.told index)) :
    StoreInv deps ((storeSystem env deps).apply c e) (h.note env deps c e) where
  attentive := by
    rw [told_note]
    exact System.attentive_apply heeds_program e hinv.attentive
  loaded := by
    rw [hnote]
    intro index records hread instanceId hnot
    have hread' : loadedRecords (h.told index) = some records := (htold index).symm.trans hread
    exact agreesOn_pass (hinv.loaded index records hread' instanceId hnot)
  holds := by
    rw [hnote, hstore]
    intro instanceId
    exact agreesOn_pass (hinv.holds instanceId)

/-- An exchange other than a load leaves what every thread has loaded. -/
theorem loadedRecords_update {told : Nat → Told} {index : Nat} {exchange : Exchange Op Op.Answer}
    (hnone : loadedIn exchange = none) (other : Nat) :
    loadedRecords (Function.update told index (exchange :: told index) other)
      = loadedRecords (told other) := by
  by_cases hother : other = index
  · subst hother
    rw [Function.update_self, loadedRecords_cons hnone]
  · rw [Function.update_of_ne hother]

/-- An instance that is not overtaken after a save is another one than the save is about. -/
theorem not_overtaken_of_saved {h : StoreHistory} {request : StoreRequest} {index : Nat}
    {instanceId : String} (hnot : instanceId ∉ (h.saved request).overtaken index) :
    instanceId ∉ h.overtaken index ∧ (∀ record, request = .upsert record → instanceId ≠ record.instanceId) ∧
      ∀ removed, request = .remove removed → instanceId ≠ removed := by
  cases request with
  | upsert record =>
      obtain ⟨hne, hrest⟩ := not_or.mp fun hor => hnot (List.mem_cons.mpr hor)
      refine ⟨hrest, ?_, ?_⟩
      · rintro _ ⟨⟩
        exact hne
      · rintro _ ⟨⟩
  | remove removed =>
      obtain ⟨hne, hrest⟩ := not_or.mp fun hor => hnot (List.mem_cons.mpr hor)
      refine ⟨hrest, ?_, ?_⟩
      · rintro _ ⟨⟩
      · rintro _ ⟨⟩
        exact hne
  | reports =>
      refine ⟨hnot, ?_, ?_⟩
      · rintro _ ⟨⟩
      · rintro _ ⟨⟩

section Performed

variable {c : StoreConfig} {h : StoreHistory} {index : Nat} {t : Thread StoreRequest Op Op.Answer StoreResult}

theorem storeInv_read (hinv : StoreInv deps c h)
    (hperf : System.performed c (.step index : StoreEvent) = some (t, .readStore))
    (hshared : ((storeSystem env deps).apply c (.step index)).shared = c.shared.tick)
    (hfirst : h.told index = []) :
    StoreInv deps ((storeSystem env deps).apply c (.step index)) (h.note env deps c (.step index)) where
  attentive := by
    rw [told_note]
    exact System.attentive_apply heeds_program (.step index) hinv.attentive
  loaded := by
    rw [told_note, System.noteAnswer_of_performed (storeSystem env deps) hperf, note_of_read hperf]
    intro other records hread instanceId hnot
    by_cases hother : other = index
    · subst hother
      rw [Function.update_self, hfirst] at hread
      have hheld : c.shared.store.held = records := by
        cases herror : (env c.shared.now).fileError .readStore with
        | some error => simp [storeSystem, Op.exec, loadedRecords, loadedIn, herror] at hread
        | none =>
            cases hstore : c.shared.store.loaded with
            | error error => simp [storeSystem, Op.exec, loadedRecords, loadedIn, herror, hstore] at hread
            | ok loaded =>
                have hsame : loaded = records := by
                  simpa [storeSystem, Op.exec, loadedRecords, loadedIn, herror, hstore] using hread
                rw [← hsame]
                exact StoreFile.held_of_loaded hstore
      rw [← hheld]
      exact (hinv.holds instanceId).anti (fun _ hrecord _ => List.mem_of_mem_filter hrecord) rfl
    · rw [Function.update_of_ne hother] at hread
      have hnot' : instanceId ∉ Function.update h.overtaken index [] other := hnot
      rw [Function.update_of_ne hother] at hnot'
      have hagrees := hinv.loaded other records hread instanceId hnot'
      exact hagrees.anti (fun _ hrecord _ => List.mem_of_mem_filter hrecord) rfl
  holds := by
    rw [note_of_read hperf, hshared]
    intro instanceId
    exact (hinv.holds instanceId).anti (fun _ hrecord _ => List.mem_of_mem_filter hrecord) rfl

theorem storeInv_write {records : List ManagedProcessRecord} (hinv : StoreInv deps c h)
    (hperf : System.performed c (.step index : StoreEvent) = some (t, .writeStore records))
    (hshared : ((storeSystem env deps).apply c (.step index)).shared
      = (Op.exec env (.writeStore records) c.shared).2)
    (hallows : t.request.Allows deps (h.told index) (.writeStore records))
    (hcareful : CarefulSave env deps (c, h) (.step index)) :
    StoreInv deps ((storeSystem env deps).apply c (.step index)) (h.note env deps c (.step index)) := by
  have hloads : ∀ other, loadedRecords ((storeSystem env deps).noteAnswer c (.step index) h.told other)
      = loadedRecords (h.told other) := by
    intro other
    rw [System.noteAnswer_of_performed (storeSystem env deps) hperf]
    exact loadedRecords_update rfl other
  by_cases hfile : (env c.shared.now).fileError .writeStore = none
  · obtain ⟨loaded, hread, hsaves⟩ := hallows
    have hnote : h.note env deps c (.step index)
        = (h.pass env deps c (.step index)).saved t.request := by
      rw [note_of_write hperf, if_pos hfile]
    have hstore : ((storeSystem env deps).apply c (.step index)).shared.store.held = records := by
      rw [hshared]
      simp only [Op.exec, hfile]
      rfl
    constructor
    · rw [told_note]
      exact System.attentive_apply heeds_program (.step index) hinv.attentive
    · rw [told_note, hnote]
      intro other records' hread' instanceId hnot
      obtain ⟨hbefore, hupsert, hremove⟩ := not_overtaken_of_saved hnot
      have hread'' : loadedRecords (h.told other) = some records' := (hloads other).symm.trans hread'
      refine agreesOn_saved t.request ?_ hupsert hremove
      exact agreesOn_pass (hinv.loaded other records' hread'' instanceId hbefore)
    · rw [hnote, hstore]
      exact agreesOn_of_save hread (hinv.loaded index loaded hread) hsaves
        (hcareful index rfl t records hperf hfile)
  · obtain ⟨error, herror⟩ := Option.ne_none_iff_exists'.mp hfile
    refine hinv.of_pass ?_ ?_ hloads
    · rw [note_of_write hperf, if_neg hfile]
    · rw [hshared]
      simp only [Op.exec, herror]
      rfl

end Performed

theorem storeInv_apply {c : StoreConfig} {e : StoreEvent} {h : StoreHistory} (hinv : StoreInv deps c h)
    (hcareful : CarefulSave env deps (c, h) e) :
    StoreInv deps ((storeSystem env deps).apply c e) (h.note env deps c e) := by
  have hquiet : System.performed c e = none →
      ((storeSystem env deps).apply c e).shared.store = c.shared.store →
      StoreInv deps ((storeSystem env deps).apply c e) (h.note env deps c e) := by
    intro hnone hstore
    refine hinv.of_pass (note_of_none hnone) hstore fun index => ?_
    rw [System.noteAnswer_of_none _ hnone]
  rcases System.apply_cases (M := storeSystem env deps) c e with ⟨request, -, hnone, heq⟩ |
    ⟨index, t, op, next, rfl, hget, -, hrest, hperf, heq⟩ | ⟨index, t, -, -, hnone, heq⟩ |
    ⟨action, -, hnone, heq⟩ | ⟨hnone, heq⟩
  · exact hquiet hnone (by rw [heq])
  · have hallows := hinv.attentive.allowed hget hrest
    have hshared : ((storeSystem env deps).apply c (.step index)).shared = (Op.exec env op c.shared).2 := by
      rw [heq]
      rfl
    by_cases hread : op = .readStore
    · subst hread
      exact storeInv_read hinv hperf hshared hallows
    · by_cases hwrite : ∃ records, op = .writeStore records
      · obtain ⟨records, rfl⟩ := hwrite
        exact storeInv_write hinv hperf hshared hallows hcareful
      · have hwrite' : ∀ records, op ≠ .writeStore records := fun records heq => hwrite ⟨records, heq⟩
        refine hinv.of_pass (note_of_other hperf hread hwrite') ?_ fun other => ?_
        · rw [hshared, exec_store_of_ne hwrite']
        · rw [System.noteAnswer_of_performed (storeSystem env deps) hperf]
          refine loadedRecords_update ?_ other
          cases op with
          | readStore => exact absurd rfl hread
          | _ => rfl
  · exact hquiet hnone (by rw [heq])
  · exact hquiet hnone (by rw [heq]; rfl)
  · exact hquiet hnone (by rw [heq])

theorem storeInv_start (deps : External) (w : World) :
    StoreInv deps ⟨w, []⟩ (StoreHistory.start w.store) where
  attentive := System.attentive_start w
  loaded index records hread := by cases hread
  holds instanceId := by
    constructor
    · intro record hrecord _
      exact hrecord
    · intro record hrecord hid
      simp only [StoreHistory.start, List.all_eq_false]
      exact ⟨record, hrecord, by simp [hid]⟩

/-- No file of the run lacks a record that is owed or has one of an instance that is gone. -/
def LosesNothing (env : Nat → Moment) (deps : External) (w : World) (events : List StoreEvent) : Prop :=
  Trace.Always (Trace.withHistory (storeSystem env deps).apply (StoreHistory.note env deps))
    (fun p => StoreHolds p.1.shared.store p.2) (⟨w, []⟩, StoreHistory.start w.store) events

/-- Every save of the run is careful. -/
def SavesCarefully (env : Nat → Moment) (deps : External) (w : World) (events : List StoreEvent) : Prop :=
  Trace.Along (Trace.withHistory (storeSystem env deps).apply (StoreHistory.note env deps))
    (CarefulSave env deps) (⟨w, []⟩, StoreHistory.start w.store) events

theorem losesNothing_of_savesCarefully (env : Nat → Moment) (deps : External) (w : World)
    (events : List StoreEvent) (hcareful : SavesCarefully env deps w events) :
    LosesNothing env deps w events := by
  have hstep : ∀ (p : StoreConfig × StoreHistory) (e : StoreEvent), StoreInv deps p.1 p.2 →
      CarefulSave env deps p e →
      StoreInv deps
        (Trace.withHistory (storeSystem env deps).apply (StoreHistory.note env deps) p e).1
        (Trace.withHistory (storeSystem env deps).apply (StoreHistory.note env deps) p e).2 :=
    fun p e hinv hok => storeInv_apply hinv hok
  have hholds : ∀ p : StoreConfig × StoreHistory, StoreInv deps p.1 p.2 →
      StoreHolds p.1.shared.store p.2 := fun p hinv => storeHolds_iff.mpr hinv.holds
  exact Trace.always_of_invariant hstep hholds (storeInv_start deps w) hcareful

end Run

/-! ### Overlapping operations -/

/-- Docker answers that the container runs. -/
def upDocker : Moment where
  __ := slowDocker
  answer
    | .dockerInspect _ => .exited true "" "" ""
    | call => call.failed

def upExternal : External :=
  { noExternal with jsonArrayFromStr := fun _ => .ok [.obj [("State", .obj [("Running", .bool true)])]] }

/-- A heartbeat and then a start, whose load and save fall between those of the heartbeat. -/
def startDuringHeartbeat : List StoreEvent :=
  [.spawn .reports, .step 0, .spawn (.upsert (containerRecord "i" "c")), .step 1, .step 1, .step 0]

/-- A heartbeat and then a stop, whose load and save fall between the check and the save of the
heartbeat. -/
def stopDuringHeartbeat : List StoreEvent :=
  [.spawn .reports, .step 0, .step 0, .spawn (.remove "i"), .step 1, .step 1, .step 0]

/-- The record that the start has written is gone though its container runs, and the record that the stop
has removed is back. -/
theorem overlapping_saves_lose_updates :
    ¬ LosesNothing (fun _ => upDocker) upExternal {} startDuringHeartbeat ∧
      ¬ LosesNothing (fun _ => upDocker) upExternal { store := .records [containerRecord "i" "c"] }
        stopDuringHeartbeat := by
  constructor
  · intro hnothing
    obtain ⟨howed, -⟩ := hnothing startDuringHeartbeat [] rfl
    have hkept := howed (containerRecord "i" "c") List.mem_cons_self
    cases hkept
  · intro hnothing
    obtain ⟨-, hgone⟩ := hnothing stopDuringHeartbeat [] rfl
    have hback := hgone (containerRecord "i" "c") List.mem_cons_self
    cases hback

/-- A start, and the heartbeat after it. -/
def startThenHeartbeat : List StoreEvent :=
  [.spawn (.upsert (containerRecord "i" "c")), .step 0, .step 0, .spawn .reports, .step 1, .step 1, .step 1]

theorem start_then_heartbeat_loses_nothing :
    SavesCarefully (fun _ => upDocker) upExternal {} startThenHeartbeat ∧
      LosesNothing (fun _ => upDocker) upExternal {} startThenHeartbeat := by
  have hcareful : SavesCarefully (fun _ => upDocker) upExternal {} startThenHeartbeat := by
    refine ⟨?_, ?_, ?_, ?_, ?_, ?_, ?_, trivial⟩
    · rintro index ⟨⟩
    · rintro index ⟨⟩ t records hperf
      cases hperf
    · rintro index ⟨⟩ t records hperf -
      obtain ⟨rfl, -⟩ := Prod.mk.inj (Option.some.inj hperf)
      constructor
      · intro instanceId hovertaken
        cases hovertaken
      · intro other howed
        cases howed
    · rintro index ⟨⟩
    · rintro index ⟨⟩ t records hperf
      cases hperf
    · rintro index ⟨⟩ t records hperf
      cases hperf
    · rintro index ⟨⟩ t records hperf -
      obtain ⟨rfl, -⟩ := Prod.mk.inj (Option.some.inj hperf)
      constructor
      · intro instanceId hovertaken
        cases hovertaken
      · intro record howed _
        obtain rfl : record = containerRecord "i" "c" := List.mem_singleton.mp howed
        rfl
  exact ⟨hcareful, losesNothing_of_savesCarefully _ _ _ _ hcareful⟩

end LightAI.Agent
