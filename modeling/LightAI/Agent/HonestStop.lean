import LightAI.Agent.Created
import LightAI.Agent.Reports

/-!
# What a stop that answers `stopped` leaves behind

Two of the three ways to stop an instance answer `stopped` when the kill has failed, and remove the
record all the same. What then still runs can no longer be found.
-/

namespace LightAI.Agent

/-! ### The answer and what is recorded -/

/-- Whether a record is about a child process. -/
def ManagedProcessRecord.names (record : ManagedProcessRecord) (child : Child) : Bool :=
  !record.isDocker && record.processId = child.processId
    && record.processStartTime.all (child.startTime = ·)

/-- What was recorded of an instance in the world `before` and runs at the moment `m` can still be found
in the world `after`: by its record or by its handle. -/
structure StaysReachable (m : Moment) (instanceId : String) (before after : World) : Prop where
  records (record : ManagedProcessRecord) (hheld : record ∈ before.store.held)
    (hid : record.instanceId = instanceId) (hruns : m.runs record = true) :
    record ∈ after.store.held ∨
      ∃ handle, after.registry instanceId = some handle ∧ record.names handle.child = true
  child (handle : ProcessHandle) (hhandle : before.registry instanceId = some handle)
    (hruns : m.runsChild handle.child = true) :
    after.registry instanceId = some handle ∨
      ∃ record ∈ after.store.held, record.instanceId = instanceId ∧ record.names handle.child = true

/-- A stop that answers `stopped` leaves nothing of the instance running that cannot be found. -/
def HonestStop (deps : External) (env : Nat → Moment) (payload : Json) (store : Bool) (w : World) : Prop :=
  let outcome := run env (stopModelInstanceWithStore deps payload store) w
  outcome.1.instanceStatus = "stopped" →
    StaysReachable (env outcome.2.now) (payloadText payload "instance_id") w outcome.2

/-! ### The ways to stop -/

inductive StopRoute where
  | docker (record : ManagedProcessRecord)
  | child (handle : ProcessHandle)
  | recorded (record : ManagedProcessRecord)
  | refused

/-- The record of an instance that is found in the store at a moment. -/
def foundAt (m : Moment) (file : StoreFile) (instanceId : String) : Option ManagedProcessRecord :=
  match m.fileError .readStore with
  | some _ => none
  | none => file.held.find? (·.instanceId = instanceId)

/-- The docker record that a stop looks for first. -/
def dockerAt (m : Moment) (file : StoreFile) (instanceId : String) (store : Bool) :
    Option ManagedProcessRecord :=
  if store then (foundAt m file instanceId).filter (·.isDocker) else none

/-- The record that a stop looks for last. -/
def recordAt (m : Moment) (file : StoreFile) (instanceId : String) (store : Bool) :
    Option ManagedProcessRecord :=
  if store then foundAt m file instanceId else none

def stopRoute (env : Nat → Moment) (w : World) (instanceId : String) (store : Bool) : StopRoute :=
  match dockerAt (env w.now) w.store instanceId store with
  | some record => .docker record
  | none =>
      match w.registry instanceId with
      | some handle => .child handle
      | none =>
          match recordAt (env (w.now + 2)) w.store instanceId store with
          | some record => .recorded record
          | none => .refused

/-- How many moments the stop of a container takes. -/
def stopTicks (record : ManagedProcessRecord) : Nat := if record.containerRef.isNone then 0 else 1

/-- How many moments the kill of a record takes. -/
def killTicks (deps : External) (m : Moment) (record : ManagedProcessRecord) : Nat :=
  if record.isDocker then stopTicks record
  else if (m.check deps record).isRunning then 2 else 1

/-- The moment at which the child of a handle is killed. -/
def childKillAt (store : Bool) (w : World) : Nat := w.now + if store then 2 else 1

/-- Nothing that is recorded for the instance in the store runs. -/
def RecordsEnded (m : Moment) (instanceId : String) (w : World) : Prop :=
  ∀ record ∈ w.store.held, record.instanceId = instanceId → m.runs record = false

/-- The kill of the child fails, or the records cannot be removed, or everything has ended by the moment
at which the stop returns; what a handle in the registry names may run on, and without a store so may
what a record names. -/
def EndsWhatItForgets (deps : External) (env : Nat → Moment) (instanceId : String) (store : Bool)
    (w : World) : Prop :=
  match stopRoute env w instanceId store with
  | .refused => True
  | .docker record =>
      UpdateFails env (w.now + 1 + stopTicks record) w.store ∨
        ∀ record' ∈ w.store.held, record'.instanceId = instanceId →
          (env (w.now + 1 + stopTicks record + 2)).runs record' = true →
            ∃ handle, w.registry instanceId = some handle ∧ record'.names handle.child = true
  | .child handle =>
      (∃ error, (env (childKillAt store w)).answer (.killChild handle.child) = Except.error error) ∨
        if store then
          UpdateFails env (w.now + 3) w.store ∨
            (RecordsEnded (env (w.now + 6)) instanceId w ∧
              (env (w.now + 6)).runsChild handle.child = false)
        else (env (w.now + 3)).runsChild handle.child = true →
          ∃ record ∈ w.store.held, record.instanceId = instanceId ∧ record.names handle.child = true
  | .recorded record =>
      UpdateFails env (w.now + 3 + killTicks deps (env (w.now + 3)) record) w.store ∨
        RecordsEnded (env (w.now + 3 + killTicks deps (env (w.now + 3)) record + 2)) instanceId w

/-! ### What each of them does -/

section Routes

variable (deps : External) {env : Nat → Moment} {w : World}

theorem run_remove (instanceId : String) :
    (UpdateFails env w.now w.store ∧
        ∃ error now, run env (remove instanceId) w = (.error error, { w with now })) ∨
      (¬ UpdateFails env w.now w.store ∧
        run env (remove instanceId) w
          = (.ok (), { w with
              store := .records (without instanceId w.store.held)
              now := w.now + 2 })) :=
  run_modify (without instanceId)

theorem run_stopDockerContainer (record : ManagedProcessRecord) :
    ∃ outcome, run env (stopDockerContainer record) w
      = (outcome, { w with now := w.now + stopTicks record }) := by
  unfold stopDockerContainer stopTicks
  cases record.containerRef with
  | none => exact ⟨_, rfl⟩
  | some containerRef => exact ⟨_, rfl⟩

theorem run_killManaged (record : ManagedProcessRecord) :
    ∃ outcome, run env (killManaged deps record) w
      = (outcome, { w with now := w.now + killTicks deps (env w.now) record }) := by
  unfold killManaged killTicks
  by_cases hdocker : record.isDocker = true
  · rw [if_pos hdocker, if_pos hdocker]
    exact run_stopDockerContainer record
  · have hticks : checkTicks record = 1 := by
      simp [checkTicks, hdocker]
    rw [if_neg hdocker, if_neg hdocker, run_bind, run_checkRecord, hticks]
    dsimp only
    by_cases hrunning : ((env w.now).check deps record).isRunning = true
    · rw [if_pos hrunning, if_pos hrunning]
      exact ⟨_, rfl⟩
    · rw [if_neg hrunning, if_neg hrunning]
      exact ⟨_, rfl⟩

theorem run_find (instanceId : String) :
    ∃ outcome, run env (find instanceId) w = (outcome, w.tick) ∧
      ∀ record, outcome = .ok (some record) ↔ foundAt (env w.now) w.store instanceId = some record := by
  unfold foundAt
  cases hread : (env w.now).fileError .readStore with
  | some error =>
      refine ⟨_, run_find_of_error hread instanceId, fun record => ?_⟩
      simp
  | none =>
      refine ⟨_, run_find_of_readable hread instanceId, fun record => ?_⟩
      cases hstore : w.store with
      | missing => simp [StoreFile.loaded, StoreFile.held, Except.map]
      | unparsable error => simp [StoreFile.loaded, StoreFile.held, Except.map]
      | records held => simp [StoreFile.loaded, StoreFile.held, Except.map]

theorem run_findDocker (instanceId : String) (store : Bool) :
    run env (findDocker instanceId store) w
      = (dockerAt (env w.now) w.store instanceId store,
        { w with now := w.now + if store then 1 else 0 }) := by
  unfold findDocker dockerAt
  cases store with
  | false => rfl
  | true =>
      obtain ⟨outcome, hrun, hfound⟩ := @run_find env w instanceId
      simp only [if_true]
      rw [run_bind, hrun]
      cases outcome with
      | error error =>
          have hnone : foundAt (env w.now) w.store instanceId = none := by
            cases hcase : foundAt (env w.now) w.store instanceId with
            | none => rfl
            | some record => exact nomatch (hfound record).mpr hcase
          rw [hnone]
          rfl
      | ok found =>
          have heq : foundAt (env w.now) w.store instanceId = found := by
            cases found with
            | none =>
                cases hcase : foundAt (env w.now) w.store instanceId with
                | none => rfl
                | some record => exact nomatch (hfound record).mpr hcase
            | some record => exact (hfound record).mp rfl
          rw [heq]
          rfl

theorem store_of_dockerAt {m : Moment} {file : StoreFile} {instanceId : String} {store : Bool}
    {record : ManagedProcessRecord} (h : dockerAt m file instanceId store = some record) :
    store = true := by
  cases store with
  | false => exact nomatch h
  | true => rfl

theorem store_of_recordAt {m : Moment} {file : StoreFile} {instanceId : String} {store : Bool}
    {record : ManagedProcessRecord} (h : recordAt m file instanceId store = some record) :
    store = true := by
  cases store with
  | false => exact nomatch h
  | true => rfl

/-- The docker route always answers `stopped`. -/
theorem run_stopDockerInstance (instanceId : String) (record : ManagedProcessRecord) :
    (run env (stopDockerInstance instanceId record) w).1.instanceStatus = "stopped" ∧
      ((UpdateFails env (w.now + stopTicks record) w.store ∧
          ∃ now, (run env (stopDockerInstance instanceId record) w).2 = { w with now }) ∨
        (¬ UpdateFails env (w.now + stopTicks record) w.store ∧
          (run env (stopDockerInstance instanceId record) w).2
            = { w with
                store := .records (without instanceId w.store.held)
                now := w.now + stopTicks record + 2 })) := by
  obtain ⟨stopped, hstop⟩ := @run_stopDockerContainer env w record
  have hrun : ∀ removed w', run env (remove instanceId) { w with now := w.now + stopTicks record }
      = (removed, w') →
      (run env (stopDockerInstance instanceId record) w).1.instanceStatus = "stopped" ∧
        (run env (stopDockerInstance instanceId record) w).2 = w' := by
    intro removed w' hremove
    rw [stopDockerInstance, run_bind, hstop, run_bind, hremove]
    cases stopped with
    | ok _ => exact ⟨rfl, rfl⟩
    | error message => exact ⟨rfl, rfl⟩
  rcases @run_remove env { w with now := w.now + stopTicks record } instanceId with
    ⟨hfails, error, now, hremove⟩ | ⟨hsucceeds, hremove⟩
  · obtain ⟨hstatus, hworld⟩ := hrun _ _ hremove
    exact ⟨hstatus, .inl ⟨hfails, now, hworld⟩⟩
  · obtain ⟨hstatus, hworld⟩ := hrun _ _ hremove
    exact ⟨hstatus, .inr ⟨hsucceeds, hworld⟩⟩

/-- The route over the records: it answers `stopped` unless no record is found, or the record of a
process that was killed cannot be removed. -/
theorem run_stopRecorded (instanceId : String) (store : Bool) :
    match recordAt (env w.now) w.store instanceId store with
    | none => (run env (stopRecorded deps instanceId store) w).1.instanceStatus = "failed" ∧
        ∃ now, (run env (stopRecorded deps instanceId store) w).2 = { w with now }
    | some record =>
        (UpdateFails env (w.now + 1 + killTicks deps (env (w.now + 1)) record) w.store ∧
            ∃ now, (run env (stopRecorded deps instanceId store) w).2 = { w with now }) ∨
          (¬ UpdateFails env (w.now + 1 + killTicks deps (env (w.now + 1)) record) w.store ∧
            (run env (stopRecorded deps instanceId store) w).1.instanceStatus = "stopped" ∧
            (run env (stopRecorded deps instanceId store) w).2
              = { w with
                  store := .records (without instanceId w.store.held)
                  now := w.now + 1 + killTicks deps (env (w.now + 1)) record + 2 }) := by
  unfold recordAt stopRecorded
  cases store with
  | false => exact ⟨rfl, w.now, rfl⟩
  | true =>
      obtain ⟨outcome, hrun, hfound⟩ := @run_find env w instanceId
      simp only [if_true]
      rw [run_bind, hrun]
      cases hcase : foundAt (env w.now) w.store instanceId with
      | none =>
          cases outcome with
          | error error => exact ⟨rfl, w.now + 1, rfl⟩
          | ok found =>
              cases found with
              | none => exact ⟨rfl, w.now + 1, rfl⟩
              | some record =>
                  have hsome := (hfound record).mp rfl
                  rw [hcase] at hsome
                  exact nomatch hsome
      | some record =>
          rw [(hfound record).mpr hcase]
          dsimp only
          obtain ⟨killed, hkill⟩ := @run_killManaged deps env w.tick record
          rw [run_bind, hkill, run_bind]
          rcases @run_remove env
              { w.tick with now := w.tick.now + killTicks deps (env w.tick.now) record }
              instanceId with ⟨hfails, error, now, hremove⟩ | ⟨hsucceeds, hremove⟩
          · rw [hremove]
            refine .inl ⟨hfails, now, ?_⟩
            cases killed <;> rfl
          · rw [hremove]
            refine .inr ⟨hsucceeds, ?_, ?_⟩
            · cases killed <;> rfl
            · cases killed <;> rfl

/-- The route over the handle: it answers `stopped` when the child has been killed and its record, if
there is a store, removed. -/
theorem run_stopChild (instanceId : String) (store : Bool) (handle : ProcessHandle) :
    (run env (stopChild instanceId store handle) w).1.instanceStatus ≠ "stopped" ∧
        ((∃ error, (env w.now).answer (.killChild handle.child) = Except.error error) ∨
          (store = true ∧ UpdateFails env (w.now + 1) w.store)) ∧
        (∃ now, (run env (stopChild instanceId store handle) w).2 = { w with now }) ∨
      (¬ (∃ error, (env w.now).answer (.killChild handle.child) = Except.error error) ∧
        (store = true → ¬ UpdateFails env (w.now + 1) w.store) ∧
        (run env (stopChild instanceId store handle) w).1.instanceStatus = "stopped" ∧
        (run env (stopChild instanceId store handle) w).2
          = { w with
              store := if store then .records (without instanceId w.store.held) else w.store
              now := w.now + if store then 4 else 2 }) := by
  have hkilled : run env (await (.killChild handle.child)) w
      = ((env w.now).answer (.killChild handle.child), w.tick) := rfl
  cases hanswer : (env w.now).answer (.killChild handle.child) with
  | error error =>
      left
      refine ⟨?_, .inl ⟨error, rfl⟩, w.now + 1, ?_⟩
      · have hfailed :
            (run env (stopChild instanceId store handle) w).1.instanceStatus = "failed" := by
          rw [stopChild, run_bind, hkilled, hanswer]
          rfl
        rw [hfailed]
        decide
      · rw [stopChild, run_bind, hkilled, hanswer]
        rfl
  | ok value =>
      have hnot : ¬ ∃ error, (Except.ok value : Except String Unit) = Except.error error := by
        rintro ⟨error, h⟩
        exact nomatch h
      cases store with
      | false =>
          right
          refine ⟨hnot, nofun, ?_, ?_⟩
          · rw [stopChild, run_bind, hkilled, hanswer]
            rfl
          · rw [stopChild, run_bind, hkilled, hanswer]
            rfl
      | true =>
          rcases @run_remove env w.tick instanceId with
            ⟨hfails, error, now, hremove⟩ | ⟨hsucceeds, hremove⟩
          · left
            refine ⟨?_, .inr ⟨rfl, hfails⟩, now, ?_⟩
            · have hfailed :
                  (run env (stopChild instanceId true handle) w).1.instanceStatus = "failed" := by
                rw [stopChild, run_bind, hkilled, hanswer]
                simp only [if_true]
                rw [run_bind, hremove]
                rfl
              rw [hfailed]
              decide
            · rw [stopChild, run_bind, hkilled, hanswer]
              simp only [if_true]
              rw [run_bind, hremove]
              rfl
          · right
            refine ⟨hnot, fun _ => hsucceeds, ?_, ?_⟩
            · rw [stopChild, run_bind, hkilled, hanswer]
              simp only [if_true]
              rw [run_bind, hremove]
              rfl
            · rw [stopChild, run_bind, hkilled, hanswer]
              simp only [if_true]
              rw [run_bind, hremove]
              rfl

/-- The world once the handle of an instance has been taken out of the registry. -/
def World.withoutHandle (w : World) (instanceId : String) (now : Nat) : World :=
  { w with registry := Function.update w.registry instanceId none, now }

@[simp]
theorem withoutHandle_store (instanceId : String) (now : Nat) :
    (w.withoutHandle instanceId now).store = w.store := rfl

@[simp]
theorem withoutHandle_now (instanceId : String) (now : Nat) :
    (w.withoutHandle instanceId now).now = now := rfl

@[simp]
theorem withoutHandle_registry_self (instanceId : String) (now : Nat) :
    (w.withoutHandle instanceId now).registry instanceId = none :=
  Function.update_self ..

variable {payload : Json} {store : Bool}

theorem run_stop_docker {record : ManagedProcessRecord}
    (hdocker : dockerAt (env w.now) w.store (payloadText payload "instance_id") store = some record) :
    run env (stopModelInstanceWithStore deps payload store) w
      = run env (stopDockerInstance (payloadText payload "instance_id") record)
          { w with now := w.now + 1 } := by
  have hstore : store = true := store_of_dockerAt hdocker
  unfold stopModelInstanceWithStore
  dsimp only
  rw [run_bind, run_findDocker, hdocker, hstore]
  rfl

theorem run_stop_of_not_docker
    (hdocker : dockerAt (env w.now) w.store (payloadText payload "instance_id") store = none) :
    run env (stopModelInstanceWithStore deps payload store) w
      = run env (match w.registry (payloadText payload "instance_id") with
          | none => stopRecorded deps (payloadText payload "instance_id") store
          | some handle => stopChild (payloadText payload "instance_id") store handle)
          (w.withoutHandle (payloadText payload "instance_id") (childKillAt store w)) := by
  unfold stopModelInstanceWithStore
  dsimp only
  rw [run_bind, run_findDocker, hdocker]
  dsimp only
  have hremoved : (Op.removeHandle (payloadText payload "instance_id")).exec env
      { w with now := w.now + if store then 1 else 0 }
      = (w.registry (payloadText payload "instance_id"),
        w.withoutHandle (payloadText payload "instance_id") (childKillAt store w)) := by
    cases store with
    | false => rfl
    | true => rfl
  rw [run_bind, run_perform, hremoved]
  dsimp only
  cases w.registry (payloadText payload "instance_id") with
  | none => rfl
  | some handle => rfl

end Routes

/-! ### When a stop is honest -/

section Honest

variable {m : Moment} {instanceId : String} {before after : World}

/-- What is left as it was stays reachable. -/
theorem StaysReachable.of_same (hstore : after.store = before.store)
    (hregistry : after.registry instanceId = before.registry instanceId) :
    StaysReachable m instanceId before after where
  records _ hheld _ _ := .inl (hstore ▸ hheld)
  child _ hhandle _ := .inl (hregistry.trans hhandle)

theorem stays_reachable_without_records
    (hstore : after.store = .records (without instanceId before.store.held))
    (hregistry : after.registry instanceId = before.registry instanceId) :
    StaysReachable m instanceId before after ↔
      ∀ record ∈ before.store.held, record.instanceId = instanceId → m.runs record = true →
        ∃ handle, before.registry instanceId = some handle ∧ record.names handle.child = true := by
  constructor
  · intro h record hheld hid hruns
    rcases h.records record hheld hid hruns with hkept | hnamed
    · rw [hstore] at hkept
      exact absurd hid (mem_without.mp hkept).2
    · rwa [hregistry] at hnamed
  · intro h
    refine ⟨fun record hheld hid hruns => .inr ?_, fun handle hhandle _ => .inl ?_⟩
    · rw [hregistry]
      exact h record hheld hid hruns
    · rw [hregistry]
      exact hhandle

theorem stays_reachable_without_all
    (hstore : after.store = .records (without instanceId before.store.held))
    (hregistry : after.registry instanceId = none) :
    StaysReachable m instanceId before after ↔
      RecordsEnded m instanceId before ∧
        ∀ handle, before.registry instanceId = some handle → m.runsChild handle.child = false := by
  constructor
  · intro h
    refine ⟨fun record hheld hid => ?_, fun handle hhandle => ?_⟩
    · rw [Bool.eq_false_iff]
      intro hruns
      rcases h.records record hheld hid hruns with hkept | ⟨handle, hhandle, _⟩
      · rw [hstore] at hkept
        exact (mem_without.mp hkept).2 hid
      · rw [hregistry] at hhandle
        cases hhandle
    · rw [Bool.eq_false_iff]
      intro hruns
      rcases h.child handle hhandle hruns with hkept | ⟨record, hkept, hid, _⟩
      · rw [hregistry] at hkept
        cases hkept
      · rw [hstore] at hkept
        exact (mem_without.mp hkept).2 hid
  · rintro ⟨hrecords, hchild⟩
    refine ⟨fun record hheld hid hruns => ?_, fun handle hhandle hruns => ?_⟩
    · have hended := hrecords record hheld hid
      rw [hruns] at hended
      cases hended
    · have hended := hchild handle hhandle
      rw [hruns] at hended
      cases hended

theorem stays_reachable_without_handle {handle : ProcessHandle}
    (hstore : after.store = before.store) (hbefore : before.registry instanceId = some handle)
    (hregistry : after.registry instanceId = none) :
    StaysReachable m instanceId before after ↔
      (m.runsChild handle.child = true →
        ∃ record ∈ before.store.held,
          record.instanceId = instanceId ∧ record.names handle.child = true) := by
  constructor
  · intro h hruns
    rcases h.child handle hbefore hruns with hkept | hnamed
    · rw [hregistry] at hkept
      cases hkept
    · rwa [hstore] at hnamed
  · intro h
    refine ⟨fun record hheld _ _ => .inl (hstore ▸ hheld), fun other hother hruns => .inr ?_⟩
    have hsame : other = handle := Option.some.inj (hother.symm.trans hbefore)
    rw [hstore]
    rw [hsame] at hruns ⊢
    exact h hruns

end Honest

section Theorem

variable (deps : External) (env : Nat → Moment) (payload : Json) (store : Bool) (w : World)

end Theorem

end LightAI.Agent
