import LightAI.Base.Fallible
import LightAI.Base.FirstRead
import LightAI.Server.Vocabulary

/-!
# Columns that are written back

The update of an instance reads the row, fills the columns that the request does not set from what it has
read, and writes all of them. A check whose agent is offline writes back the status. Between the read and
the write any other operation may have written the row.
-/

namespace LightAI.Server

open Interleaving

/-! ### What a request reads and what it writes of it -/

/-- The row that a request starts from, of the requests that write parts of it back. -/
def Request.reads : Request → Db → Option ModelInstance
  | updateModelInstance id _, db => db.modelInstances.find? id
  | checkModelInstance id _ _ _, db => db.modelInstances.find? id
  | _, _ => none

def ModelInstance.localUpdate (row : ModelInstance) (request : ModelInstanceUpdateRequest) :
    LocalInstanceUpdate where
  name := request.name.getD row.name
  description := request.description.or row.description
  paramsJson := request.paramsJson.or row.paramsJson

def ModelInstanceUpdateRequest.newBackend (request : ModelInstanceUpdateRequest) : Option String :=
  request.backend.filter (!Text.isBlank ·)

def ModelInstance.externalUpdate (row : ModelInstance) (request : ModelInstanceUpdateRequest) :
    ExternalInstanceUpdate where
  name := request.name.getD row.name
  backend := request.newBackend.getD row.backend
  status := request.status.getD row.status
  baseUrl := request.baseUrl.or row.baseUrl
  endpointUrl := request.endpointUrl.or row.endpointUrl
  healthUrl := request.healthUrl.or row.healthUrl
  runtimeVersion := request.runtimeVersion.or row.runtimeVersion
  modelName := request.modelName.or row.modelName
  description := request.description.or row.description
  paramsJson := request.paramsJson.or row.paramsJson

def offlineMessage : String := "Agent offline, cannot check instance status"

/-- An update writes the columns as the request and the row that it has read make them. -/
def UpdatesFrom (seen : Option ModelInstance) (id : String) (request : ModelInstanceUpdateRequest) :
    Stmt → Prop
  | .updateLocalInstance id' update _ =>
      id' = id ∧ ∃ row, seen = some row ∧ update = row.localUpdate request
  | .updateExternalInstance id' update _ =>
      id' = id ∧ ∃ row, seen = some row ∧ update = row.externalUpdate request
  | stmt => stmt.write = none

/-- The check of a local instance with an offline agent writes the status that it has read. -/
def ChecksFrom (seen : Option ModelInstance) (id : String) (stmt : Stmt) : Prop :=
  ∀ id' status now, stmt = .updateInstanceCheck id' status (some offlineMessage) now →
    ∀ row, seen = some row → row.deployType ≠ "external" → id' = id ∧ status = row.status

def Request.goesOn (request : Request) (seen : Option ModelInstance) (stmt : Stmt) : Prop :=
  match request with
  | .updateModelInstance id request => UpdatesFrom seen id request stmt
  | .checkModelInstance id _ _ _ => ChecksFrom seen id stmt
  | _ => True

/-! ### The programs -/

section Programs

variable {ok : Stmt → Prop} {α β : Type}

abbrev OnlyStmts (ok : Stmt → Prop) (h : Handler α) : Prop := Fallible.Only ok h

theorem only_query (hselect : ∀ {γ : Type} (q : Db → γ), ok (.select q)) (q : Db → β) :
    OnlyStmts ok (query q) := Fallible.only_perform (hselect q)

theorem only_required' (e : DomainError) (value : Option β) : OnlyStmts ok (required e value) := by
  cases value <;> trivial

theorem only_checked' (value : Except DomainError β) : OnlyStmts ok (checked value) := by
  cases value <;> trivial

theorem only_of_uses {writes : List Write} {h : Handler α} (huses : Uses writes h)
    (hok : ∀ stmt : Stmt, stmt.Among writes → ok stmt) : OnlyStmts ok h :=
  Program.Performs.mono hok huses

theorem only_modelInstance (hselect : ∀ {γ : Type} (q : Db → γ), ok (.select q)) (id : String) :
    OnlyStmts ok (modelInstance id) := by
  refine Fallible.only_bind (only_query hselect _) fun row => ?_
  refine Fallible.only_bind (only_required' _ row) fun row => ?_
  exact Fallible.only_bind (only_query hselect _) fun now => Fallible.only_pure _

/-- What follows the read of an instance sees the row, joined. -/
theorem only_after_modelInstance (ok : Stmt → Prop) (hselect : ∀ {γ : Type} (q : Db → γ), ok (.select q))
    {id : String} {f : ModelInstanceView → Handler β} (db : Db)
    (hf : ∀ view : ModelInstanceView, db.modelInstances.find? id = some view.toModelInstance →
      OnlyStmts ok (f view)) :
    OnlyStmts ok
      ((do
        let row ← required (.notFound "model instance not found")
          ((db.modelInstances.find? id).map (joinModelInstance db))
        modelInstanceFromRow row) >>= f) := by
  cases hfind : db.modelInstances.find? id with
  | none => trivial
  | some row =>
      refine ⟨hselect _, fun now => hf _ ?_⟩
      rw [hfind]
      rfl

end Programs

/-! ### After the first read -/

theorem goesOn_update (deps : External) (id : String) (request : ModelInstanceUpdateRequest)
    (current : ModelInstanceView) (seen : Option ModelInstance) (hseen : seen = some current.toModelInstance) :
    OnlyStmts (UpdatesFrom seen id request)
      (if busyStatus current.status && request.isConfigChange then
        throw (.conflict "Cannot modify a running instance. Stop it first.")
      else if current.deployType = "local" then updateLocalModelInstance deps id request current
      else updateExternalModelInstance deps id request current) := by
  have hselect : ∀ {γ : Type} (q : Db → γ), UpdatesFrom seen id request (.select q) := fun _ => rfl
  by_cases hbusy : (busyStatus current.status && request.isConfigChange) = true
  · rw [if_pos hbusy]
    exact Fallible.only_throw _
  · rw [if_neg hbusy]
    by_cases hlocal : current.deployType = "local"
    · rw [if_pos hlocal]
      refine Fallible.only_bind (only_checked' _) fun _ => Fallible.only_bind (only_checked' _) fun _ => ?_
      refine Fallible.only_bind (only_query hselect _) fun now => ?_
      refine Fallible.only_bind (Fallible.only_perform ?_) fun _ => only_modelInstance hselect id
      exact ⟨rfl, current.toModelInstance, hseen, rfl⟩
    · rw [if_neg hlocal]
      refine Fallible.only_bind (only_checked' _) fun _ => Fallible.only_bind (only_checked' _) fun _ => ?_
      refine Fallible.only_bind (only_checked' _) fun _ => Fallible.only_bind (only_checked' _) fun _ => ?_
      refine Fallible.only_bind (only_checked' _) fun _ => Fallible.only_bind (only_checked' _) fun _ => ?_
      refine Fallible.only_bind (only_checked' _) fun _ => ?_
      refine Fallible.only_bind (only_query hselect _) fun now => ?_
      refine Fallible.only_bind (Fallible.only_perform ?_) fun _ => only_modelInstance hselect id
      exact ⟨rfl, current.toModelInstance, hseen, rfl⟩

/-- A statement other than the write of an offline check is none of the check's concern. -/
theorem checksFrom_of_ne {seen : Option ModelInstance} {id : String} {stmt : Stmt}
    (hne : ∀ id' status now, stmt ≠ .updateInstanceCheck id' status (some offlineMessage) now) :
    ChecksFrom seen id stmt := fun id' status now heq => absurd heq (hne id' status now)

theorem checksFrom_select {seen : Option ModelInstance} {id : String} {γ : Type} (q : Db → γ) :
    ChecksFrom seen id (.select q) := by
  apply checksFrom_of_ne
  intro id' status now heq
  cases heq

theorem only_updateInstanceCheck {seen : Option ModelInstance} {id : String} {status : String}
    {error : Option String} (hcheck : ∀ now, ChecksFrom seen id (.updateInstanceCheck id status error now)) :
    OnlyStmts (ChecksFrom seen id) (updateInstanceCheck id status error) := by
  refine Fallible.only_bind (only_query checksFrom_select _) fun now => ?_
  exact Fallible.only_bind (Fallible.only_perform (hcheck now)) fun _ => only_modelInstance checksFrom_select id

theorem goesOn_enqueue (deps : External) (seen : Option ModelInstance) (id : String) (kind : TaskKind)
    (pendingStatus taskId : String) :
    OnlyStmts (ChecksFrom seen id) (enqueueLocalInstanceTask deps id kind pendingStatus taskId) := by
  have huses : Uses [.enqueueInstanceTask]
      (enqueueLocalInstanceTask deps id kind pendingStatus taskId) :=
    uses_enqueueLocalInstanceTask (by decide) _ _ _ _ _
  refine only_of_uses huses fun stmt hamong => checksFrom_of_ne fun id' status now heq => ?_
  rw [heq] at hamong
  exact absurd (hamong _ rfl) (by decide)

theorem goesOn_wait (seen : Option ModelInstance) (id taskId : String) (rounds : Nat) :
    OnlyStmts (ChecksFrom seen id) (waitForModelInstanceTask id taskId rounds) := by
  have hmark : OnlyStmts (ChecksFrom seen id) (markTaskTimedOut taskId) := by
    refine Fallible.only_bind (only_query checksFrom_select _) fun now => Fallible.only_perform ?_
    apply checksFrom_of_ne
    intro id' status now' heq
    cases heq
  have hdeadline : OnlyStmts (ChecksFrom seen id) (instanceTaskDeadline id taskId) := by
    refine Fallible.only_bind hmark fun _ => ?_
    refine Fallible.only_bind (only_updateInstanceCheck fun now => ?_) fun _ => Fallible.only_throw _
    apply checksFrom_of_ne
    intro id' status now' heq
    have herror := (Stmt.updateInstanceCheck.inj heq).2.2.1
    exact absurd herror (by decide)
  have hended : ∀ task outcome, instanceTaskEnded id task = some outcome →
      OnlyStmts (ChecksFrom seen id) outcome := by
    intro task outcome houtcome
    unfold instanceTaskEnded at houtcome
    split at houtcome
    · rw [← Option.some.inj houtcome]
      exact only_modelInstance checksFrom_select id
    · rw [← Option.some.inj houtcome]
      exact Fallible.only_throw _
    · rw [← Option.some.inj houtcome]
      exact Fallible.only_throw _
    · cases houtcome
  unfold waitForModelInstanceTask
  induction rounds with
  | zero =>
      refine Fallible.only_bind (only_query checksFrom_select _) fun row => ?_
      refine Fallible.only_bind (only_required' _ row) fun task => ?_
      split
      · exact hended task _ ‹_›
      · exact hdeadline
  | succ rounds ih =>
      refine Fallible.only_bind (only_query checksFrom_select _) fun row => ?_
      refine Fallible.only_bind (only_required' _ row) fun task => ?_
      split
      · exact hended task _ ‹_›
      · exact ih

theorem goesOn_check (deps : External) (id taskId : String) (http : HttpOutcome)
    (row : ModelInstanceView) (seen : Option ModelInstance) (hseen : seen = some row.toModelInstance) :
    OnlyStmts (ChecksFrom seen id)
      (if row.deployType ≠ "external" then
        if row.status ≠ "running" && row.backend ≠ "ollama" then pure (some row)
        else do
          let nodeId ← required (.badRequest "Local instance missing node") row.nodeId
          if ← nodeOnline nodeId then
            enqueueLocalInstanceTask deps id .checkModelInstance "running" taskId
            pure none
          else do
            let view ← updateInstanceCheck id row.status (some offlineMessage)
            pure (some view)
      else do
        let view ← checkExternalInstance row id http
        pure (some view)) := by
  by_cases hexternal : row.deployType ≠ "external"
  · rw [if_pos hexternal]
    split
    · exact Fallible.only_pure _
    · refine Fallible.only_bind (only_required' _ _) fun nodeId => ?_
      have honline : OnlyStmts (ChecksFrom seen id) (nodeOnline nodeId) := by
        have huses : Uses [] (nodeOnline nodeId) := uses_nodeOnline nodeId
        refine only_of_uses huses fun stmt hamong => ?_
        apply checksFrom_of_ne
        rintro id' status now rfl
        exact absurd (hamong _ rfl) (by decide)
      refine Fallible.only_bind honline fun online => ?_
      split
      · exact Fallible.only_bind (goesOn_enqueue deps seen id _ _ _) fun _ => Fallible.only_pure _
      · refine Fallible.only_bind (only_updateInstanceCheck fun now => ?_) fun _ => Fallible.only_pure _
        intro id' status now' heq row' hrow' _
        obtain ⟨rfl, rfl, -, -⟩ := Stmt.updateInstanceCheck.inj heq
        rw [hseen] at hrow'
        rw [← Option.some.inj hrow']
        exact ⟨rfl, rfl⟩
  · rw [if_neg hexternal]
    -- Of an external instance the check writes the status that it has found.
    have hnone : ∀ stmt, ChecksFrom seen id stmt := by
      intro stmt id' status now heq row' hrow' hlocal
      rw [hseen] at hrow'
      rw [← Option.some.inj hrow'] at hlocal
      exact absurd hlocal hexternal
    exact (Fallible.only_true _).mono fun stmt _ => hnone stmt

/-- The read that a request begins with. -/
abbrev selectInstance (id : String) : Stmt :=
  .select fun db => (db.modelInstances.find? id).map (joinModelInstance db)

theorem handle_update (deps : External) (id : String) (request : ModelInstanceUpdateRequest) :
    ∃ next, (server deps).handle (.updateModelInstance id request) = .call (selectInstance id) next ∧
      ∀ db, (next ((selectInstance id).exec db).1).Performs
        (UpdatesFrom (db.modelInstances.find? id) id request) := by
  refine ⟨_, rfl, fun db => ?_⟩
  have hrest := only_after_modelInstance (UpdatesFrom (db.modelInstances.find? id) id request)
    (fun _ => rfl) db fun view hview => goesOn_update deps id request view _ hview
  exact Fallible.only_bind hrest fun _ => Fallible.only_pure Response.other

theorem handle_check (deps : External) (id taskId : String) (http : HttpOutcome) (rounds : Nat) :
    ∃ next, (server deps).handle (.checkModelInstance id taskId http rounds)
        = .call (selectInstance id) next ∧
      ∀ db, (next ((selectInstance id).exec db).1).Performs
        (ChecksFrom (db.modelInstances.find? id) id) := by
  refine ⟨_, rfl, fun db => ?_⟩
  have hrest := only_after_modelInstance (ChecksFrom (db.modelInstances.find? id) id)
    checksFrom_select db fun view hview => goesOn_check deps id taskId http view _ hview
  have hchecked := Fallible.only_bind hrest fun begun : Option ModelInstanceView =>
    (by
      cases begun with
      | none => exact goesOn_wait _ id taskId rounds
      | some view => exact Fallible.only_pure view :
      OnlyStmts (ChecksFrom (db.modelInstances.find? id) id) (finishCheck id taskId rounds begun))
  exact Fallible.only_bind hchecked fun _ => Fallible.only_pure Response.other

theorem goesByFirstRead (deps : External) :
    (server deps).GoesByFirstRead Request.reads Request.goesOn := by
  intro request op next hhandle db
  cases request with
  | updateModelInstance id request =>
      obtain ⟨next', hhandle', hrest⟩ := handle_update deps id request
      rw [hhandle'] at hhandle
      injection hhandle with hop hnext
      subst hop
      obtain rfl := eq_of_heq hnext
      exact hrest db
  | checkModelInstance id taskId http rounds =>
      obtain ⟨next', hhandle', hrest⟩ := handle_check deps id taskId http rounds
      rw [hhandle'] at hhandle
      injection hhandle with hop hnext
      subst hop
      obtain rfl := eq_of_heq hnext
      exact hrest db
  | _ => exact Program.performs_true _

/-! ### What is asked -/

/-- The columns that the request does not set are as before, and so are all that no update sets. -/
structure KeepsUnset (request : ModelInstanceUpdateRequest) (before after : ModelInstance) : Prop where
  name : request.name = none → after.name = before.name
  backend : request.newBackend = none → after.backend = before.backend
  status : request.status = none → after.status = before.status
  baseUrl : request.baseUrl = none → after.baseUrl = before.baseUrl
  endpointUrl : request.endpointUrl = none → after.endpointUrl = before.endpointUrl
  healthUrl : request.healthUrl = none → after.healthUrl = before.healthUrl
  runtimeVersion : request.runtimeVersion = none → after.runtimeVersion = before.runtimeVersion
  modelName : request.modelName = none → after.modelName = before.modelName
  description : request.description = none → after.description = before.description
  paramsJson : request.paramsJson = none → after.paramsJson = before.paramsJson
  others : after = before.updateExternal (after.externalUpdate {}) after.updatedAt

abbrev WatchedServer := ServerConfig × Seen (Option ModelInstance)

/-- No statement of an update changes a column that the request does not set, and the write of a check whose
agent is offline does not change the status. -/
def KeptAt (p : WatchedServer) (e : ServerEvent) : Prop :=
  ∀ (index : Nat) (t : ServerThread) op next, e = .step index → p.1.threads[index]? = some t →
    t.dropped = false → t.rest = .call op next →
      (∀ id request before after, t.request = .updateModelInstance id request →
        p.1.shared.modelInstances.find? id = some before →
          (op.exec p.1.shared).2.modelInstances.find? id = some after →
            KeepsUnset request before after) ∧
      (∀ id taskId http rounds row status now before after,
        t.request = .checkModelInstance id taskId http rounds → p.2 index = some (some row) →
          row.deployType ≠ "external" → op = .updateInstanceCheck id status (some offlineMessage) now →
            p.1.shared.modelInstances.find? id = some before →
              (op.exec p.1.shared).2.modelInstances.find? id = some after →
                after.status = before.status)

/-- When an update writes, the columns that it takes from its copy are in the row as they are in the copy,
and so is the status when an offline check writes. -/
def CopyAsRow (p : WatchedServer) (e : ServerEvent) : Prop :=
  ∀ (index : Nat) (t : ServerThread) op next copy, e = .step index → p.1.threads[index]? = some t →
    t.dropped = false → t.rest = .call op next → p.2 index = some (some copy) →
      (∀ id request update now row, t.request = .updateModelInstance id request →
        op = .updateLocalInstance id update now → p.1.shared.modelInstances.find? id = some row →
          row.localUpdate request = copy.localUpdate request) ∧
      (∀ id request update now row, t.request = .updateModelInstance id request →
        op = .updateExternalInstance id update now → p.1.shared.modelInstances.find? id = some row →
          row.externalUpdate request = copy.externalUpdate request) ∧
      (∀ id taskId http rounds status now row, t.request = .checkModelInstance id taskId http rounds →
        copy.deployType ≠ "external" → op = .updateInstanceCheck id status (some offlineMessage) now →
          p.1.shared.modelInstances.find? id = some row → row.status = copy.status)

theorem getD_unset_iff {β : Type} (value : Option β) (a b : β) :
    (value = none → value.getD a = b) ↔ value.getD b = value.getD a := by
  cases value with
  | none => simp [eq_comm]
  | some set => simp

theorem or_unset_iff {β : Type} (value a b : Option β) :
    (value = none → value.or a = b) ↔ value.or b = value.or a := by
  cases value with
  | none => simp [eq_comm]
  | some set => simp

theorem keepsUnset_refl (request : ModelInstanceUpdateRequest) (row : ModelInstance) :
    KeepsUnset request row row := by
  constructor <;> intros <;> rfl

theorem keepsUnset_updateLocal {request : ModelInstanceUpdateRequest} {row copy : ModelInstance}
    (now : Int) :
    KeepsUnset request row (row.updateLocal (copy.localUpdate request) now) ↔
      row.localUpdate request = copy.localUpdate request := by
  have hcolumns : row.localUpdate request = copy.localUpdate request ↔
      (request.name = none → request.name.getD copy.name = row.name) ∧
        (request.description = none → request.description.or copy.description = row.description) ∧
        (request.paramsJson = none → request.paramsJson.or copy.paramsJson = row.paramsJson) := by
    rw [getD_unset_iff, or_unset_iff, or_unset_iff]
    simp only [ModelInstance.localUpdate, LocalInstanceUpdate.mk.injEq]
  rw [hcolumns]
  constructor
  · intro h
    exact ⟨h.name, h.description, h.paramsJson⟩
  · rintro ⟨hname, hdescription, hparams⟩
    exact
      { name := hname
        backend := fun _ => rfl
        status := fun _ => rfl
        baseUrl := fun _ => rfl
        endpointUrl := fun _ => rfl
        healthUrl := fun _ => rfl
        runtimeVersion := fun _ => rfl
        modelName := fun _ => rfl
        description := hdescription
        paramsJson := hparams
        others := rfl }

theorem keepsUnset_updateExternal {request : ModelInstanceUpdateRequest} {row copy : ModelInstance}
    (now : Int) :
    KeepsUnset request row (row.updateExternal (copy.externalUpdate request) now) ↔
      row.externalUpdate request = copy.externalUpdate request := by
  have hcolumns : row.externalUpdate request = copy.externalUpdate request ↔
      (request.name = none → request.name.getD copy.name = row.name) ∧
        (request.newBackend = none → request.newBackend.getD copy.backend = row.backend) ∧
        (request.status = none → request.status.getD copy.status = row.status) ∧
        (request.baseUrl = none → request.baseUrl.or copy.baseUrl = row.baseUrl) ∧
        (request.endpointUrl = none → request.endpointUrl.or copy.endpointUrl = row.endpointUrl) ∧
        (request.healthUrl = none → request.healthUrl.or copy.healthUrl = row.healthUrl) ∧
        (request.runtimeVersion = none →
          request.runtimeVersion.or copy.runtimeVersion = row.runtimeVersion) ∧
        (request.modelName = none → request.modelName.or copy.modelName = row.modelName) ∧
        (request.description = none → request.description.or copy.description = row.description) ∧
        (request.paramsJson = none → request.paramsJson.or copy.paramsJson = row.paramsJson) := by
    simp only [getD_unset_iff, or_unset_iff, ModelInstance.externalUpdate,
      ExternalInstanceUpdate.mk.injEq]
  rw [hcolumns]
  constructor
  · intro h
    exact ⟨h.name, h.backend, h.status, h.baseUrl, h.endpointUrl, h.healthUrl, h.runtimeVersion,
      h.modelName, h.description, h.paramsJson⟩
  · rintro ⟨hname, hbackend, hstatus, hbase, hendpoint, hhealth, hversion, hmodel, hdescription, hparams⟩
    exact ⟨hname, hbackend, hstatus, hbase, hendpoint, hhealth, hversion, hmodel, hdescription, hparams, rfl⟩

/-! ### The steps of updates and checks -/

theorem exec_of_read {stmt : Stmt} (hread : stmt.write = none) (db : Db) : (stmt.exec db).2 = db := by
  cases stmt with
  | select q => rfl
  | _ => cases hread

theorem find?_updateLocalInstance {db : Db} {id : String} {row : ModelInstance}
    (update : LocalInstanceUpdate) (now : Int) (hrow : db.modelInstances.find? id = some row) :
    ((Stmt.updateLocalInstance id update now).exec db).2.modelInstances.find? id
      = some (row.updateLocal update now) := by
  have hwritten := Table.find?_update_self db.modelInstances id (·.updateLocal update now) fun _ => rfl
  rw [hrow, Option.map_some] at hwritten
  exact hwritten

theorem find?_updateExternalInstance {db : Db} {id : String} {row : ModelInstance}
    (update : ExternalInstanceUpdate) (now : Int) (hrow : db.modelInstances.find? id = some row) :
    ((Stmt.updateExternalInstance id update now).exec db).2.modelInstances.find? id
      = some (row.updateExternal update now) := by
  have hwritten := Table.find?_update_self db.modelInstances id (·.updateExternal update now) fun _ => rfl
  rw [hrow, Option.map_some] at hwritten
  exact hwritten

theorem find?_updateInstanceCheck {db : Db} {id : String} {row : ModelInstance} (status : String)
    (error : Option String) (now : Int) (hrow : db.modelInstances.find? id = some row) :
    ((Stmt.updateInstanceCheck id status error now).exec db).2.modelInstances.find? id
      = some (row.check status error now) := by
  have hwritten := Table.find?_update_self db.modelInstances id (·.check status error now) fun _ => rfl
  rw [hrow, Option.map_some] at hwritten
  exact hwritten

/-- A step of an update reads, or it writes what its copy and the request make. -/
theorem update_step {deps : External} {seen : Seen (Option ModelInstance)} {c : ServerConfig}
    (hinformed : (server deps).Informed Request.goesOn seen c) {index : Nat} {t : ServerThread} {op : Stmt}
    {next : op.Answer → Program Stmt Stmt.Answer Outcome} (hget : c.threads[index]? = some t)
    (hrest : t.rest = .call op next) {id : String} {request : ModelInstanceUpdateRequest}
    (hrequest : t.request = .updateModelInstance id request) :
    op.write = none ∨ ∃ copy now, seen index = some (some copy) ∧
      (op = .updateLocalInstance id (copy.localUpdate request) now ∨
        op = .updateExternalInstance id (copy.externalUpdate request) now) := by
  rcases hinformed.performs hget hrest with hhandle | ⟨value, hvalue, hgoes⟩
  · obtain ⟨next', hhandle', -⟩ := handle_update deps id request
    rw [hrequest, hhandle'] at hhandle
    injection hhandle with hop
    left
    rw [← hop]
    rfl
  · rw [hrequest] at hgoes
    change UpdatesFrom value id request op at hgoes
    cases op with
    | updateLocalInstance id' update now =>
        obtain ⟨rfl, copy, rfl, rfl⟩ := hgoes
        exact Or.inr ⟨copy, now, hvalue, Or.inl rfl⟩
    | updateExternalInstance id' update now =>
        obtain ⟨rfl, copy, rfl, rfl⟩ := hgoes
        exact Or.inr ⟨copy, now, hvalue, Or.inr rfl⟩
    | _ => exact Or.inl hgoes

/-- The write of an offline check takes the status from the copy. -/
theorem check_step {deps : External} {seen : Seen (Option ModelInstance)} {c : ServerConfig}
    (hinformed : (server deps).Informed Request.goesOn seen c) {index : Nat} {t : ServerThread}
    {id taskId id' status : String} {http : HttpOutcome} {rounds : Nat} {now : Int} {copy : ModelInstance}
    {next : Unit → Program Stmt Stmt.Answer Outcome} (hget : c.threads[index]? = some t)
    (hrest : t.rest = .call (.updateInstanceCheck id' status (some offlineMessage) now) next)
    (hrequest : t.request = .checkModelInstance id taskId http rounds)
    (hcopy : seen index = some (some copy)) (hlocal : copy.deployType ≠ "external") :
    id' = id ∧ status = copy.status := by
  rcases hinformed.performs hget hrest with hhandle | ⟨value, hvalue, hgoes⟩
  · obtain ⟨next', hhandle', -⟩ := handle_check deps id taskId http rounds
    rw [hrequest, hhandle'] at hhandle
    injection hhandle with hop
    cases hop
  · rw [hcopy] at hvalue
    rw [hrequest, ← Option.some.inj hvalue] at hgoes
    exact hgoes id' status now rfl copy rfl hlocal

theorem copyAsRow_of_keptAt {deps : External} {p : WatchedServer} {e : ServerEvent}
    (hinformed : (server deps).Informed Request.goesOn p.2 p.1) (hkept : KeptAt p e) : CopyAsRow p e := by
  intro index t op next copy hevent hget hlive hrest hcopy
  obtain ⟨hupdate, hcheck⟩ := hkept index t op next hevent hget hlive hrest
  -- The copy of an update is the one that it writes from.
  have hsame {copy' : ModelInstance} (hcopy' : p.2 index = some (some copy')) : copy' = copy := by
    rw [hcopy] at hcopy'
    exact (Option.some.inj (Option.some.inj hcopy')).symm
  refine ⟨?_, ?_, ?_⟩
  · intro id request update now row hrequest hop hrow
    subst hop
    rcases update_step hinformed hget hrest hrequest with hread | ⟨copy', now', hcopy', hop | hop⟩
    · cases hread
    · obtain ⟨-, rfl, rfl⟩ := Stmt.updateLocalInstance.inj hop
      rw [hsame hcopy'] at hupdate
      have hafter := find?_updateLocalInstance (copy.localUpdate request) now hrow
      exact (keepsUnset_updateLocal now).mp (hupdate id request row _ hrequest hrow hafter)
    · cases hop
  · intro id request update now row hrequest hop hrow
    subst hop
    rcases update_step hinformed hget hrest hrequest with hread | ⟨copy', now', hcopy', hop | hop⟩
    · cases hread
    · cases hop
    · obtain ⟨-, rfl, rfl⟩ := Stmt.updateExternalInstance.inj hop
      rw [hsame hcopy'] at hupdate
      have hafter := find?_updateExternalInstance (copy.externalUpdate request) now hrow
      exact (keepsUnset_updateExternal now).mp (hupdate id request row _ hrequest hrow hafter)
  · intro id taskId http rounds status now row hrequest hlocal hop hrow
    have hstep := hcheck id taskId http rounds copy status now row
      (row.check status (some offlineMessage) now) hrequest hcopy hlocal hop hrow
    subst hop
    have hstatus := (check_step hinformed hget hrest hrequest hcopy hlocal).2
    have hafter := hstep (find?_updateInstanceCheck status (some offlineMessage) now hrow)
    rw [← hstatus]
    exact hafter.symm

theorem keptAt_of_copyAsRow {deps : External} {p : WatchedServer} {e : ServerEvent}
    (hinformed : (server deps).Informed Request.goesOn p.2 p.1) (hcopies : CopyAsRow p e) : KeptAt p e := by
  intro index t op next hevent hget hlive hrest
  constructor
  · intro id request before after hrequest hbefore hafter
    rcases update_step hinformed hget hrest hrequest with hread | ⟨copy, now, hcopy, hop | hop⟩
    · rw [exec_of_read hread, hbefore] at hafter
      rw [Option.some.inj hafter]
      exact keepsUnset_refl request after
    · obtain ⟨hlocal, -, -⟩ := hcopies index t op next copy hevent hget hlive hrest hcopy
      have hcolumns := hlocal id request _ now before hrequest hop hbefore
      subst hop
      rw [find?_updateLocalInstance _ now hbefore] at hafter
      rw [← Option.some.inj hafter]
      exact (keepsUnset_updateLocal now).mpr hcolumns
    · obtain ⟨-, hexternal, -⟩ := hcopies index t op next copy hevent hget hlive hrest hcopy
      have hcolumns := hexternal id request _ now before hrequest hop hbefore
      subst hop
      rw [find?_updateExternalInstance _ now hbefore] at hafter
      rw [← Option.some.inj hafter]
      exact (keepsUnset_updateExternal now).mpr hcolumns
  · intro id taskId http rounds copy status now before after hrequest hcopy hlocal hop hbefore hafter
    obtain ⟨-, -, hcheck⟩ := hcopies index t op next copy hevent hget hlive hrest hcopy
    have hrow := hcheck id taskId http rounds status now before hrequest hlocal hop hbefore
    subst hop
    have hstatus := (check_step hinformed hget hrest hrequest hcopy hlocal).2
    rw [find?_updateInstanceCheck status _ now hbefore] at hafter
    rw [← Option.some.inj hafter, hrow, ← hstatus]
    rfl

/-- The server with what its requests have read of the instances. -/
def watchedStep (deps : External) : WatchedServer → ServerEvent → WatchedServer :=
  Trace.withHistory (server deps).apply (System.noteRead Request.reads)

/-- In a run no write of an update or of an offline check undoes what another operation wrote, exactly if at
each of them the copied columns are in the row as they are in the copy. -/
theorem partial_updates_iff (deps : External) (db : Db) (events : List ServerEvent) :
    Trace.Along (watchedStep deps) KeptAt (⟨db, []⟩, fun _ => none) events ↔
      Trace.Along (watchedStep deps) CopyAsRow (⟨db, []⟩, fun _ => none) events := by
  apply Trace.Along.congr
  refine System.along_informed (goesByFirstRead deps) ?_ db _ events
  intro p e hinformed
  exact ⟨copyAsRow_of_keptAt hinformed, keptAt_of_copyAsRow hinformed⟩

/-! ### Two updates of different columns -/

def stoppedInstance : ModelInstance where
  id := "i"
  name := "old"
  backend := "vllm"
  deployType := "local"
  status := "stopped"
  createdAt := 0
  updatedAt := 0

def renamed : ModelInstanceUpdateRequest := { name := some "new" }

def described : ModelInstanceUpdateRequest := { description := some "text" }

/-- Both updates have read the row before either writes. -/
def crossedUpdates : List ServerEvent :=
  [.spawn (.updateModelInstance "i" renamed), .spawn (.updateModelInstance "i" described), .step 0, .step 0,
    .step 0, .step 1, .step 1, .step 1, .step 0, .step 1]

def oneInstance : Db where
  clock := 1000
  modelInstances := ⟨[stoppedInstance], by decide⟩

theorem name_written_back :
    ¬ Trace.Along (watchedStep noExternal) KeptAt (⟨oneInstance, []⟩, fun _ => none) crossedUpdates := by
  intro hkept
  have hlast := hkept.2.2.2.2.2.2.2.2.2.1
  have hunset := (hlast 1 _ _ _ rfl rfl rfl rfl).1 "i" described
    (stoppedInstance.updateLocal (stoppedInstance.localUpdate renamed) 1000)
    ((stoppedInstance.updateLocal (stoppedInstance.localUpdate renamed) 1000).updateLocal
      (stoppedInstance.localUpdate described) 1000) rfl rfl rfl
  exact absurd (hunset.name rfl) (by decide)

end LightAI.Server
