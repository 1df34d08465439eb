import LightAI.Server.Literals

/-!
# The states of a trash item

An item is marked with the time at which its file was deleted in the same statement that makes it
`cleaned`. The statements that put an item into another state (a cleanup that is requested, polled, failed
or timed out) look neither at the mark nor at the state they replace.
-/

namespace LightAI.Server

open Interleaving

/-- What a statement does to a trash item that exists and goes on existing. -/
def Stmt.onTrash : Stmt → ModelFileTrash → ModelFileTrash
  | setTrashCleanupRunning trashId now, item =>
      if item.id = trashId then item.cleanupRunning now else item
  | setTrashCleanupPending trashId taskId now, item =>
      if item.id = trashId then item.cleanupPending taskId now else item
  | updateTrashFailure trashId status message now, item =>
      if item.id = trashId then item.failure status message now else item
  | recordResult selected status result now, item =>
      if selected.entity = some (.trash item.id) then item.cleanedUp status result now else item
  | _, item => item

/-- The item that a statement puts into a state other than `cleaned`. -/
def Stmt.unsettles : Stmt → Option String
  | setTrashCleanupRunning trashId _ | setTrashCleanupPending trashId _ _
  | updateTrashFailure trashId _ _ _ => some trashId
  | recordResult selected .failed _ _ =>
      match selected.entity with
      | some (.trash trashId) => some trashId
      | _ => none
  | _ => none

/-! ### What a statement does to the items -/

/-- The items after a statement: one is inserted, one is deleted, or each is changed on its own. -/
theorem modelFileTrash_exec (stmt : Stmt) (db : Db) :
    (∃ item, stmt = .insertTrash item ∧
        db.modelFileTrash.insert? item = some (stmt.exec db).2.modelFileTrash) ∨
    (∃ trashId, stmt = .deleteTrash trashId ∧
        (stmt.exec db).2.modelFileTrash = db.modelFileTrash.delete trashId) ∨
    ∀ id, (stmt.exec db).2.modelFileTrash.find? id = (db.modelFileTrash.find? id).map stmt.onTrash := by
  have hkeep : ∀ {table : Table String ModelFileTrash ModelFileTrash.id},
      table = db.modelFileTrash →
      ∀ id, table.find? id = (db.modelFileTrash.find? id).map fun item => item := by
    rintro table rfl id
    simp
  have hupdate : ∀ (trashId : String) (f : ModelFileTrash → ModelFileTrash)
      (hf : ∀ item, (f item).id = item.id) (id : String),
      (db.modelFileTrash.update trashId f hf).find? id
        = (db.modelFileTrash.find? id).map fun item => if item.id = trashId then f item else item := by
    intro trashId f hf id
    rw [Table.update, Table.find?_updateWhere]
    simp
  have hinsert : ∀ {κ ρ : Type} [DecidableEq κ] {key : ρ → κ} (allowed : Bool)
      (table : Table κ ρ key) (row : ρ) {commit : Table κ ρ key → Db},
      (∀ table', (commit table').modelFileTrash = db.modelFileTrash) →
      (insertRow db allowed table row commit).2.modelFileTrash = db.modelFileTrash :=
    fun allowed table row _ hcommit =>
      insertRow_projection Db.modelFileTrash db allowed table row hcommit
  cases stmt with
  | insertTrash item =>
      simp only [Stmt.exec, insertRow]
      split
      · cases hresult : db.modelFileTrash.insert? item with
        | none => exact .inr (.inr (hkeep rfl))
        | some table' => exact .inl ⟨item, rfl, hresult⟩
      · exact .inr (.inr (hkeep rfl))
  | deleteTrash trashId => exact .inr (.inl ⟨trashId, rfl, rfl⟩)
  | setTrashCleanupRunning trashId now =>
      exact .inr (.inr (hupdate trashId (·.cleanupRunning now) fun _ => rfl))
  | setTrashCleanupPending trashId taskId now =>
      exact .inr (.inr (hupdate trashId (·.cleanupPending taskId now) fun _ => rfl))
  | updateTrashFailure trashId status message now =>
      exact .inr (.inr (hupdate trashId (·.failure status message now) fun _ => rfl))
  | recordResult selected status result now =>
      right
      right
      intro id
      rw [exec_recordResult_modelFileTrash]
      have hchanges : (Stmt.recordResult selected status result now).onTrash = fun item =>
          if selected.entity = some (.trash item.id) then item.cleanedUp status result now
          else item := rfl
      rw [hchanges]
      cases hentity : selected.entity with
      | none => exact hkeep rfl id
      | some entity =>
          cases entity with
          | trash trashId =>
              refine (hupdate trashId (·.cleanedUp status result now)
                (fun item => cleanedUp_id item status result now) id).trans ?_
              congr 1
              funext item
              by_cases hid : item.id = trashId
              · rw [if_pos hid, if_pos (by rw [hid])]
              · rw [if_neg hid, if_neg]
                rintro heq
                exact hid (Entity.trash.inj (Option.some.inj heq)).symm
          | file fileId => exact hkeep rfl id
          | «instance» instanceId => exact hkeep rfl id
  | insertAgentTask task => exact .inr (.inr (hkeep (hinsert _ _ _ fun _ => rfl)))
  | enqueueInstanceTask task => exact .inr (.inr (hkeep (hinsert _ _ _ fun _ => rfl)))
  | enqueueFileVerification task => exact .inr (.inr (hkeep (hinsert _ _ _ fun _ => rfl)))
  | insertModelFile file => exact .inr (.inr (hkeep (hinsert _ _ _ fun _ => rfl)))
  | insertModelInstance row => exact .inr (.inr (hkeep (hinsert _ _ _ fun _ => rfl)))
  | insertRuntime row => exact .inr (.inr (hkeep (hinsert _ _ _ fun _ => rfl)))
  | deleteRuntime runtimeId =>
      refine .inr (.inr (hkeep ?_))
      simp only [Stmt.exec]
      split <;> rfl
  | recordHeartbeat request now =>
      refine .inr (.inr (hkeep ?_))
      simp only [Stmt.exec]
      split <;> rfl
  | _ => exact .inr (.inr (hkeep rfl))

@[simp]
theorem onTrash_id (stmt : Stmt) (item : ModelFileTrash) : (stmt.onTrash item).id = item.id := by
  cases stmt <;> simp only [Stmt.onTrash] <;> split <;> first
    | rfl
    | exact cleanedUp_id item _ _ _

/-- No statement takes the mark away. -/
theorem fileDeletedAt_onTrash (stmt : Stmt) {item : ModelFileTrash}
    (h : item.fileDeletedAt.isSome = true) : (stmt.onTrash item).fileDeletedAt.isSome = true := by
  cases stmt with
  | recordResult selected status result now =>
      simp only [Stmt.onTrash]
      split
      · unfold ModelFileTrash.cleanedUp
        split
        · rfl
        · exact h
      · exact h
  | setTrashCleanupRunning trashId now =>
      simp only [Stmt.onTrash]
      split <;> exact h
  | setTrashCleanupPending trashId taskId now =>
      simp only [Stmt.onTrash]
      split <;> exact h
  | updateTrashFailure trashId status message now =>
      simp only [Stmt.onTrash]
      split <;> exact h
  | _ => exact h

/-- An item that is there after a statement was there before, or is the one that is inserted. -/
theorem find?_trash_exec {stmt : Stmt} {db : Db} {id : String} {item' : ModelFileTrash}
    (hafter : (stmt.exec db).2.modelFileTrash.find? id = some item') :
    (∃ item, db.modelFileTrash.find? id = some item ∧ item' = stmt.onTrash item) ∨
      (stmt = .insertTrash item' ∧ db.modelFileTrash.find? id = none) := by
  rcases modelFileTrash_exec stmt db with ⟨new, rfl, hinsert⟩ | ⟨trashId, rfl, hdelete⟩ | heach
  · rw [Table.find?_insert? hinsert] at hafter
    split at hafter
    · rename_i hid
      obtain rfl := Option.some.inj hafter
      refine .inr ⟨rfl, ?_⟩
      rw [hid]
      exact Table.insert?_fresh hinsert
    · exact .inl ⟨item', hafter, rfl⟩
  · rw [hdelete, Table.find?_delete] at hafter
    split at hafter
    · cases hafter
    · exact .inl ⟨item', hafter, rfl⟩
  · rw [heach] at hafter
    obtain ⟨item, hitem, hsame⟩ := Option.map_eq_some_iff.mp hafter
    exact .inl ⟨item, hitem, hsame.symm⟩

/-- Only the deletion of an item takes it away. -/
theorem find?_trash_exec_of_some {stmt : Stmt} {db : Db} {id : String} {item : ModelFileTrash}
    (hitem : db.modelFileTrash.find? id = some item) (hkept : stmt ≠ .deleteTrash id) :
    (stmt.exec db).2.modelFileTrash.find? id = some (stmt.onTrash item) := by
  rcases modelFileTrash_exec stmt db with ⟨new, rfl, hinsert⟩ | ⟨trashId, rfl, hdelete⟩ | heach
  · have hne : id ≠ new.id := by
      rintro rfl
      rw [Table.insert?_fresh hinsert] at hitem
      cases hitem
    rw [Table.find?_insert? hinsert, if_neg hne, hitem]
    rfl
  · have hne : id ≠ trashId := by
      rintro rfl
      exact hkept rfl
    rw [hdelete, Table.find?_delete, if_neg hne, hitem]
    rfl
  · rw [heach, hitem]
    rfl

/-! ### The mark and the state -/

/-- The item is marked as deleted exactly if it is `cleaned`. -/
def ModelFileTrash.Agrees (item : ModelFileTrash) : Prop :=
  item.fileDeletedAt.isSome = true ↔ item.status = .cleaned

def TrashAgrees (db : Db) : Prop :=
  ∀ id item, db.modelFileTrash.find? id = some item → item.Agrees

/-- A write on an item keeps the mark in agreement with the state exactly if it does not unsettle an
item that is marked. -/
theorem agrees_onTrash_iff {stmt : Stmt} (hliteral : stmt.Literal) {item : ModelFileTrash}
    (hitem : item.Agrees) :
    (stmt.onTrash item).Agrees ↔ (stmt.unsettles = some item.id → item.fileDeletedAt = none) := by
  have hwrite : ∀ (trashId : String) (item' : ModelFileTrash),
      item'.fileDeletedAt = item.fileDeletedAt → item'.status ≠ .cleaned →
      ((if item.id = trashId then item' else item).Agrees ↔
        (some trashId = some item.id → item.fileDeletedAt = none)) := by
    intro trashId item' hmark hstatus
    by_cases hid : item.id = trashId
    · simp [hid, ModelFileTrash.Agrees, hmark, hstatus]
    · have hne : ¬ trashId = item.id := fun heq => hid heq.symm
      simp [hid, hne, hitem]
  cases stmt with
  | setTrashCleanupRunning trashId now =>
      exact hwrite trashId _ rfl (by simp [ModelFileTrash.cleanupRunning])
  | setTrashCleanupPending trashId taskId now =>
      exact hwrite trashId _ rfl (by simp [ModelFileTrash.cleanupPending])
  | updateTrashFailure trashId status message now =>
      refine hwrite trashId _ rfl ?_
      rcases hliteral with rfl | rfl <;> simp [ModelFileTrash.failure]
  | recordResult selected status result now =>
      simp only [Stmt.onTrash]
      by_cases hentity : selected.entity = some (.trash item.id)
      · cases status with
        | succeeded =>
            simp [hentity, Stmt.unsettles, ModelFileTrash.Agrees, ModelFileTrash.cleanedUp]
        | failed =>
            simp [hentity, Stmt.unsettles, ModelFileTrash.Agrees, ModelFileTrash.cleanedUp,
              ModelFileTrash.failure]
      · rw [if_neg hentity]
        refine iff_of_true hitem fun hunsettles => ?_
        exfalso
        cases status with
        | succeeded => cases hunsettles
        | failed =>
            simp only [Stmt.unsettles] at hunsettles
            split at hunsettles
            · rename_i trashId htarget
              rw [htarget, Option.some.inj hunsettles] at hentity
              exact hentity rfl
            · cases hunsettles
  | _ => exact iff_of_true hitem fun hunsettles => by cases hunsettles

/-! ### Every run -/

/-- A statement that unsettles an item does so before the item is marked. -/
def UnsettlesUnmarked (c : ServerConfig) (e : ServerEvent) : Prop :=
  ∀ t stmt id, System.performed c e = some (t, stmt) → stmt.unsettles = some id →
    ∀ item, c.shared.modelFileTrash.find? id = some item → item.fileDeletedAt = none

/-- No statement unsettles an item that it cannot find. -/
theorem unsettles_ne_deleteTrash {stmt : Stmt} {id : String} (h : stmt.unsettles = some id)
    (trashId : String) : stmt ≠ .deleteTrash trashId := by
  rintro rfl
  cases h

theorem trashAgrees_exec_iff {stmt : Stmt} {db : Db} (hliteral : stmt.Literal)
    (hdb : TrashAgrees db) :
    TrashAgrees (stmt.exec db).2 ↔ ∀ id, stmt.unsettles = some id →
      ∀ item, db.modelFileTrash.find? id = some item → item.fileDeletedAt = none := by
  constructor
  · intro hafter id hunsettles item hitem
    have hid : item.id = id := Table.find?_key hitem
    have hkept := find?_trash_exec_of_some hitem (unsettles_ne_deleteTrash hunsettles id)
    refine (agrees_onTrash_iff hliteral (hdb id item hitem)).mp (hafter id _ hkept) ?_
    rw [hid, hunsettles]
  · intro hunmarked id item' hitem'
    rcases find?_trash_exec hitem' with ⟨item, hitem, rfl⟩ | ⟨rfl, -⟩
    · have hid : item.id = id := Table.find?_key hitem
      refine (agrees_onTrash_iff hliteral (hdb id item hitem)).mpr fun hunsettles => ?_
      exact hunmarked id (by rw [hunsettles, hid]) item hitem
    · obtain ⟨hstatus, hmark⟩ := hliteral
      simp [ModelFileTrash.Agrees, hstatus, hmark]

theorem allLiteral_apply (deps : External) (c : ServerConfig) (e : ServerEvent)
    (h : System.AllPerform Stmt.Literal c) :
    System.AllPerform Stmt.Literal ((server deps).apply c e) :=
  System.allPerform_apply (M := server deps) (fun request => literal_handler deps request) c e h

theorem trashAgrees_apply_iff (deps : External) {c : ServerConfig} {e : ServerEvent}
    (hliteral : System.AllPerform Stmt.Literal c) (hc : TrashAgrees c.shared) :
    TrashAgrees ((server deps).apply c e).shared ↔ UnsettlesUnmarked c e := by
  rcases System.apply_shared (M := server deps) c e with ⟨t, stmt, hperf, heq⟩ |
    ⟨hnone, action, heq⟩ | ⟨hnone, heq⟩
  · rw [heq]
    refine Iff.trans (trashAgrees_exec_iff (hliteral.performed hperf) hc) ?_
    constructor
    · intro hunmarked t' stmt' id hperf' hunsettles
      obtain ⟨-, rfl⟩ := Prod.mk.inj (Option.some.inj (hperf.symm.trans hperf'))
      exact hunmarked id hunsettles
    · intro hunmarked id hunsettles
      exact hunmarked t stmt id hperf hunsettles
  · have hsame : (action.act c.shared).modelFileTrash = c.shared.modelFileTrash := by
      cases action <;> rfl
    rw [heq]
    refine iff_of_true (fun id item hitem => ?_) fun t stmt id hperf => ?_
    · exact hc id item (by rw [← hsame]; exact hitem)
    · rw [hnone] at hperf
      cases hperf
  · rw [heq]
    refine iff_of_true hc fun t stmt id hperf => ?_
    rw [hnone] at hperf
    cases hperf

/-- A step that unsettles only unmarked items leaves a cleaned item cleaned, if it leaves it there. -/
theorem cleaned_apply (deps : External) {c : ServerConfig} {e : ServerEvent}
    (hliteral : System.AllPerform Stmt.Literal c) (hc : TrashAgrees c.shared)
    (hunmarked : UnsettlesUnmarked c e) (id : String) (item item' : ModelFileTrash)
    (hitem : c.shared.modelFileTrash.find? id = some item) (hcleaned : item.status = .cleaned)
    (hitem' : ((server deps).apply c e).shared.modelFileTrash.find? id = some item') :
    item'.status = .cleaned := by
  have hmarked : item.fileDeletedAt.isSome = true := (hc id item hitem).mpr hcleaned
  have hafter := (trashAgrees_apply_iff deps hliteral hc).mpr hunmarked
  refine (hafter id item' hitem').mp ?_
  rcases System.apply_shared (M := server deps) c e with ⟨t, stmt, hperf, heq⟩ |
    ⟨-, action, heq⟩ | ⟨-, heq⟩
  · rw [heq] at hitem'
    rcases find?_trash_exec hitem' with ⟨before, hbefore, rfl⟩ | ⟨-, hnone⟩
    · obtain rfl : before = item := Option.some.inj (hbefore.symm.trans hitem)
      exact fileDeletedAt_onTrash stmt hmarked
    · rw [hnone] at hitem
      cases hitem
  · have hsame : (action.act c.shared).modelFileTrash = c.shared.modelFileTrash := by
      cases action <;> rfl
    rw [heq] at hitem'
    change (action.act c.shared).modelFileTrash.find? id = some item' at hitem'
    rw [hsame, hitem] at hitem'
    rwa [← Option.some.inj hitem']
  · rw [heq, hitem] at hitem'
    rwa [← Option.some.inj hitem']

/-- From a database whose items are marked as deleted exactly when they are `cleaned` (an empty trash,
say): in a run of the server this stays so in every state, and a cleaned item stays cleaned for as long as
it is there, if and only if no statement of the run puts an item that is already marked into another
state. -/
theorem trash_states_iff (deps : External) {db : Db} (hdb : TrashAgrees db)
    (events : List ServerEvent) :
    (Trace.Always (server deps).apply (fun c => TrashAgrees c.shared) { shared := db } events ∧
      ∀ id, Trace.KeptWhileThere (server deps).apply
        (fun c => c.shared.modelFileTrash.find? id) (fun item => item.status = .cleaned)
        { shared := db } events) ↔
      Trace.Along (server deps).apply UnsettlesUnmarked { shared := db } events := by
  have hliteral : System.AllPerform Stmt.Literal ({ shared := db } : ServerConfig) := by
    intro t ht
    cases ht
  have hagrees : Trace.Always (server deps).apply (fun c => TrashAgrees c.shared) { shared := db }
      events ↔ Trace.Along (server deps).apply UnsettlesUnmarked { shared := db } events :=
    Trace.always_iff_along (allLiteral_apply deps) (fun c e hc => trashAgrees_apply_iff deps hc)
      hliteral hdb
  rw [hagrees]
  refine and_iff_left_of_imp fun halong id => ?_
  apply Trace.keptWhileThere_of_along
  have hboth : Trace.Along (server deps).apply (fun c e =>
      (System.AllPerform Stmt.Literal c ∧ TrashAgrees c.shared) ∧ UnsettlesUnmarked c e)
      { shared := db } events :=
    halong.with_invariant (fun c e hc hunmarked => ⟨allLiteral_apply deps c e hc.1,
      (trashAgrees_apply_iff deps hc.1 hc.2).mpr hunmarked⟩) ⟨hliteral, hdb⟩
  refine hboth.mono fun c e hc item item' hitem hcleaned hitem' => ?_
  exact cleaned_apply deps hc.1.1 hc.1.2 hc.2 id item item' hitem hcleaned hitem'

/-! A file in the trash is cleaned up. Between the two statements with which the request enqueues the task
and marks the item as waiting, the agent polls the task and reports that it has deleted the file. -/

def trashDb : Db :=
  { clock := 1000
    nodes := oneNode
    modelFileTrash :=
      ⟨[ { id := "x"
           nodeId := some "n"
           path := "/models/m"
           status := .pending
           createdAt := 1000
           updatedAt := 1000 } ], by decide⟩ }

def quickCleanupEvents : List ServerEvent :=
  [.spawn (.cleanupModelFileTrash "x" "t" 0)] ++ List.replicate 5 (.step 0)
    ++ [.spawn (.pollAgentTask "n" none [])] ++ List.replicate 12 (.step 1)
    ++ [.spawn (.recordAgentTaskResult "t" { nodeId := "n", status := "succeeded", result := .obj [] })]
    ++ List.replicate 3 (.step 2) ++ [.step 0]

theorem trashAgrees_trashDb : TrashAgrees trashDb := by
  intro id item hitem
  have hrow := Table.find?_mem hitem
  obtain rfl := List.mem_singleton.mp hrow
  simp [ModelFileTrash.Agrees]

theorem trash_states_iff_example :
    (Trace.Always (server noExternal).apply (fun c => TrashAgrees c.shared) { shared := trashDb }
        quickCleanupEvents ∧
      ∀ id, Trace.KeptWhileThere (server noExternal).apply
        (fun c => c.shared.modelFileTrash.find? id) (fun item => item.status = .cleaned)
        { shared := trashDb } quickCleanupEvents) ↔
      Trace.Along (server noExternal).apply UnsettlesUnmarked { shared := trashDb }
        quickCleanupEvents :=
  trash_states_iff noExternal trashAgrees_trashDb quickCleanupEvents

theorem cleaned_item_pending_again :
    ¬ (Trace.Always (server noExternal).apply (fun c => TrashAgrees c.shared) { shared := trashDb }
        quickCleanupEvents ∧
      ∀ id, Trace.KeptWhileThere (server noExternal).apply
        (fun c => c.shared.modelFileTrash.find? id) (fun item => item.status = .cleaned)
        { shared := trashDb } quickCleanupEvents) := by
  rintro ⟨h, -⟩
  have hstates : ((Trace.run (server noExternal).apply { shared := trashDb }
      quickCleanupEvents).shared.modelFileTrash.find? "x").map
        (fun item => (item.status, item.fileDeletedAt.isSome)) = some (.cleanupPending, true) := by
    rfl
  obtain ⟨item, hitem, hstate⟩ := Option.map_eq_some_iff.mp hstates
  obtain ⟨hstatus, hmarked⟩ := Prod.mk.inj hstate
  have hcleaned := (h quickCleanupEvents [] rfl "x" item hitem).mp hmarked
  rw [hstatus] at hcleaned
  cases hcleaned

end LightAI.Server
