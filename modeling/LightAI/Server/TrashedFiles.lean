import LightAI.Server.FileMoves
import LightAI.Server.ModelNames
import LightAI.Server.TrashStates

/-!
# What a deletion puts into the trash

A deletion of a model or of a file puts each file concerned into the trash before it deletes anything. A file
that has an item there already gets no other one, whatever has become of the item and of the file since: the
item may have been cleaned, and the file may have moved.
-/

namespace LightAI.Server

/-- An item that is not yet cleaned. -/
def ModelFileTrash.Uncleaned (item : ModelFileTrash) : Prop :=
  item.fileDeletedAt = none ∧ item.status ≠ .cleaned

/-- An item that is not yet cleaned names the place. -/
def Db.InTrash (db : Db) (nodeId path : String) : Prop :=
  ∃ item ∈ db.modelFileTrash.rows, item.Uncleaned ∧ item.nodeId = some nodeId ∧ item.path = path

/-- There is an item of the file, cleaned or not. -/
def Db.HasItem (db : Db) (fileId : String) : Prop :=
  ∃ item ∈ db.modelFileTrash.rows, item.modelFileId = some fileId

/-- The file is live and at the place. -/
def Db.LiveAt (db : Db) (fileId nodeId path : String) : Prop :=
  ∃ file ∈ db.modelFiles.rows,
    file.id = fileId ∧ file.deletedAt = none ∧ file.nodeId = nodeId ∧ file.path = path

/-- A cleaned item is marked with the time at which its file was deleted. -/
def ModelFileTrash.CleanedMarked (item : ModelFileTrash) : Prop :=
  item.status = .cleaned → item.fileDeletedAt.isSome = true

def CleanedMarked (db : Db) : Prop := ∀ item ∈ db.modelFileTrash.rows, item.CleanedMarked

/-! ### Cleaned items are marked -/

section Marked

variable {db : Db}

theorem onTrash_cleanedMarked {stmt : Stmt} (hliteral : stmt.Literal) {item : ModelFileTrash}
    (hitem : item.CleanedMarked) : (stmt.onTrash item).CleanedMarked := by
  have hother : ∀ (written : Prop) [Decidable written] (item' : ModelFileTrash), item'.status ≠ .cleaned →
      (if written then item' else item).CleanedMarked := by
    intro written _ item' hstatus
    by_cases hwritten : written
    · rw [if_pos hwritten]
      exact fun hcleaned => absurd hcleaned hstatus
    · rw [if_neg hwritten]
      exact hitem
  cases stmt with
  | setTrashCleanupRunning trashId now => exact hother _ _ (by simp [ModelFileTrash.cleanupRunning])
  | setTrashCleanupPending trashId taskId now => exact hother _ _ (by simp [ModelFileTrash.cleanupPending])
  | updateTrashFailure trashId status message now =>
      refine hother _ _ ?_
      rcases hliteral with rfl | rfl
      · simp [ModelFileTrash.failure]
      · simp [ModelFileTrash.failure]
  | recordResult selected status result now =>
      cases status with
      | failed => exact hother _ _ (by simp [ModelFileTrash.cleanedUp, ModelFileTrash.failure])
      | succeeded =>
          simp only [Stmt.onTrash]
          by_cases hentity : selected.entity = some (.trash item.id)
          · rw [if_pos hentity]
            exact fun _ => rfl
          · rw [if_neg hentity]
            exact hitem
  | _ => exact hitem

theorem cleanedMarked_exec {stmt : Stmt} (hliteral : stmt.Literal) (hdb : CleanedMarked db) :
    CleanedMarked (stmt.exec db).2 := by
  intro item' hmem
  rcases find?_trash_exec (Table.find?_of_mem hmem) with ⟨item, hfind, rfl⟩ | ⟨rfl, -⟩
  · exact onTrash_cleanedMarked hliteral (hdb item (Table.find?_mem hfind))
  · intro hcleaned
    rw [hliteral.1] at hcleaned
    cases hcleaned

theorem Literal.cleanedMarked {α : Type} {h : Handler α} (hliteral : Literal h) (hdb : CleanedMarked db) :
    CleanedMarked (serve h db).2 := by
  have hexec : ∀ (stmt : Stmt) (db : Db), stmt.Literal → CleanedMarked db →
      CleanedMarked (stmt.exec db).2 := fun _ _ => cleanedMarked_exec
  have hrun := Program.Performs.run_rel (R := fun db db' => CleanedMarked db → CleanedMarked db')
    (fun _ h => h) (fun _ _ _ h h' hdb => h' (h hdb)) hexec hliteral db
  exact hrun hdb

end Marked

/-! ### Reading a file -/

/-- Items and live files are at the places where they were. -/
structure PlacesKept (db db' : Db) : Prop where
  marked : CleanedMarked db'
  inTrash : ∀ nodeId path, db'.InTrash nodeId path ↔ db.InTrash nodeId path
  hasItem : ∀ fileId, db'.HasItem fileId ↔ db.HasItem fileId
  liveAt : ∀ fileId nodeId path, db'.LiveAt fileId nodeId path ↔ db.LiveAt fileId nodeId path

theorem PlacesKept.refl {db : Db} (hdb : CleanedMarked db) : PlacesKept db db where
  marked := hdb
  inTrash _ _ := Iff.rfl
  hasItem _ := Iff.rfl
  liveAt _ _ _ := Iff.rfl

theorem PlacesKept.trans {db db' db'' : Db} (h : PlacesKept db db') (h' : PlacesKept db' db'') :
    PlacesKept db db'' where
  marked := h'.marked
  inTrash nodeId path := (h'.inTrash nodeId path).trans (h.inTrash nodeId path)
  hasItem fileId := (h'.hasItem fileId).trans (h.hasItem fileId)
  liveAt fileId nodeId path := (h'.liveAt fileId nodeId path).trans (h.liveAt fileId nodeId path)

section Reading

variable {stmt : Stmt} {db db' : Db}

/-- What a read of files does to an item: at most its cleanup fails. -/
inductive ReadTrash (item : ModelFileTrash) : ModelFileTrash → Prop
  | kept : ReadTrash item item
  | failure (status : TrashStatus) (message : String) (now : Int) (hstatus : status ≠ .cleaned) :
      ReadTrash item (item.failure status message now)

theorem readTrash_onTrash (hliteral : stmt.Literal) (hamong : stmt.Among fileReadWrites)
    (item : ModelFileTrash) : ReadTrash item (stmt.onTrash item) := by
  have hnot : ∀ w ∈ stmt.write, w ∈ fileReadWrites := hamong
  cases stmt with
  | setTrashCleanupRunning trashId now => exact absurd (hnot _ rfl) (by decide)
  | setTrashCleanupPending trashId taskId now => exact absurd (hnot _ rfl) (by decide)
  | recordResult selected status result now => exact absurd (hnot _ rfl) (by decide)
  | updateTrashFailure trashId status message now =>
      have hstatus : status ≠ .cleaned := by
        rcases hliteral with rfl | rfl
        · decide
        · decide
      simp only [Stmt.onTrash]
      by_cases hid : item.id = trashId
      · rw [if_pos hid]
        exact .failure status message now hstatus
      · rw [if_neg hid]
        exact .kept
  | _ => exact .kept

theorem ReadTrash.uncleaned_iff {item item' : ModelFileTrash} (h : ReadTrash item item')
    (hitem : item.CleanedMarked) : item'.Uncleaned ↔ item.Uncleaned := by
  cases h with
  | kept => exact Iff.rfl
  | failure status message now hstatus =>
      constructor
      · rintro ⟨hmark, -⟩
        refine ⟨hmark, ?_⟩
        intro hcleaned
        have hmarked := hitem hcleaned
        rw [show item.fileDeletedAt = none from hmark] at hmarked
        cases hmarked
      · rintro ⟨hmark, -⟩
        exact ⟨hmark, hstatus⟩

theorem ReadTrash.place {item item' : ModelFileTrash} (h : ReadTrash item item') :
    item'.modelFileId = item.modelFileId ∧ item'.nodeId = item.nodeId ∧ item'.path = item.path := by
  cases h with
  | kept => exact ⟨rfl, rfl, rfl⟩
  | failure status message now hstatus => exact ⟨rfl, rfl, rfl⟩

theorem Stmt.RewritesFile.place_of_reading {file file' : ModelFile} (h : stmt.RewritesFile file file')
    (hamong : stmt.Among fileReadWrites) :
    file'.id = file.id ∧ file'.deletedAt = file.deletedAt ∧ file'.nodeId = file.nodeId ∧
      file'.path = file.path := by
  have hnot : ∀ w ∈ stmt.write, w ∈ fileReadWrites := hamong
  cases h with
  | replace nodeId path verified now => exact absurd (hnot _ rfl) (by decide)
  | delete now => exact absurd (hnot _ rfl) (by decide)
  | result selected status result now hnames => exact absurd (hnot _ rfl) (by decide)
  | _ => exact ⟨rfl, rfl, rfl, rfl⟩

theorem placesKept_exec (hliteral : stmt.Literal) (hamong : stmt.Among fileReadWrites)
    (hdb : CleanedMarked db) : PlacesKept db (stmt.exec db).2 := by
  have hnot : ∀ w ∈ stmt.write, w ∈ fileReadWrites := hamong
  -- no item and no file appears or goes
  have hback : ∀ item' ∈ (stmt.exec db).2.modelFileTrash.rows,
      ∃ item ∈ db.modelFileTrash.rows, ReadTrash item item' := by
    intro item' hmem
    rcases find?_trash_exec (Table.find?_of_mem hmem) with ⟨item, hfind, rfl⟩ | ⟨rfl, -⟩
    · exact ⟨item, Table.find?_mem hfind, readTrash_onTrash hliteral hamong item⟩
    · exact absurd (hnot _ rfl) (by decide)
  have hthere : ∀ item ∈ db.modelFileTrash.rows,
      ∃ item' ∈ (stmt.exec db).2.modelFileTrash.rows, ReadTrash item item' := by
    intro item hmem
    have hkept : stmt ≠ .deleteTrash item.id := by
      rintro rfl
      exact absurd (hnot _ rfl) (by decide)
    have hfind := find?_trash_exec_of_some (Table.find?_of_mem hmem) hkept
    exact ⟨_, Table.find?_mem hfind, readTrash_onTrash hliteral hamong item⟩
  constructor
  · exact cleanedMarked_exec hliteral hdb
  · intro nodeId path
    constructor
    · rintro ⟨item', hmem', huncleaned, hnode, hpath⟩
      obtain ⟨item, hmem, hread⟩ := hback item' hmem'
      obtain ⟨-, hnodes, hpaths⟩ := hread.place
      exact ⟨item, hmem, (hread.uncleaned_iff (hdb item hmem)).mp huncleaned, hnodes ▸ hnode,
        hpaths ▸ hpath⟩
    · rintro ⟨item, hmem, huncleaned, hnode, hpath⟩
      obtain ⟨item', hmem', hread⟩ := hthere item hmem
      obtain ⟨-, hnodes, hpaths⟩ := hread.place
      exact ⟨item', hmem', (hread.uncleaned_iff (hdb item hmem)).mpr huncleaned, hnodes.trans hnode,
        hpaths.trans hpath⟩
  · intro fileId
    constructor
    · rintro ⟨item', hmem', hfile⟩
      obtain ⟨item, hmem, hread⟩ := hback item' hmem'
      exact ⟨item, hmem, hread.place.1 ▸ hfile⟩
    · rintro ⟨item, hmem, hfile⟩
      obtain ⟨item', hmem', hread⟩ := hthere item hmem
      exact ⟨item', hmem', hread.place.1.trans hfile⟩
  · intro fileId nodeId path
    constructor
    · rintro ⟨file', hmem', hid, hlive, hnode, hpath⟩
      rcases find?_file_exec (Table.find?_of_mem hmem') with rfl | ⟨file, hfind, hrewrites⟩
      · exact absurd (hnot _ rfl) (by decide)
      · obtain ⟨hids, hlives, hnodes, hpaths⟩ := hrewrites.place_of_reading hamong
        exact ⟨file, Table.find?_mem hfind, hids ▸ hid, hlives ▸ hlive, hnodes ▸ hnode,
          hpaths ▸ hpath⟩
    · rintro ⟨file, hmem, hid, hlive, hnode, hpath⟩
      obtain ⟨file', hfind', hrewrites⟩ := find?_file_exec_of_some stmt (Table.find?_of_mem hmem)
      obtain ⟨hids, hlives, hnodes, hpaths⟩ := hrewrites.place_of_reading hamong
      exact ⟨file', Table.find?_mem hfind', hids.trans hid, hlives.trans hlive, hnodes.trans hnode,
        hpaths.trans hpath⟩

theorem placesKept_serve {α : Type} {h : Handler α} (hliteral : Literal h) (huses : Uses fileReadWrites h)
    (hdb : CleanedMarked db) : PlacesKept db (serve h db).2 := by
  have hboth : h.run.Performs fun stmt => stmt.Literal ∧ stmt.Among fileReadWrites :=
    Program.Performs.and hliteral huses
  have hexec : ∀ (stmt : Stmt) (db : Db), stmt.Literal ∧ stmt.Among fileReadWrites →
      CleanedMarked db → PlacesKept db (stmt.exec db).2 := fun _ _ hstmt => placesKept_exec hstmt.1 hstmt.2
  have hrun := Program.Performs.run_rel (R := fun db db' => CleanedMarked db → PlacesKept db db')
    (fun _ => PlacesKept.refl) (fun _ _ _ h h' hdb => (h hdb).trans (h' (h hdb).marked)) hexec hboth db
  exact hrun hdb

/-- A file that is read is live and where the view has it. -/
theorem liveAt_of_modelFile {id : String} {view : ModelFileView} (hdb : CleanedMarked db)
    (hserve : serve (modelFile id) db = (.ok view, db')) : db.LiveAt id view.nodeId view.path := by
  unfold modelFile at hserve
  obtain ⟨rows, between, hrows, hserve⟩ := serve_bind_eq_ok hserve
  obtain ⟨row, between', hrow, hserve⟩ := serve_bind_eq_ok hserve
  have hhead := serve_required_ok hrow
  obtain ⟨now, _, -, hserve⟩ := serve_bind_eq_ok hserve
  have hview : view = modelFileFromRow now row := (Except.ok.inj (congrArg Prod.fst hserve)).symm
  unfold modelFileRows at hrows
  obtain ⟨_, swept, hswept, hrest⟩ := serve_bind_eq_ok hrows
  obtain ⟨now', swept', hnow, hselect⟩ := serve_bind_eq_ok hrest
  obtain rfl : swept' = swept := (congrArg Prod.snd hnow).symm
  obtain ⟨selected, _, hquery, hexpire⟩ := serve_bind_eq_ok hselect
  obtain ⟨hselected, -⟩ := serve_query_ok hquery
  obtain ⟨_, _, -, hend⟩ := serve_bind_eq_ok hexpire
  have hsame : rows = selected := (Except.ok.inj (congrArg Prod.fst hend)).symm
  have hkept := placesKept_serve literal_markTimedOutTasks (uses_markTimedOutTasks (by decide)) hdb
  rw [hswept] at hkept
  rw [← hkept.liveAt]
  have hmem : row ∈ selected := hsame ▸ List.mem_of_head? hhead
  rw [hselected, List.mem_mergeSort, List.mem_map] at hmem
  obtain ⟨file, hfile, hjoined⟩ := hmem
  rw [List.mem_filter] at hfile
  obtain ⟨hstored, hfilter⟩ := hfile
  simp only [Option.all_none, Option.all_some, Bool.true_and, Bool.and_eq_true, decide_eq_true_eq,
    Option.isNone_iff_eq_none] at hfilter
  rw [hview, ← hjoined]
  exact ⟨file, hstored, hfilter.1, hfilter.2, rfl, rfl⟩

end Reading

/-! ### Putting files into the trash -/

section Trashing

variable {db db' : Db}

/-- What putting a file into the trash does to the places, where an item is made only for a file without one. -/
structure Trashes (fileIds : List String) (db db' : Db) : Prop where
  marked : CleanedMarked db'
  inTrash : ∀ nodeId path, db'.InTrash nodeId path ↔
    db.InTrash nodeId path ∨ ∃ fileId ∈ fileIds, ¬db.HasItem fileId ∧ db.LiveAt fileId nodeId path
  hasItem : ∀ fileId, db'.HasItem fileId ↔ db.HasItem fileId ∨ fileId ∈ fileIds
  liveAt : ∀ fileId nodeId path, db'.LiveAt fileId nodeId path ↔ db.LiveAt fileId nodeId path

/-- An item that is accepted is added, and nothing else changes in the trash and among the files. -/
theorem rows_insertTrash {item : ModelFileTrash} (haccepted : ((Stmt.insertTrash item).exec db).1 = true) :
    ((Stmt.insertTrash item).exec db).2.modelFileTrash.rows = db.modelFileTrash.rows ++ [item] ∧
      ((Stmt.insertTrash item).exec db).2.modelFiles = db.modelFiles := by
  simp only [Stmt.exec, insertRow] at haccepted ⊢
  split
  · rename_i hallowed
    rw [if_pos hallowed] at haccepted
    cases hresult : db.modelFileTrash.insert? item with
    | none =>
        rw [hresult] at haccepted
        cases haccepted
    | some table => exact ⟨Table.insert?_rows hresult, rfl⟩
  · rename_i hallowed
    rw [if_neg hallowed] at haccepted
    cases haccepted

/-- An uncleaned item of a file at its place is added. -/
theorem trashes_insertTrash {item : ModelFileTrash} {fileId nodeId path : String} (hdb : CleanedMarked db)
    (haccepted : ((Stmt.insertTrash item).exec db).1 = true) (huncleaned : item.Uncleaned)
    (hfile : item.modelFileId = some fileId) (hnode : item.nodeId = some nodeId) (hpath : item.path = path)
    (hnone : ¬db.HasItem fileId) (hlive : db.LiveAt fileId nodeId path) :
    Trashes [fileId] db ((Stmt.insertTrash item).exec db).2 := by
  obtain ⟨hrows, hfiles⟩ := rows_insertTrash haccepted
  have hmem : ∀ found, found ∈ ((Stmt.insertTrash item).exec db).2.modelFileTrash.rows ↔
      found ∈ db.modelFileTrash.rows ∨ found = item := by
    intro found
    rw [hrows, List.mem_append, List.mem_singleton]
  constructor
  · intro found hfound
    rcases (hmem found).mp hfound with hbefore | rfl
    · exact hdb found hbefore
    · exact fun hcleaned => absurd hcleaned huncleaned.2
  · intro nodeId' path'
    constructor
    · rintro ⟨found, hfound, hun, hnode', hpath'⟩
      rcases (hmem found).mp hfound with hbefore | rfl
      · exact Or.inl ⟨found, hbefore, hun, hnode', hpath'⟩
      · refine Or.inr ⟨fileId, List.mem_singleton_self fileId, hnone, ?_⟩
        rw [← Option.some.inj (hnode.symm.trans hnode'), ← hpath', hpath]
        exact hlive
    · rintro (⟨found, hbefore, hun, hnode', hpath'⟩ |
        ⟨other, hother, -, file, hstored, hid, -, hnode', hpath'⟩)
      · exact ⟨found, (hmem found).mpr (Or.inl hbefore), hun, hnode', hpath'⟩
      · obtain ⟨file', hstored', hid', -, hnode'', hpath''⟩ := hlive
        have hsame : file = file' := by
          have hfind := Table.find?_of_mem hstored
          have hfind' := Table.find?_of_mem hstored'
          rw [hid, List.mem_singleton.mp hother, ← hid'] at hfind
          exact Option.some.inj (hfind.symm.trans hfind')
        subst hsame
        refine ⟨item, (hmem item).mpr (Or.inr rfl), huncleaned, ?_, ?_⟩
        · rw [hnode, ← hnode'', hnode']
        · rw [hpath, ← hpath'', hpath']
  · intro other
    constructor
    · rintro ⟨found, hfound, hof⟩
      rcases (hmem found).mp hfound with hbefore | rfl
      · exact Or.inl ⟨found, hbefore, hof⟩
      · rw [Option.some.inj (hof.symm.trans hfile)]
        exact Or.inr (List.mem_singleton_self fileId)
    · rintro (⟨found, hbefore, hof⟩ | hother)
      · exact ⟨found, (hmem found).mpr (Or.inl hbefore), hof⟩
      · rw [List.mem_singleton.mp hother]
        exact ⟨item, (hmem item).mpr (Or.inr rfl), hfile⟩
  · intro other nodeId' path'
    unfold Db.LiveAt
    rw [hfiles]

theorem Trashes.of_kept {between : Db} {fileIds : List String} (h : PlacesKept db between)
    (h' : Trashes fileIds between db') : Trashes fileIds db db' where
  marked := h'.marked
  inTrash nodeId path := by
    rw [h'.inTrash, h.inTrash]
    simp only [h.hasItem, h.liveAt]
  hasItem fileId := by rw [h'.hasItem, h.hasItem]
  liveAt fileId nodeId path := (h'.liveAt fileId nodeId path).trans (h.liveAt fileId nodeId path)

theorem Trashes.append {between : Db} {fileIds fileIds' : List String} (h : Trashes fileIds db between)
    (h' : Trashes fileIds' between db') : Trashes (fileIds ++ fileIds') db db' where
  marked := h'.marked
  inTrash nodeId path := by
    rw [h'.inTrash, h.inTrash]
    constructor
    · rintro ((hin | ⟨fileId, hmem, hnone, hlive⟩) | ⟨fileId, hmem, hnone, hlive⟩)
      · exact Or.inl hin
      · exact Or.inr ⟨fileId, List.mem_append_left _ hmem, hnone, hlive⟩
      · refine Or.inr ⟨fileId, List.mem_append_right _ hmem, ?_, (h.liveAt _ _ _).mp hlive⟩
        exact fun hhas => hnone ((h.hasItem fileId).mpr (Or.inl hhas))
    · rintro (hin | ⟨fileId, hmem, hnone, hlive⟩)
      · exact Or.inl (Or.inl hin)
      · by_cases hfirst : fileId ∈ fileIds
        · exact Or.inl (Or.inr ⟨fileId, hfirst, hnone, hlive⟩)
        · have hlater := (List.mem_append.mp hmem).resolve_left hfirst
          refine Or.inr ⟨fileId, hlater, ?_, (h.liveAt _ _ _).mpr hlive⟩
          intro hhas
          exact ((h.hasItem fileId).mp hhas).elim hnone hfirst
  hasItem fileId := by
    rw [h'.hasItem, h.hasItem, List.mem_append, or_assoc]
  liveAt fileId nodeId path := (h'.liveAt fileId nodeId path).trans (h.liveAt fileId nodeId path)

theorem latestTrashItem_eq_none_iff {fileId : String} :
    latestTrashItem db fileId = none ↔ ¬db.HasItem fileId := by
  unfold latestTrashItem
  rw [Option.map_eq_none_iff, List.argmax_eq_none, List.filter_eq_nil_iff]
  constructor
  · rintro hnone ⟨item, hmem, hfile⟩
    exact hnone item hmem (decide_eq_true hfile)
  · intro hnone item hmem hfile
    exact hnone ⟨item, hmem, of_decide_eq_true hfile⟩

theorem serve_inserted_ok {accepted : Bool} {u : Unit}
    (hserve : serve (inserted accepted) db = (.ok u, db')) : accepted = true ∧ db' = db := by
  cases accepted with
  | false => cases congrArg Prod.fst hserve
  | true => exact ⟨rfl, (congrArg Prod.snd hserve).symm⟩

theorem trashes_ensureModelFileTrash {fileId : String} {reason note : Option String} {id : String}
    {view : ModelFileTrashView} (hdb : CleanedMarked db)
    (hserve : serve (ensureModelFileTrash fileId reason note id) db = (.ok view, db')) :
    Trashes [fileId] db db' := by
  unfold ensureModelFileTrash at hserve
  obtain ⟨existing, between, hquery, hserve⟩ := serve_bind_eq_ok hserve
  obtain ⟨rfl, rfl⟩ := serve_query_ok hquery
  by_cases hitem : between.HasItem fileId
  · -- nothing is written
    cases hlatest : latestTrashItem between fileId with
    | none => exact absurd hitem (latestTrashItem_eq_none_iff.mp hlatest)
    | some existingId =>
        rw [hlatest] at hserve
        have hsame := serve_of_reads (uses_modelFileTrashItem existingId) between
        rw [hserve] at hsame
        obtain rfl : db' = between := hsame
        refine ⟨hdb, fun nodeId path => ?_, fun other => ?_, fun _ _ _ => Iff.rfl⟩
        · constructor
          · exact Or.inl
          · rintro (hin | ⟨other, hother, hnone, -⟩)
            · exact hin
            · rw [List.mem_singleton.mp hother] at hnone
              exact absurd hitem hnone
        · constructor
          · exact Or.inl
          · rintro (hhas | hother)
            · exact hhas
            · rw [List.mem_singleton.mp hother]
              exact hitem
  · rw [latestTrashItem_eq_none_iff.mpr hitem] at hserve
    obtain ⟨file, read, hread, hwrite⟩ := serve_bind_eq_ok hserve
    have hlive := liveAt_of_modelFile hdb hread
    have hkept := placesKept_serve (literal_modelFile fileId) (uses_modelFile (fun _ hw => hw) fileId) hdb
    rw [hread] at hkept
    -- the item that is inserted is where the file was read to be
    obtain ⟨now, read', hnow, hinsert⟩ := serve_bind_eq_ok hwrite
    obtain rfl : read' = read := (congrArg Prod.snd hnow).symm
    obtain ⟨accepted, written, hexecute, hcheck⟩ := serve_bind_eq_ok hinsert
    rw [serve_execute] at hexecute
    obtain ⟨_, checked, hinserted, hlast⟩ := serve_bind_eq_ok hcheck
    obtain ⟨haccepted, rfl⟩ := serve_inserted_ok hinserted
    have hsame := serve_of_reads (uses_modelFileTrashItem id) checked
    rw [hlast] at hsame
    obtain rfl : db' = checked := hsame
    obtain rfl : db' = _ := (congrArg Prod.snd hexecute).symm
    have hfirst := Except.ok.inj (congrArg Prod.fst hexecute)
    have hpending : TrashStatus.pending ≠ .cleaned := by decide
    refine Trashes.of_kept hkept ?_
    refine trashes_insertTrash hkept.marked (hfirst.trans haccepted) ⟨rfl, hpending⟩ rfl rfl rfl ?_ ?_
    · exact fun hhas => hitem ((hkept.hasItem fileId).mp hhas)
    · exact (hkept.liveAt _ _ _).mpr hlive

theorem trashes_trashModelFiles {trashId : String → String} {fileIds : List String} (hdb : CleanedMarked db)
    (hserve : serve (trashModelFiles trashId fileIds) db = (.ok (), db')) : Trashes fileIds db db' := by
  induction fileIds generalizing db with
  | nil =>
      obtain rfl : db = db' := congrArg Prod.snd hserve
      refine ⟨hdb, fun nodeId path => ?_, fun fileId => ?_, fun _ _ _ => Iff.rfl⟩
      · exact (or_iff_left fun ⟨_, hmem, _⟩ => List.not_mem_nil hmem).symm
      · exact (or_iff_left List.not_mem_nil).symm
  | cons fileId fileIds ih =>
      obtain ⟨view, between, hfirst, hrest⟩ := serve_bind_eq_ok hserve
      have hensured := trashes_ensureModelFileTrash hdb hfirst
      exact hensured.append (ih hensured.marked hrest)

end Trashing

/-! ### The two deletions -/

inductive Deletion where
  | model (id : String) (trashId : String → String)
  | file (id trashId : String)

namespace Deletion

def request : Deletion → PlatformRequest
  | model id trashId => .deleteModel id trashId
  | file id trashId => .plain (.deleteModelFile id trashId)

/-- What the request answers, and the database that it leaves. -/
def answer : Deletion → Db → Except DomainError Unit × Db
  | model id trashId, db => deleteModel id trashId db
  | file id trashId, db => serve (deleteModelFile id trashId) db

/-- The file is one of those that the deletion puts into the trash. -/
def Concerns (deletion : Deletion) (file : ModelFile) : Prop :=
  file.deletedAt = none ∧
    match deletion with
    | model id _ => file.modelId = id
    | Deletion.file id _ => file.id = id

/-- Each of the files for which an item has been made is at a place that is in the trash, or that comes into
it with another of the files. -/
def ItemsInPlace (deletion : Deletion) (db : Db) : Prop :=
  ∀ file ∈ db.modelFiles.rows, deletion.Concerns file → db.HasItem file.id →
    db.InTrash file.nodeId file.path ∨
      ∃ other ∈ db.modelFiles.rows, deletion.Concerns other ∧ ¬db.HasItem other.id ∧
        other.nodeId = file.nodeId ∧ other.path = file.path

theorem begin_request (deletion : Deletion) (deps : External) (db : Db) :
    (deletion.request.begin deps db).2 = (deletion.answer db).2 := by
  cases deletion with
  | model id trashId => rw [request, begin_deleteModel, answer]
  | file id trashId =>
      rw [request, db_begin_plain]
      exact serve_ended_answered (deleteModelFile id trashId) db

end Deletion

section Deletions

variable {db db' : Db}

theorem serve_rejectIf_same {condition : Bool} {e : DomainError} {u : Unit}
    (hserve : serve (rejectIf condition e) db = (.ok u, db')) : db' = db := by
  have hsame := serve_of_reads (uses_rejectIf condition e) db
  rw [hserve] at hsame
  exact hsame

/-- A model that is trashed has its live files put into the trash. -/
theorem trashes_trashModel {id : String} {trashId : String → String} (hdb : CleanedMarked db)
    (hserve : serve (trashModel id trashId) db = (.ok (), db')) :
    ∃ fileIds, Trashes fileIds db db' ∧
      ∀ fileId, fileId ∈ fileIds ↔
        ∃ file ∈ db.modelFiles.rows, file.id = fileId ∧ file.deletedAt = none ∧ file.modelId = id := by
  unfold trashModel at hserve
  obtain ⟨_, _, hcount, hcounted⟩ := serve_bind_eq_ok hserve
  obtain ⟨-, rfl⟩ := serve_query_ok hcount
  obtain ⟨_, _, hprotected, hfree⟩ := serve_bind_eq_ok hcounted
  obtain rfl := serve_rejectIf_same hprotected
  obtain ⟨_, _, hfound, hexists⟩ := serve_bind_eq_ok hfree
  obtain ⟨-, rfl⟩ := serve_query_ok hfound
  obtain ⟨_, _, hmissing, hselect⟩ := serve_bind_eq_ok hexists
  obtain rfl := serve_rejectIf_same hmissing
  obtain ⟨fileIds, _, hquery, htrash⟩ := serve_bind_eq_ok hselect
  obtain ⟨rfl, rfl⟩ := serve_query_ok hquery
  refine ⟨_, trashes_trashModelFiles hdb htrash, ?_⟩
  intro fileId
  rw [List.mem_map]
  constructor
  · rintro ⟨file, hmem, hid⟩
    rw [List.mem_mergeSort, List.mem_filter, Bool.and_eq_true, decide_eq_true_eq,
      Option.isNone_iff_eq_none] at hmem
    exact ⟨file, hmem.1, hid, hmem.2.2, hmem.2.1⟩
  · rintro ⟨file, hmem, hid, hlive, hmodel⟩
    refine ⟨file, ?_, hid⟩
    rw [List.mem_mergeSort, List.mem_filter, Bool.and_eq_true, decide_eq_true_eq,
      Option.isNone_iff_eq_none]
    exact ⟨hmem, hmodel, hlive⟩

/-- A deletion puts the files that it is about into the trash, and leaves the trash alone afterwards. -/
theorem trashes_deletion {deletion : Deletion} (hdb : CleanedMarked db)
    (hdeleted : deletion.answer db = (.ok (), db')) :
    ∃ fileIds between, Trashes fileIds db between ∧ db'.modelFileTrash = between.modelFileTrash ∧
      ∀ file ∈ db.modelFiles.rows, file.deletedAt = none →
        (file.id ∈ fileIds ↔ deletion.Concerns file) := by
  cases deletion with
  | model id trashId =>
      simp only [Deletion.answer, deleteModel] at hdeleted
      cases hserve : serve (trashModel id trashId) db with
      | mk outcome between =>
          rw [hserve] at hdeleted
          cases outcome with
          | error e => cases congrArg Prod.fst hdeleted
          | ok u =>
              obtain ⟨fileIds, htrashes, hfileIds⟩ := trashes_trashModel hdb hserve
              refine ⟨fileIds, between, htrashes, ?_, ?_⟩
              · dsimp only at hdeleted
                split at hdeleted
                · split at hdeleted
                  · obtain rfl : _ = db' := congrArg Prod.snd hdeleted
                    rfl
                  · cases congrArg Prod.fst hdeleted
                · cases congrArg Prod.fst hdeleted
              · intro file hmem hlive
                rw [hfileIds]
                constructor
                · rintro ⟨file', hmem', hid, -, hmodel⟩
                  rw [← Table.eq_of_key_eq hmem' hmem hid]
                  exact ⟨(Table.eq_of_key_eq hmem' hmem hid) ▸ hlive, hmodel⟩
                · rintro ⟨-, hmodel⟩
                  exact ⟨file, hmem, rfl, hlive, hmodel⟩
  | file id trashId =>
      simp only [Deletion.answer] at hdeleted
      unfold deleteModelFile at hdeleted
      obtain ⟨view, between, hensure, hlater⟩ := serve_bind_eq_ok hdeleted
      obtain ⟨now, between', hnow, hwrite⟩ := serve_bind_eq_ok hlater
      obtain rfl : between' = between := (congrArg Prod.snd hnow).symm
      obtain ⟨found, after, hexecute, hcheck⟩ := serve_bind_eq_ok hwrite
      refine ⟨[id], between', trashes_ensureModelFileTrash hdb hensure, ?_, ?_⟩
      · have hafter : db' = after := by
          cases found with
          | true => exact (congrArg Prod.snd hcheck).symm
          | false => cases congrArg Prod.fst hcheck
        have hexec : ((Stmt.deleteModelFile id now).exec between').2 = after := congrArg Prod.snd hexecute
        rw [hafter, ← hexec]
        rfl
      · intro file hmem hlive
        rw [List.mem_singleton]
        exact ⟨fun hid => ⟨hlive, hid⟩, fun hconcerns => hconcerns.2⟩

/-- A deletion leaves the places of its files in the trash exactly if those with items are in place. -/
theorem inTrash_deletion_iff {deletion : Deletion} (hdb : CleanedMarked db)
    (hdeleted : deletion.answer db = (.ok (), db')) :
    (∀ file ∈ db.modelFiles.rows, deletion.Concerns file → db'.InTrash file.nodeId file.path) ↔
      deletion.ItemsInPlace db := by
  obtain ⟨fileIds, between, htrashes, htrash, hfileIds⟩ := trashes_deletion hdb hdeleted
  have hafter : ∀ nodeId path, db'.InTrash nodeId path ↔ db.InTrash nodeId path ∨
      ∃ other ∈ db.modelFiles.rows, deletion.Concerns other ∧ ¬db.HasItem other.id ∧
        other.nodeId = nodeId ∧ other.path = path := by
    intro nodeId path
    have hsame : db'.InTrash nodeId path ↔ between.InTrash nodeId path := by
      unfold Db.InTrash
      rw [htrash]
    rw [hsame, htrashes.inTrash]
    apply or_congr_right
    constructor
    · rintro ⟨fileId, hmem, hnone, other, hother, rfl, hlive, hnode, hpath⟩
      exact ⟨other, hother, (hfileIds other hother hlive).mp hmem, hnone, hnode, hpath⟩
    · rintro ⟨other, hother, hconcerns, hnone, hnode, hpath⟩
      have hlive := hconcerns.1
      exact ⟨other.id, (hfileIds other hother hlive).mpr hconcerns, hnone, other, hother, rfl, hlive, hnode,
        hpath⟩
  constructor
  · intro hall file hmem hconcerns _
    exact (hafter _ _).mp (hall file hmem hconcerns)
  · intro hold file hmem hconcerns
    rw [hafter]
    by_cases hitem : db.HasItem file.id
    · exact hold file hmem hconcerns hitem
    · exact Or.inr ⟨file, hmem, hconcerns, hitem, rfl, rfl⟩

end Deletions

/-! ### Runs -/

theorem literal_begin (deps : External) (request : Request) : Literal (request.begin deps) := by
  have hall := literal_handler deps request
  rw [handler_eq_begin_finish] at hall
  exact Program.Performs.of_bind hall

theorem literal_waitForVerification (taskId : String) (rounds : Nat) :
    Literal (waitForModelFileVerification taskId rounds) := by
  have huses : Uses [.markTaskTimedOut] (waitForModelFileVerification taskId rounds) :=
    uses_waitForModelFileVerification (by decide) taskId rounds
  exact huses.literal (by decide)

theorem literal_waitForRuntimeCheck (taskId : String) (rounds : Nat) :
    Literal (waitForRuntimeCheck taskId rounds) := by
  have huses : Uses [.markTaskTimedOut] (waitForRuntimeCheck taskId rounds) :=
    uses_waitForRuntimeCheck (by decide) taskId rounds
  exact huses.literal (by decide)

theorem literal_finish (request : Request) : Literal request.finish := by
  cases request
  case startModelInstance => exact literal_answered (literal_waitForModelInstanceTask _ _ _)
  case stopModelInstance => exact literal_answered (literal_waitForModelInstanceTask _ _ _)
  case checkModelInstance => exact literal_answered (literal_waitForModelInstanceTask _ _ _)
  case testModelInstance => exact literal_answered (literal_waitForModelInstanceTask _ _ _)
  case createRuntimeEnvironment nodeId request id taskId rounds =>
      refine literal_answered (literal_bind (literal_waitForRuntimeCheck _ _) fun outcome => ?_)
      have huses : Uses [.insertRuntime] (insertNewRuntime nodeId request id outcome) :=
        uses_insertNewRuntime (by decide) _ _ _ outcome
      exact huses.literal (by decide)
  case checkRuntimeEnvironment id taskId rounds =>
      refine literal_answered (literal_bind (literal_waitForRuntimeCheck _ _) fun outcome => ?_)
      refine literal_bind uses_nowUnixSecs.literal_reads fun now => ?_
      refine literal_bind (literal_execute trivial) fun _ => ?_
      exact (uses_runtimeEnvironment id).literal_reads
  case createModelFile modelId request id taskId rounds =>
      refine literal_answered (literal_bind (literal_waitForVerification _ _) fun verified => ?_)
      refine literal_bind uses_nowUnixSecs.literal_reads fun now => ?_
      refine literal_bind (literal_execute ⟨rfl, rfl, rfl⟩) fun accepted => ?_
      exact literal_bind (uses_inserted accepted).literal_reads fun _ => literal_modelFile id
  case updateModelFile id request taskId rounds =>
      refine literal_answered (literal_bind (literal_waitForVerification _ _) fun verified => ?_)
      refine literal_bind uses_nowUnixSecs.literal_reads fun now => ?_
      refine literal_bind (literal_execute trivial) fun found => ?_
      cases (show Bool from found) with
      | true => exact literal_modelFile id
      | false => exact literal_throw _
  case cleanupModelFileTrash =>
      exact literal_answered (literal_waitForModelFileCleanup _ _ _)
  all_goals exact literal_pure _

theorem literal_trashModelFiles (trashId : String → String) (fileIds : List String) :
    Literal (trashModelFiles trashId fileIds) := by
  induction fileIds with
  | nil => exact literal_pure ()
  | cons fileId fileIds ih =>
      exact literal_bind (literal_ensureModelFileTrash _ _ _ _) fun _ => ih

theorem literal_trashModel (id : String) (trashId : String → String) :
    Literal (trashModel id trashId) := by
  refine literal_bind (uses_query _).literal_reads fun protectedCount => ?_
  refine literal_bind (uses_rejectIf _ _).literal_reads fun _ => ?_
  refine literal_bind (uses_query _).literal_reads fun found => ?_
  refine literal_bind (uses_rejectIf _ _).literal_reads fun _ => ?_
  exact literal_bind (uses_query _).literal_reads fun fileIds => literal_trashModelFiles trashId fileIds

theorem literal_beginModelCreation (deps : External) (request : ModelRequest) (taskId : String) :
    Literal (beginModelCreation deps request taskId) := by
  refine literal_bind (uses_initialModelFile deps request).literal_reads fun initialFile => ?_
  have hall := literal_verifyModelFileBeforeSave initialFile.nodeId initialFile.path taskId 0
  rw [verifyModelFileBeforeSave_eq] at hall
  exact Program.Performs.of_bind hall

section Runs

variable {db : Db}

theorem cleanedMarked_insertNewModel (request : ModelRequest) (initialFile : ModelFileRequest)
    (id fileId : String) (verified : VerifiedModelFile) (hdb : CleanedMarked db) :
    CleanedMarked (insertNewModel request initialFile id fileId verified db) := by
  unfold insertNewModel createModelRows
  split
  · exact hdb
  · rename_i models _
    dsimp only
    split
    · have hmodels : CleanedMarked { db with models } := hdb
      exact cleanedMarked_exec ⟨rfl, rfl, rfl⟩ hmodels
    · exact hdb

theorem cleanedMarked_begin (deps : External) (request : PlatformRequest) (hdb : CleanedMarked db) :
    CleanedMarked (request.begin deps db).2 := by
  cases request with
  | plain request =>
      rw [db_begin_plain]
      exact (literal_begin deps request).cleanedMarked hdb
  | createModel request id fileId taskId rounds =>
      have hmarked := (literal_beginModelCreation deps request taskId).cleanedMarked hdb
      simp only [PlatformRequest.begin]
      split <;> rename_i hserve <;> rw [hserve] at hmarked <;> exact hmarked
  | deleteModel id trashId =>
      have hmarked := (literal_trashModel id trashId).cleanedMarked hdb
      simp only [PlatformRequest.begin]
      split <;> rename_i hserve <;> rw [hserve] at hmarked <;> exact hmarked

theorem cleanedMarked_finish (request : PlatformRequest) (hdb : CleanedMarked db) :
    CleanedMarked (request.finish db) := by
  cases request with
  | plain request => exact (literal_finish request).cleanedMarked hdb
  | createModel request id fileId taskId rounds =>
      have hmarked := (literal_waitForVerification taskId rounds).cleanedMarked hdb
      simp only [PlatformRequest.finish]
      split <;> rename_i hserve <;> rw [hserve] at hmarked
      · split
        · exact hmarked
        · exact cleanedMarked_insertNewModel request _ id fileId _ hmarked
      · exact hmarked
  | deleteModel id trashId => exact hdb

end Runs

theorem cleanedMarked_perform (deps : External) (s : Platform) (op : PlatformOperation)
    (hs : CleanedMarked s.db) : CleanedMarked (op.perform deps s).db := by
  cases op with
  | serve request => exact cleanedMarked_begin deps request hs
  | resume index =>
      simp only [PlatformOperation.perform]
      split
      · exact hs
      · exact cleanedMarked_finish _ hs
  | act action => cases action <;> exact hs

/-- Where the operations lead to from an empty trash. -/
def fromEmptyTrash (deps : External) (db : Db) (ops : List PlatformOperation) : Platform :=
  Trace.run (fun s op => PlatformOperation.perform deps s op)
    { db := { db with modelFileTrash := .empty } } ops

theorem cleanedMarked_fromEmptyTrash (deps : External) (db : Db) (ops : List PlatformOperation) :
    CleanedMarked (fromEmptyTrash deps db ops).db := by
  have hinit : CleanedMarked { db with modelFileTrash := .empty } := fun _ hmem => absurd hmem List.not_mem_nil
  have hstep : ∀ (s : Platform) (op : PlatformOperation), CleanedMarked s.db → True →
      CleanedMarked (op.perform deps s).db := fun s op hs _ => cleanedMarked_perform deps s op hs
  exact Trace.run_invariant hstep hinit (Trace.along_of_forall (fun _ _ => trivial) _ ops)

/-- In every state that is reached from an empty trash, a deletion that succeeds leaves the place of every
live file that it is about in the trash if and only if the files among them for which an item has been made
before are at places that are in the trash. -/
theorem deletion_trashes_iff (deps : External) (db : Db) (ops : List PlatformOperation) (deletion : Deletion)
    (hdeleted : (deletion.answer (fromEmptyTrash deps db ops).db).1 = .ok ()) :
    (∀ file ∈ (fromEmptyTrash deps db ops).db.modelFiles.rows, deletion.Concerns file →
      (PlatformOperation.perform deps (fromEmptyTrash deps db ops) (.serve deletion.request)).db.InTrash
        file.nodeId file.path) ↔
      deletion.ItemsInPlace (fromEmptyTrash deps db ops).db := by
  have hafter : (PlatformOperation.perform deps (fromEmptyTrash deps db ops) (.serve deletion.request)).db
      = (deletion.answer (fromEmptyTrash deps db ops).db).2 := deletion.begin_request deps _
  rw [hafter]
  exact inTrash_deletion_iff (cleanedMarked_fromEmptyTrash deps db ops) (Prod.ext hdeleted rfl)

/-! ### A file that is moved while it is in the trash -/

/-- The file is put into the trash, and stays where it is. -/
def trashingOps : List PlatformOperation := [.serve (.plain (.createModelFileTrash "f" {} "x"))]

theorem deletion_trashes_iff_example :
    (∀ file ∈ (fromEmptyTrash noExternal readyDb trashingOps).db.modelFiles.rows,
      (Deletion.file "f" "y").Concerns file →
      (PlatformOperation.perform noExternal (fromEmptyTrash noExternal readyDb trashingOps)
        (.serve (Deletion.file "f" "y").request)).db.InTrash file.nodeId file.path) ↔
      (Deletion.file "f" "y").ItemsInPlace (fromEmptyTrash noExternal readyDb trashingOps).db := by
  have haccepted : ((Deletion.file "f" "y").answer
      (fromEmptyTrash noExternal readyDb trashingOps).db).1.toOption = some () := by
    decide +kernel
  exact deletion_trashes_iff noExternal readyDb trashingOps (.file "f" "y") (ok_of_toOption haccepted)

/-- The file is put into the trash, and then moved. -/
def movedInTrashOps : List PlatformOperation :=
  [.serve (.plain (.createModelFileTrash "f" {} "x")),
    .serve (.plain (.updateModelFile "f" { nodeId := "n", path := "/models/moved" } "t" 0)),
    .serve (.plain (.recordAgentTaskResult "t"
      { nodeId := "n", status := "succeeded", result := .obj [] })),
    .resume 0]

/-- The deletion of the file succeeds, and only its old place is in the trash. -/
theorem moved_file_not_trashed :
    ¬∀ (deps : External) (db : Db) (ops : List PlatformOperation) (deletion : Deletion),
      (deletion.answer (fromEmptyTrash deps db ops).db).1 = .ok () →
      ∀ file ∈ (fromEmptyTrash deps db ops).db.modelFiles.rows, deletion.Concerns file →
        (PlatformOperation.perform deps (fromEmptyTrash deps db ops) (.serve deletion.request)).db.InTrash
          file.nodeId file.path := by
  intro h
  have haccepted : ((Deletion.file "f" "y").answer
      (fromEmptyTrash noExternal readyDb movedInTrashOps).db).1.toOption = some () := by
    decide +kernel
  have hfiles : (fromEmptyTrash noExternal readyDb movedInTrashOps).db.modelFiles.rows.map (fun file =>
      (file.id, file.deletedAt, file.path)) = [("f", none, "/models/moved")] := by
    decide +kernel
  have hitems : (PlatformOperation.perform noExternal (fromEmptyTrash noExternal readyDb movedInTrashOps)
      (.serve (Deletion.file "f" "y").request)).db.modelFileTrash.rows.map (·.path) = ["/models/chat"] := by
    decide +kernel
  have hmoved : ("f", none, "/models/moved") ∈
      (fromEmptyTrash noExternal readyDb movedInTrashOps).db.modelFiles.rows.map fun file =>
        (file.id, file.deletedAt, file.path) := by
    rw [hfiles]
    exact List.mem_singleton_self _
  obtain ⟨file, hmem, hplace⟩ := List.mem_map.mp hmoved
  have hid : file.id = "f" := congrArg Prod.fst hplace
  have hlive : file.deletedAt = none := congrArg (·.2.1) hplace
  have hpath : file.path = "/models/moved" := congrArg (·.2.2) hplace
  obtain ⟨item, hitem, -, -, hsame⟩ :=
    h noExternal readyDb movedInTrashOps (.file "f" "y") (ok_of_toOption haccepted) file hmem ⟨hlive, hid⟩
  have hold := List.mem_map_of_mem (f := ModelFileTrash.path) hitem
  rw [hitems, List.mem_singleton, hsame, hpath] at hold
  exact absurd hold (by decide)

end LightAI.Server
