import LightAI.Server.Vocabulary

/-!
# Requests that begin with a sweep

A poll and every request that reads model files is made of a sweep over the expired tasks, or of a read
of files with its own, and of statements of a few kinds. What holds of these parts, and of a sequence
whose parts it holds of, holds of each such request.
-/

namespace LightAI.Server

/-- A property of handlers that a sequence has if its parts do. Handlers that only execute writes of
these kinds have it. -/
structure Composes (P : (α : Type) → Handler α → Prop) (writes : List Write) : Prop where
  uses : ∀ {α : Type} {h : Handler α}, Uses writes h → P α h
  bind : ∀ {α β : Type} {h : Handler α} {f : α → Handler β}, P α h → (∀ a, P β (f a)) → P β (h >>= f)

section Composes

variable {P : (α : Type) → Handler α → Prop} {writes : List Write}

theorem Composes.reads (hP : Composes P writes) {α : Type} {h : Handler α} (huses : Uses [] h) :
    P α h := hP.uses (huses.mono (List.nil_subset _))

/-- A sequence that begins with a read. -/
theorem Composes.reads_bind (hP : Composes P writes) {α β : Type} {h : Handler α}
    {f : α → Handler β} (huses : Uses [] h) (hf : ∀ a, P β (f a)) : P β (h >>= f) :=
  hP.bind (hP.reads huses) hf

/-- A wait has the property if its outcomes and its deadline have it. -/
theorem Composes.waitForTask (hP : Composes P writes) {α : Type} {taskId : String}
    {ended : AgentTask → Option (Handler α)} {deadline : Handler α}
    (hended : ∀ task outcome, ended task = some outcome → P α outcome) (hdeadline : P α deadline)
    (rounds : Nat) : P α (waitForTask taskId ended deadline rounds) := by
  induction rounds with
  | zero =>
      apply hP.reads_bind (uses_query _)
      intro row
      apply hP.reads_bind (uses_required _ row)
      intro task
      split
      · exact hended task _ ‹_›
      · exact hdeadline
  | succ rounds ih =>
      apply hP.reads_bind (uses_query _)
      intro row
      apply hP.reads_bind (uses_required _ row)
      intro task
      split
      · exact hended task _ ‹_›
      · exact ih

/-! ### Reads of files -/

section Files

variable (hP : Composes P writes) (hrows : ∀ modelId fileId, P _ (modelFileRows modelId fileId))

include hP hrows

theorem Composes.modelFile (id : String) : P _ (modelFile id) := by
  apply hP.bind (hrows none (some id))
  intro rows
  apply hP.reads_bind (uses_required _ _)
  intro row
  exact hP.reads (uses_bind uses_nowUnixSecs fun now => uses_pure _)

theorem Composes.listModelFiles (modelId : String) : P _ (listModelFiles modelId) := by
  apply hP.reads_bind (uses_ensureModelExists modelId)
  intro _
  apply hP.bind (hrows (some modelId) none)
  intro rows
  exact hP.reads (uses_bind uses_nowUnixSecs fun now => uses_pure _)

theorem Composes.createModelFile (htask : plainTaskWrites ⊆ writes)
    (hinsert : ∀ file : ModelFile, file.verifyTaskId = none → P _ (execute (.insertModelFile file)))
    (modelId : String) (request : ModelFileRequest) (id taskId : String) (rounds : Nat) :
    P _ (createModelFile modelId request id taskId rounds) := by
  apply hP.reads_bind (uses_checked _)
  intro _
  apply hP.reads_bind (uses_checked _)
  intro _
  apply hP.reads_bind (uses_ensureModelExists modelId)
  intro _
  apply hP.reads_bind (uses_ensureNodeExists request.nodeId)
  intro _
  apply hP.bind (hP.uses (uses_verifyModelFileBeforeSave htask _ _ _ _))
  intro verified
  apply hP.reads_bind uses_nowUnixSecs
  intro now
  apply hP.bind (hinsert _ rfl)
  intro accepted
  apply hP.reads_bind (uses_inserted accepted)
  intro _
  exact hP.modelFile hrows id

theorem Composes.updateModelFile (htask : plainTaskWrites ⊆ writes)
    (hupdate : .updateModelFile ∈ writes) (id : String) (request : ModelFileRequest)
    (taskId : String) (rounds : Nat) : P _ (updateModelFile id request taskId rounds) := by
  apply hP.reads_bind (uses_checked _)
  intro _
  apply hP.reads_bind (uses_checked _)
  intro _
  apply hP.reads_bind (uses_ensureNodeExists request.nodeId)
  intro _
  apply hP.bind (hP.uses (uses_verifyModelFileBeforeSave htask _ _ _ _))
  intro verified
  apply hP.reads_bind uses_nowUnixSecs
  intro now
  apply hP.bind (hP.uses (uses_execute rfl hupdate))
  intro found
  split
  · exact hP.modelFile hrows id
  · exact hP.reads (uses_throw _)

theorem Composes.queueModelFileVerification (henqueue : .enqueueFileVerification ∈ writes)
    (id taskId : String) : P _ (queueModelFileVerification id taskId) := by
  apply hP.bind (hP.modelFile hrows id)
  intro file
  apply hP.reads_bind uses_nowUnixSecs
  intro now
  apply hP.reads_bind (uses_nodeOnline file.nodeId)
  intro online
  apply hP.bind (hP.uses (uses_execute rfl henqueue))
  intro accepted
  apply hP.reads_bind (uses_inserted accepted)
  intro _
  exact hP.modelFile hrows id

theorem Composes.ensureModelFileTrash (hinsert : .insertTrash ∈ writes) (modelFileId : String)
    (reason note : Option String) (id : String) :
    P _ (ensureModelFileTrash modelFileId reason note id) := by
  apply hP.reads_bind (uses_query _)
  intro existingId
  cases existingId with
  | some existingId => exact hP.reads (uses_modelFileTrashItem existingId)
  | none =>
      apply hP.bind (hP.modelFile hrows modelFileId)
      intro file
      apply hP.reads_bind uses_nowUnixSecs
      intro now
      apply hP.bind (hP.uses (uses_execute rfl hinsert))
      intro accepted
      apply hP.reads_bind (uses_inserted accepted)
      intro _
      exact hP.reads (uses_modelFileTrashItem id)

theorem Composes.deleteModelFile (hinsert : .insertTrash ∈ writes) (hdelete : .deleteModelFile ∈ writes)
    (id trashId : String) : P _ (deleteModelFile id trashId) := by
  apply hP.bind (hP.ensureModelFileTrash hrows hinsert id _ _ trashId)
  intro _
  apply hP.reads_bind uses_nowUnixSecs
  intro now
  apply hP.bind (hP.uses (uses_execute rfl hdelete))
  intro found
  split
  · exact hP.reads (uses_pure ())
  · exact hP.reads (uses_throw _)

end Files

/-! ### Sweeps -/

section Sweeps

variable (hP : Composes P writes) (hsweep : P _ markTimedOutTasks)

include hP hsweep

theorem Composes.modelFileSummary (modelId : String) : P _ (modelFileSummary modelId) := by
  apply hP.bind hsweep
  intro _
  exact hP.reads (uses_bind (uses_query _) fun rows => uses_pure _)

theorem Composes.pollLoop (nodeId : String) (version : Option Int) (waits : List Bool) :
    P _ (pollLoop nodeId version waits) := by
  induction waits with
  | nil =>
      apply hP.bind hsweep
      intro _
      apply hP.reads_bind (uses_nextQueuedAgentTask nodeId)
      intro found
      cases found with
      | some row => exact hP.reads (uses_pure _)
      | none => exact hP.reads (uses_bind (uses_effectiveAgentConfig nodeId) fun _ => uses_pure _)
  | cons notified waits ih =>
      apply hP.bind hsweep
      intro _
      apply hP.reads_bind (uses_nextQueuedAgentTask nodeId)
      intro found
      cases found with
      | some row => exact hP.reads (uses_pure _)
      | none =>
          dsimp only
          split
          · apply hP.reads_bind (uses_effectiveAgentConfig nodeId)
            intro config
            apply hP.reads_bind (uses_nextQueuedAgentTask nodeId)
            intro next
            split
            · exact hP.reads (uses_pure _)
            · exact ih
          · exact ih

theorem Composes.pollAgentTask (hdispatch : dispatchWrites ⊆ writes) (nodeId : String)
    (version : Option Int) (waits : List Bool) : P _ (pollAgentTask nodeId version waits) := by
  apply hP.bind (hP.pollLoop hsweep nodeId version waits)
  intro found
  cases found with
  | inr config => exact hP.reads (uses_pure _)
  | inl row => exact hP.uses (uses_dispatchAgentTask hdispatch nodeId row)

end Sweeps

end Composes

end LightAI.Server
