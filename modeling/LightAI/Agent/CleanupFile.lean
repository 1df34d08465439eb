import LightAI.Base.FileTree

/-!
# The deletion of a model file

A file is deleted only if it is a regular file whose canonical path lies in the canonical path of a
directory that the agent is configured with.
-/

namespace LightAI.Agent

open FileTree

structure CleanupModelFileResult where
  cleanupStatus : String
  message : String
  deriving DecidableEq

def cleanupFailure (message : String) : CleanupModelFileResult := { cleanupStatus := "failed", message }

def hasParentDir (path : String) : Bool := ".." ∈ Text.components path

/-! ### The allowed directories -/

inductive AllowedDirResolution where
  | dirs (dirs : List Location)
  | invalidConfig
  | missing
  | inaccessible
  deriving DecidableEq

/-- What one configured directory comes to. -/
inductive AllowedDir where
  | dir (canonical : Location)
  | invalid
  | missing
  | inaccessible
  deriving DecidableEq

def allowedCanonicalDir (tree : FileTree) (dir : String) : AllowedDir :=
  if Text.isBlank dir || hasParentDir dir then .invalid
  else if !isAbsolute dir then .invalid
  else
    match tree.canonicalize dir with
    | .ok canonical => if tree.node canonical = some .dir then .dir canonical else .invalid
    | .error .notFound => .missing
    | .error _ => .inaccessible

def AllowedDir.canonical? : AllowedDir → Option Location
  | .dir canonical => some canonical
  | _ => none

def allowedCanonicalDirs (tree : FileTree) (allowedModelDirs : List String) : AllowedDirResolution :=
  let found := allowedModelDirs.map (allowedCanonicalDir tree)
  let dirs := found.filterMap AllowedDir.canonical?
  if dirs ≠ [] then .dirs dirs
  else if .invalid ∈ found then .invalidConfig
  else if .missing ∈ found then .missing
  else if .inaccessible ∈ found then .inaccessible
  else .invalidConfig

/-! ### The deletion -/

/-- The checks of the entry itself, and the deletion. -/
def deleteAllowed (tree : FileTree) (path : String) (allowedDirs : List Location) :
    CleanupModelFileResult × FileTree :=
  match tree.symlinkMetadata path with
  | .error .notFound => (cleanupFailure "file does not exist", tree)
  | .error e => (cleanupFailure s!"failed to read file info: {e.text}", tree)
  | .ok (_, .link _) => (cleanupFailure "Security risk: refusing to delete symlink", tree)
  | .ok (_, .dir) | .ok (_, .other) =>
      (cleanupFailure "refusing to delete directory or non-regular file", tree)
  | .ok (_, .file) =>
      match tree.canonicalize path with
      | .error e => (cleanupFailure s!"failed to resolve file path: {e.text}", tree)
      | .ok canonicalTarget =>
          if !allowedDirs.any (·.isPrefixOf canonicalTarget) then
            (cleanupFailure "file not within allowed model directory", tree)
          else
            match tree.removeFile path with
            | .ok tree' => ({ cleanupStatus := "deleted", message := "file cleaned up" }, tree')
            | .error e => (cleanupFailure s!"failed to delete file: {e.text}", tree)

def cleanupModelFile (tree : FileTree) (path : String) (allowedModelDirs : List String) :
    CleanupModelFileResult × FileTree :=
  if allowedModelDirs = [] then
    (cleanupFailure "no allowed model directory configured; refusing to delete file", tree)
  else if Text.isBlank path || hasParentDir path then (cleanupFailure "invalid path", tree)
  else if !isAbsolute path then (cleanupFailure "path must be absolute", tree)
  else
    match allowedCanonicalDirs tree allowedModelDirs with
    | .invalidConfig => (cleanupFailure "allowed model directory config is invalid", tree)
    | .missing => (cleanupFailure "allowed model directory does not exist", tree)
    | .inaccessible => (cleanupFailure "allowed model directory not accessible", tree)
    | .dirs allowedDirs =>
        if allowedDirs = [] then (cleanupFailure "allowed model directory config is invalid", tree)
        else deleteAllowed tree path allowedDirs

/-! ### What is deleted -/

section

variable {tree : FileTree} {path : String}

/-- Each directory that counts is the canonical path of a configured one. -/
theorem mem_allowedCanonicalDirs {allowedModelDirs : List String} {dirs : List Location}
    (hdirs : allowedCanonicalDirs tree allowedModelDirs = .dirs dirs) {canonical : Location}
    (hmem : canonical ∈ dirs) :
    ∃ dir ∈ allowedModelDirs, tree.canonicalize dir = .ok canonical ∧
      tree.node canonical = some .dir := by
  have hfound : dirs = (allowedModelDirs.map (allowedCanonicalDir tree)).filterMap AllowedDir.canonical? := by
    unfold allowedCanonicalDirs at hdirs
    dsimp only at hdirs
    split at hdirs
    · exact (AllowedDirResolution.dirs.inj hdirs).symm
    · split at hdirs
      · cases hdirs
      · split at hdirs
        · cases hdirs
        · split at hdirs <;> cases hdirs
  rw [hfound] at hmem
  obtain ⟨found, hfound, hcanonical⟩ := List.mem_filterMap.mp hmem
  obtain ⟨dir, hdir, rfl⟩ := List.mem_map.mp hfound
  refine ⟨dir, hdir, ?_⟩
  unfold allowedCanonicalDir at hcanonical
  split at hcanonical
  · cases hcanonical
  · split at hcanonical
    · cases hcanonical
    · split at hcanonical
      · rename_i location hlocation
        split at hcanonical
        · rename_i hnode
          obtain rfl : location = canonical := Option.some.inj hcanonical
          exact ⟨hlocation, hnode⟩
        · cases hcanonical
      · cases hcanonical
      · cases hcanonical

/-- The entry that a path names has been deleted and nothing else, and it was a regular file in one of
these directories. -/
structure DeletesWithin (tree : FileTree) (path : String) (dirs : List Location) (tree' : FileTree)
    (entry : Location) : Prop where
  names : tree.resolve false path = .ok entry
  regular : tree.node entry = some .file
  canonical : tree.canonicalize path = .ok entry
  within : ∃ dir ∈ dirs, dir <+: entry
  removed : ∀ location, tree'.node location = if location = entry then none else tree.node location

theorem deleteAllowed_cases (tree : FileTree) (path : String) (dirs : List Location) :
    (deleteAllowed tree path dirs).2 = tree ∨
      ∃ entry, DeletesWithin tree path dirs (deleteAllowed tree path dirs).2 entry := by
  unfold deleteAllowed
  cases hmetadata : tree.symlinkMetadata path with
  | error e => cases e <;> exact .inl rfl
  | ok found =>
      obtain ⟨entry, node⟩ := found
      obtain ⟨hnames, hnode, hcanonical⟩ := canonicalize_of_symlinkMetadata hmetadata
      cases node with
      | link target => exact .inl rfl
      | dir => exact .inl rfl
      | other => exact .inl rfl
      | file =>
          have hentry : tree.canonicalize path = .ok entry := hcanonical fun _ h => by cases h
          dsimp only
          rw [hentry]
          dsimp only
          by_cases hwithin : (dirs.any (·.isPrefixOf entry)) = true
          · rw [hwithin, if_neg (by decide)]
            cases hremove : tree.removeFile path with
            | error e => exact .inl rfl
            | ok tree' =>
                obtain ⟨removed, hremoved, hafter⟩ := removeFile_ok hremove
                obtain rfl : entry = removed := Except.ok.inj (hnames.symm.trans hremoved)
                obtain ⟨dir, hdir, hprefix⟩ := List.any_eq_true.mp hwithin
                exact .inr ⟨entry, hnames, hnode, hentry,
                  ⟨dir, hdir, List.isPrefixOf_iff_prefix.mp hprefix⟩, hafter⟩
          · rw [Bool.not_eq_true] at hwithin
            rw [hwithin]
            exact .inl rfl

/-- Either nothing is deleted or exactly the entry that the path names, which is a regular file, no link,
within the canonical path of an allowed directory. -/
theorem cleanup_within_allowed (tree : FileTree) (path : String) (allowedModelDirs : List String) :
    (cleanupModelFile tree path allowedModelDirs).2 = tree ∨
      ∃ entry, tree.resolve false path = .ok entry ∧ tree.node entry = some .file ∧
        tree.canonicalize path = .ok entry ∧
        (∃ dir ∈ allowedModelDirs, ∃ canonical, tree.canonicalize dir = .ok canonical ∧
          tree.node canonical = some .dir ∧ canonical <+: entry) ∧
        ∀ location, (cleanupModelFile tree path allowedModelDirs).2.node location
          = if location = entry then none else tree.node location := by
  unfold cleanupModelFile
  by_cases hnone : allowedModelDirs = []
  · rw [if_pos hnone]
    exact .inl rfl
  rw [if_neg hnone]
  by_cases hinvalid : (Text.isBlank path || hasParentDir path) = true
  · rw [if_pos hinvalid]
    exact .inl rfl
  rw [if_neg hinvalid]
  by_cases hrelative : (!isAbsolute path) = true
  · rw [if_pos hrelative]
    exact .inl rfl
  rw [if_neg hrelative]
  cases hdirs : allowedCanonicalDirs tree allowedModelDirs with
  | invalidConfig => exact .inl rfl
  | missing => exact .inl rfl
  | inaccessible => exact .inl rfl
  | dirs dirs =>
      dsimp only
      by_cases hempty : dirs = []
      · rw [if_pos hempty]
        exact .inl rfl
      · rw [if_neg hempty]
        rcases deleteAllowed_cases tree path dirs with hkept | ⟨entry, hdeletes⟩
        · exact .inl hkept
        · obtain ⟨canonical, hmem, hprefix⟩ := hdeletes.within
          obtain ⟨dir, hdir, hcanonical, hnode⟩ := mem_allowedCanonicalDirs hdirs hmem
          exact .inr ⟨entry, hdeletes.names, hdeletes.regular, hdeletes.canonical,
            ⟨dir, hdir, canonical, hcanonical, hnode, hprefix⟩, hdeletes.removed⟩

end

/-- A directory of models with a file, and a link to a file elsewhere. -/
def modelsTree : FileTree where
  node
    | [] | ["models"] | ["etc"] => some .dir
    | ["models", "chat.gguf"] | ["etc", "passwd"] => some .file
    | ["models", "alias.gguf"] => some (.link "../etc/passwd")
    | _ => none
  root := rfl
  parent_dir := by
    intro parent name hsome
    have hparent : (parent ++ [name]).dropLast = parent := List.dropLast_concat
    split at hsome
    all_goals rename_i hentry
    case h_7 => cases hsome
    all_goals
      rw [hentry] at hparent
      rw [← hparent]
      rfl

example : (cleanupModelFile modelsTree "/models/chat.gguf" ["/models/"]).1
    = { cleanupStatus := "deleted", message := "file cleaned up" } := by decide +kernel

example : (cleanupModelFile modelsTree "/models/alias.gguf" ["/models/"]).1
    = cleanupFailure "Security risk: refusing to delete symlink" := by decide +kernel

end LightAI.Agent
