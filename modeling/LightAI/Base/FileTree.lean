import LightAI.Base.Text

/-!
# Trees of directories, files and symbolic links

A path is followed from the root, name by name. A link on the way is replaced by the names of its target,
and a link at the end is followed or not, as the call asks. After so many links a path is given up.
-/

/-- Where an entry of a tree is: the names on the way to it, none of them a link. -/
abbrev Location := List String

namespace FileTree

inductive Node where
  | dir
  | file
  | link (target : String)
  | other
  deriving DecidableEq

/-- Why a call fails. -/
inductive Errno where
  | notFound
  | notDirectory
  | isDirectory
  | tooManyLinks
  | denied
  | invalid
  deriving DecidableEq

/-- How an error is shown. -/
def Errno.text : Errno → String
  | .notFound => "No such file or directory (os error 2)"
  | .notDirectory => "Not a directory (os error 20)"
  | .isDirectory => "Is a directory (os error 21)"
  | .tooManyLinks => "Too many levels of symbolic links (os error 40)"
  | .denied => "Permission denied (os error 13)"
  | .invalid => "file name contained an unexpected NUL byte"

end FileTree

open FileTree

/-- A tree, with the directories that may be searched and those that may be written to. Only a directory
has entries. -/
structure FileTree where
  node : Location → Option Node
  searchable : Location → Bool := fun _ => true
  writable : Location → Bool := fun _ => true
  root : node [] = some .dir
  parent_dir : ∀ parent name, (node (parent ++ [name])).isSome = true → node parent = some .dir

namespace FileTree

/-- The tree without one entry, which is not a directory. -/
def remove (tree : FileTree) (entry : Location) (hentry : tree.node entry ≠ some .dir) : FileTree where
  node := fun location => if location = entry then none else tree.node location
  searchable := tree.searchable
  writable := tree.writable
  root := by
    have hroot : [] ≠ entry := by
      rintro rfl
      exact hentry tree.root
    rw [if_neg hroot, tree.root]
  parent_dir := by
    intro parent name hsome
    by_cases hhere : parent ++ [name] = entry
    · rw [if_pos hhere] at hsome
      cases hsome
    · rw [if_neg hhere] at hsome
      have hdir := tree.parent_dir parent name hsome
      have hparent : parent ≠ entry := by
        rintro rfl
        exact hentry hdir
      rw [if_neg hparent, hdir]

/-! ### Following a path -/

/-- The names of a path. A slash at the end asks for a directory, as `.` does. -/
def names (path : String) : List String :=
  let pieces := ((path.toList.splitOn '/').map String.ofList).filter (· ≠ "")
  if path.toList.getLast? = some '/' then pieces ++ ["."] else pieces

def isAbsolute (path : String) : Bool := path.toList.head? = some '/'

section Walk

variable (tree : FileTree) (followLast : Bool)

/-- Follows names from a location. `onLink` goes on after a link that is followed. -/
def walkNames (onLink : Location → List String → Except Errno Location) :
    Location → List String → Except Errno Location
  | location, [] => .ok location
  | location, name :: rest =>
      if tree.node location ≠ some .dir then .error .notDirectory
      else if !tree.searchable location then .error .denied
      else if name = "." then walkNames onLink location rest
      else if name = ".." then walkNames onLink location.dropLast rest
      else
        match tree.node (location ++ [name]) with
        | none => .error .notFound
        | some (.link target) =>
            if rest = [] ∧ followLast = false then .ok (location ++ [name])
            else onLink (if isAbsolute target then [] else location) (names target ++ rest)
        | some _ => walkNames onLink (location ++ [name]) rest

/-- Follows names, and so many links at most. -/
def walk : Nat → Location → List String → Except Errno Location
  | 0 => walkNames tree followLast fun _ _ => .error .tooManyLinks
  | links + 1 => walkNames tree followLast (walk links)

end Walk

def maxLinks : Nat := 40

/-- A path given to the system. -/
def resolve (tree : FileTree) (followLast : Bool) (path : String) : Except Errno Location :=
  if '\x00' ∈ path.toList then .error .invalid else tree.walk followLast maxLinks [] (names path)

/-! ### Calls -/

/-- `realpath`. -/
def canonicalize (tree : FileTree) (path : String) : Except Errno Location := tree.resolve true path

/-- `lstat`, with the location of the entry that the path names. -/
def symlinkMetadata (tree : FileTree) (path : String) : Except Errno (Location × Node) :=
  match tree.resolve false path with
  | .error e => .error e
  | .ok entry =>
      match tree.node entry with
      | none => .error .notFound
      | some node => .ok (entry, node)

/-- `unlink`: the last name is looked up in the directory that the names before it lead to. -/
def removeFile (tree : FileTree) (path : String) : Except Errno FileTree :=
  if '\x00' ∈ path.toList then .error .invalid
  else
    match tree.walk true maxLinks [] (names path).dropLast, (names path).getLast? with
    | .error e, _ => .error e
    | .ok _, none => .error .isDirectory
    | .ok parent, some name =>
        if tree.node parent ≠ some .dir then .error .notDirectory
        else if !tree.searchable parent then .error .denied
        else if name = "." ∨ name = ".." then .error .isDirectory
        else
          match h : tree.node (parent ++ [name]) with
          | none => .error .notFound
          | some .dir => .error .isDirectory
          | some .file | some (.link _) | some .other =>
              if tree.writable parent then .ok (tree.remove (parent ++ [name]) (by simp [h]))
              else .error .denied

/-! ### What a path leads to -/

section Walks

variable {tree : FileTree} {name : String} {onLink onLink' : Location → List String → Except Errno Location}

/-- A link that is not the last name is followed. -/
theorem walkNames_link {followLast : Bool} {location : Location} {rest : List String} {target : String}
    (hdir : tree.node location = some .dir) (hsearch : tree.searchable location = true)
    (hname : name ≠ "." ∧ name ≠ "..") (hlink : tree.node (location ++ [name]) = some (.link target))
    (hfollow : ¬(rest = [] ∧ followLast = false)) :
    tree.walkNames followLast onLink location (name :: rest)
      = onLink (if isAbsolute target then [] else location) (names target ++ rest) := by
  rw [walkNames, if_neg (not_not.mpr hdir), hsearch, if_neg (by decide), if_neg hname.1, if_neg hname.2,
    hlink]
  exact if_neg hfollow

theorem walkNames_entry {followLast : Bool} {location : Location} {rest : List String} {node : Node}
    (hdir : tree.node location = some .dir) (hsearch : tree.searchable location = true)
    (hname : name ≠ "." ∧ name ≠ "..") (hnode : tree.node (location ++ [name]) = some node)
    (hlink : ∀ target, node ≠ .link target) :
    tree.walkNames followLast onLink location (name :: rest)
      = tree.walkNames followLast onLink (location ++ [name]) rest := by
  rw [walkNames, if_neg (not_not.mpr hdir), hsearch, if_neg (by decide), if_neg hname.1, if_neg hname.2,
    hnode]
  cases node with
  | link target => exact absurd rfl (hlink target)
  | _ => rfl

/-- What a step from a location leads on with, if it does not fail. -/
inductive Leads (tree : FileTree) (followLast : Bool)
    (onLink : Location → List String → Except Errno Location) (location : Location) (rest : List String)
    (entry : Location) : String → Prop
  | here (hwalk : tree.walkNames followLast onLink location rest = .ok entry) :
      Leads tree followLast onLink location rest entry "."
  | parent (hwalk : tree.walkNames followLast onLink location.dropLast rest = .ok entry) :
      Leads tree followLast onLink location rest entry ".."
  | last {name target : String} (hname : name ≠ "." ∧ name ≠ "..")
      (hlink : tree.node (location ++ [name]) = some (.link target)) (hrest : rest = [])
      (hfollow : followLast = false) (hentry : entry = location ++ [name]) :
      Leads tree followLast onLink location rest entry name
  | link {name target : String} (hname : name ≠ "." ∧ name ≠ "..")
      (hlink : tree.node (location ++ [name]) = some (.link target))
      (hfollow : ¬(rest = [] ∧ followLast = false))
      (hwalk : onLink (if isAbsolute target then [] else location) (names target ++ rest) = .ok entry) :
      Leads tree followLast onLink location rest entry name
  | entry {name : String} {node : Node} (hname : name ≠ "." ∧ name ≠ "..")
      (hnode : tree.node (location ++ [name]) = some node) (hlink : ∀ target, node ≠ .link target)
      (hwalk : tree.walkNames followLast onLink (location ++ [name]) rest = .ok entry) :
      Leads tree followLast onLink location rest entry name

theorem walkNames_cons_ok {followLast : Bool} {location entry : Location} {rest : List String}
    (hwalk : tree.walkNames followLast onLink location (name :: rest) = .ok entry) :
    tree.node location = some .dir ∧ tree.searchable location = true ∧
      Leads tree followLast onLink location rest entry name := by
  rw [walkNames] at hwalk
  by_cases hdir : tree.node location = some .dir
  · rw [if_neg (not_not.mpr hdir)] at hwalk
    cases hsearch : tree.searchable location with
    | false =>
        rw [hsearch] at hwalk
        cases hwalk
    | true =>
        rw [hsearch, if_neg (by decide)] at hwalk
        refine ⟨hdir, rfl, ?_⟩
        by_cases hdot : name = "."
        · rw [if_pos hdot] at hwalk
          rw [hdot]
          exact .here hwalk
        · rw [if_neg hdot] at hwalk
          by_cases hparent : name = ".."
          · rw [if_pos hparent] at hwalk
            rw [hparent]
            exact .parent hwalk
          · rw [if_neg hparent] at hwalk
            cases hnode : tree.node (location ++ [name]) with
            | none =>
                rw [hnode] at hwalk
                cases hwalk
            | some node =>
                rw [hnode] at hwalk
                cases node with
                | link target =>
                    dsimp only at hwalk
                    by_cases hlast : rest = [] ∧ followLast = false
                    · rw [if_pos hlast] at hwalk
                      exact .last ⟨hdot, hparent⟩ hnode hlast.1 hlast.2 (Except.ok.inj hwalk).symm
                    · rw [if_neg hlast] at hwalk
                      exact .link ⟨hdot, hparent⟩ hnode hlast hwalk
                | dir => exact .entry ⟨hdot, hparent⟩ hnode (fun _ h => by cases h) hwalk
                | file => exact .entry ⟨hdot, hparent⟩ hnode (fun _ h => by cases h) hwalk
                | other => exact .entry ⟨hdot, hparent⟩ hnode (fun _ h => by cases h) hwalk
  · rw [if_pos hdir] at hwalk
    cases hwalk

/-- The last name of a path is looked up where the names before it lead to. -/
theorem walkNames_concat {parent : Location} {node : Node} (hdir : tree.node parent = some .dir)
    (hsearch : tree.searchable parent = true) (hname : name ≠ "." ∧ name ≠ "..")
    (hnode : tree.node (parent ++ [name]) = some node)
    (honLink : ∀ location init, onLink location init = .ok parent →
      onLink' location (init ++ [name]) = .ok (parent ++ [name])) (init : List String) :
    ∀ location, tree.walkNames true onLink location init = .ok parent →
      tree.walkNames false onLink' location (init ++ [name]) = .ok (parent ++ [name]) := by
  induction init with
  | nil =>
      intro location hwalk
      obtain rfl : location = parent := Except.ok.inj hwalk
      rw [List.nil_append]
      cases node with
      | link target =>
          rw [walkNames, if_neg (not_not.mpr hdir), hsearch, if_neg (by decide), if_neg hname.1,
            if_neg hname.2, hnode]
          exact if_pos ⟨rfl, rfl⟩
      | dir => exact (walkNames_entry hdir hsearch hname hnode fun _ h => by cases h).trans rfl
      | file => exact (walkNames_entry hdir hsearch hname hnode fun _ h => by cases h).trans rfl
      | other => exact (walkNames_entry hdir hsearch hname hnode fun _ h => by cases h).trans rfl
  | cons first rest ih =>
      intro location hwalk
      obtain ⟨hhere, hsearchable, hleads⟩ := walkNames_cons_ok hwalk
      rw [List.cons_append]
      cases hleads with
      | here hnext =>
          rw [walkNames, if_neg (not_not.mpr hhere), hsearchable, if_neg (by decide), if_pos rfl]
          exact ih location hnext
      | parent hnext =>
          rw [walkNames, if_neg (not_not.mpr hhere), hsearchable, if_neg (by decide),
            if_neg (by decide), if_pos rfl]
          exact ih _ hnext
      | last hfirst hlink hrest hfollow => cases hfollow
      | link hfirst hlink hfollow hnext =>
          have hmore : ¬(rest ++ [name] = [] ∧ false = false) := fun h =>
            absurd h.1 (List.append_ne_nil_of_right_ne_nil _ (List.cons_ne_nil _ _))
          rw [walkNames_link hhere hsearchable hfirst hlink hmore, ← List.append_assoc]
          exact honLink _ _ hnext
      | entry hfirst hnode hlink hnext =>
          rw [walkNames_entry hhere hsearchable hfirst hnode hlink]
          exact ih _ hnext

theorem walk_concat {parent : Location} {node : Node} (hdir : tree.node parent = some .dir)
    (hsearch : tree.searchable parent = true) (hname : name ≠ "." ∧ name ≠ "..")
    (hnode : tree.node (parent ++ [name]) = some node) (links : Nat) :
    ∀ location init, tree.walk true links location init = .ok parent →
      tree.walk false links location (init ++ [name]) = .ok (parent ++ [name]) := by
  induction links with
  | zero =>
      intro location init hwalk
      refine walkNames_concat hdir hsearch hname hnode (fun location init h => ?_) init location hwalk
      cases h
  | succ links ih =>
      intro location init hwalk
      exact walkNames_concat hdir hsearch hname hnode ih init location hwalk

/-- What a path names without its last link being followed is where the path leads, unless it is a
link. -/
theorem walkNames_follow {entry : Location} (hentry : ∀ target, tree.node entry ≠ some (.link target))
    (honLink : ∀ location init, onLink location init = .ok entry → onLink' location init = .ok entry)
    (init : List String) :
    ∀ location, tree.walkNames false onLink location init = .ok entry →
      tree.walkNames true onLink' location init = .ok entry := by
  induction init with
  | nil => exact fun _ hwalk => hwalk
  | cons first rest ih =>
      intro location hwalk
      obtain ⟨hhere, hsearchable, hleads⟩ := walkNames_cons_ok hwalk
      cases hleads with
      | here hnext =>
          rw [walkNames, if_neg (not_not.mpr hhere), hsearchable, if_neg (by decide), if_pos rfl]
          exact ih location hnext
      | parent hnext =>
          rw [walkNames, if_neg (not_not.mpr hhere), hsearchable, if_neg (by decide),
            if_neg (by decide), if_pos rfl]
          exact ih _ hnext
      | last hfirst hlink hrest hfollow hlast =>
          rw [hlast] at hentry
          exact absurd hlink (hentry _)
      | link hfirst hlink hfollow hnext =>
          have hmore : ¬(rest = [] ∧ true = false) := fun h => absurd h.2 (by decide)
          rw [walkNames_link hhere hsearchable hfirst hlink hmore]
          exact honLink _ _ hnext
      | entry hfirst hnode hlink hnext =>
          rw [walkNames_entry hhere hsearchable hfirst hnode hlink]
          exact ih _ hnext

theorem walk_follow {entry : Location} (hentry : ∀ target, tree.node entry ≠ some (.link target))
    (links : Nat) :
    ∀ location init, tree.walk false links location init = .ok entry →
      tree.walk true links location init = .ok entry := by
  induction links with
  | zero =>
      intro location init hwalk
      exact walkNames_follow hentry (fun _ _ h => h) init location hwalk
  | succ links ih =>
      intro location init hwalk
      exact walkNames_follow hentry ih init location hwalk

end Walks

section Calls

variable {tree tree' : FileTree} {path : String}

/-- What is found without following the last link is where the path leads, unless it is a link. -/
theorem canonicalize_of_symlinkMetadata {entry : Location} {node : Node}
    (hmetadata : tree.symlinkMetadata path = .ok (entry, node)) :
    tree.resolve false path = .ok entry ∧ tree.node entry = some node ∧
      ((∀ target, node ≠ .link target) → tree.canonicalize path = .ok entry) := by
  unfold symlinkMetadata at hmetadata
  cases hresolve : tree.resolve false path with
  | error e =>
      rw [hresolve] at hmetadata
      cases hmetadata
  | ok found =>
      rw [hresolve] at hmetadata
      dsimp only at hmetadata
      cases hnode : tree.node found with
      | none =>
          rw [hnode] at hmetadata
          cases hmetadata
      | some stored =>
          rw [hnode] at hmetadata
          obtain ⟨rfl, rfl⟩ := Prod.mk.inj (Except.ok.inj hmetadata)
          refine ⟨rfl, hnode, fun hother => ?_⟩
          have hlast : ∀ target, tree.node found ≠ some (.link target) := by
            intro target heq
            exact hother target (Option.some.inj (hnode.symm.trans heq))
          unfold resolve at hresolve
          unfold canonicalize resolve
          by_cases hnul : '\x00' ∈ path.toList
          · rw [if_pos hnul] at hresolve
            cases hresolve
          · rw [if_neg hnul] at hresolve
            rw [if_neg hnul]
            exact walk_follow hlast maxLinks [] _ hresolve

/-- A call that removes an entry removes the one that the path names, and nothing else. -/
theorem removeFile_ok (hremove : tree.removeFile path = .ok tree') :
    ∃ entry, tree.resolve false path = .ok entry ∧
      ∀ location, tree'.node location = if location = entry then none else tree.node location := by
  unfold removeFile at hremove
  by_cases hnul : '\x00' ∈ path.toList
  · rw [if_pos hnul] at hremove
    cases hremove
  rw [if_neg hnul] at hremove
  cases hwalk : tree.walk true maxLinks [] (names path).dropLast with
  | error e =>
      rw [hwalk] at hremove
      cases hremove
  | ok parent =>
      cases hlast : (names path).getLast? with
      | none =>
          rw [hwalk, hlast] at hremove
          cases hremove
      | some name =>
          rw [hwalk, hlast] at hremove
          dsimp only at hremove
          by_cases hdir : tree.node parent = some .dir
          · rw [if_neg (not_not.mpr hdir)] at hremove
            cases hsearch : tree.searchable parent with
            | false =>
                rw [hsearch] at hremove
                cases hremove
            | true =>
                rw [hsearch, if_neg (by decide)] at hremove
                by_cases hdots : name = "." ∨ name = ".."
                · rw [if_pos hdots] at hremove
                  cases hremove
                · rw [if_neg hdots] at hremove
                  have hnames : (names path).dropLast ++ [name] = names path :=
                    List.dropLast_append_getLast? name hlast
                  have hfound : ∀ node, tree.node (parent ++ [name]) = some node →
                      tree.resolve false path = .ok (parent ++ [name]) := by
                    intro node hnode
                    unfold resolve
                    rw [if_neg hnul, ← hnames]
                    exact walk_concat hdir hsearch (not_or.mp hdots) hnode maxLinks [] _ hwalk
                  split at hremove
                  · cases hremove
                  · cases hremove
                  all_goals
                    rename_i hnode
                    by_cases hwritable : tree.writable parent = true
                    · rw [if_pos hwritable] at hremove
                      refine ⟨parent ++ [name], hfound _ hnode, ?_⟩
                      rw [← Except.ok.inj hremove]
                      exact fun _ => rfl
                    · rw [if_neg hwritable] at hremove
                      cases hremove
          · rw [if_pos hdir] at hremove
            cases hremove

end Calls

end FileTree
