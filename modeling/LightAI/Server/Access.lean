import LightAI.Server.Users

/-!
# What a role may request

The rule on paths of the control plane, and the role that a user has through the groups. A higher role
may request whatever a lower one may, so that a membership never takes a permission away.
-/

namespace LightAI.Users

open Fallible

inductive Method where
  | get
  | head
  | post
  | put
  | delete
  | patch
  | other (name : String)
  deriving DecidableEq

/-! ### The rule -/

/-- The paths of administrators alone, whatever the method. -/
def adminPath (path : String) : Bool :=
  Text.startsWith path "/api/users" || Text.startsWith path "/api/groups"
    || Text.startsWith path "/api/config" || Text.startsWith path "/api/model-file-trash"

def isAuthorizedForPath (user : AuthUser) (method : Method) (path : String) : Bool :=
  let role := user.effectiveRole
  if role = "admin" then true
  else if Text.startsWith path "/api/auth/" || path = "/api/frontend-errors" then true
  else if adminPath path then false
  else if Text.startsWith path "/api/nodes/" && Text.contains path "/gateway/" then
    role = "admin" || role = "operator"
  else if role = "operator" then true
  else method = .get

theorem roleRank_eq_three {role : String} : roleRank role = 3 ↔ role = "admin" := by
  constructor
  · intro hrank
    unfold roleRank at hrank
    split at hrank
    · rfl
    all_goals cases hrank
  · rintro rfl
    rfl

theorem two_le_roleRank {role : String} :
    2 ≤ roleRank role ↔ role = "admin" ∨ role = "operator" := by
  constructor
  · intro hrank
    unfold roleRank at hrank
    split at hrank
    · exact Or.inl rfl
    · exact Or.inr rfl
    all_goals omega
  · rintro (rfl | rfl) <;> decide

theorem roleRank_le_three (role : String) : roleRank role ≤ 3 := by
  unfold roleRank
  split <;> omega

theorem known_of_roleRank_pos {role : String} (hpos : 0 < roleRank role) :
    role = "admin" ∨ role = "operator" ∨ role = "viewer" := by
  unfold roleRank at hpos
  split at hpos
  · exact Or.inl rfl
  · exact Or.inr (Or.inl rfl)
  · exact Or.inr (Or.inr rfl)
  · omega

/-- The names of two roles of one rank agree, unless the rank is that of no role. -/
theorem eq_of_roleRank_eq {role role' : String} (hrank : roleRank role = roleRank role')
    (hpos : 0 < roleRank role) : role = role' := by
  have hpos' : 0 < roleRank role' := by omega
  obtain rfl | rfl | rfl := known_of_roleRank_pos hpos <;>
    obtain rfl | rfl | rfl := known_of_roleRank_pos hpos' <;>
      first
      | rfl
      | cases hrank

/-- What a request needs of the rank, on a path and with a method. -/
def requiredRank (method : Method) (path : String) : Nat :=
  if Text.startsWith path "/api/auth/" || path = "/api/frontend-errors" then 0
  else if adminPath path then 3
  else if Text.startsWith path "/api/nodes/" && Text.contains path "/gateway/" then 2
  else if method = .get then 0
  else 2

theorem isAuthorizedForPath_iff (user : AuthUser) (method : Method) (path : String) :
    isAuthorizedForPath user method path = true
      ↔ requiredRank method path ≤ roleRank user.effectiveRole := by
  have hadmin := @roleRank_eq_three user.effectiveRole
  have hoperator := @two_le_roleRank user.effectiveRole
  have hmost := roleRank_le_three user.effectiveRole
  unfold isAuthorizedForPath requiredRank
  by_cases hfree : (Text.startsWith path "/api/auth/" || path = "/api/frontend-errors") = true
  · simp [hfree]
  by_cases hclosed : adminPath path = true
  · by_cases hrole : user.effectiveRole = "admin"
    · simp [hfree, hclosed, hrole, roleRank]
    · have hless : roleRank user.effectiveRole ≠ 3 := fun h => hrole (hadmin.mp h)
      simp only [hrole, hfree, hclosed, if_true, if_false, Bool.false_eq_true]
      constructor
      · intro h
        cases h
      · intro h
        omega
  by_cases hgateway : (Text.startsWith path "/api/nodes/" && Text.contains path "/gateway/") = true
  · simp only [hfree, hclosed, hgateway, if_true, if_false, Bool.false_eq_true]
    rw [hoperator]
    by_cases hrole : user.effectiveRole = "admin" <;> simp [hrole]
  · simp only [hfree, hclosed, hgateway, if_false, Bool.false_eq_true]
    by_cases hget : method = .get
    · simp [hget]
    · simp only [hget, if_false, decide_false]
      rw [hoperator]
      by_cases hrole : user.effectiveRole = "admin" <;> simp [hrole]

theorem isAuthorizedForPath_mono {user user' : AuthUser} {method : Method} {path : String}
    (hrank : roleRank user.effectiveRole ≤ roleRank user'.effectiveRole)
    (hallowed : isAuthorizedForPath user method path = true) :
    isAuthorizedForPath user' method path = true :=
  (isAuthorizedForPath_iff user' method path).mpr
    (((isAuthorizedForPath_iff user method path).mp hallowed).trans hrank)

/-! ### The role through the groups -/

/-- The loop of `enrich_effective_role` keeps the first of the highest roles. -/
theorem argmax_roles (role : String) (groupRoles : List String) :
    List.argmax roleRank (role :: groupRoles) = some (effectiveRole role groupRoles) := by
  unfold effectiveRole List.argmax
  rw [List.foldl_cons]
  change groupRoles.foldl _ (some role) = _
  induction groupRoles generalizing role with
  | nil => rfl
  | cons next rest ih =>
      rw [List.foldl_cons, List.foldl_cons]
      by_cases hhigher : roleRank next > roleRank role
      · rw [if_pos hhigher, ← ih next]
        congr 1
        exact if_pos hhigher
      · rw [if_neg hhigher, ← ih role]
        congr 1
        exact if_neg hhigher

theorem effectiveRole_mem (role : String) (groupRoles : List String) :
    effectiveRole role groupRoles ∈ role :: groupRoles :=
  List.argmax_mem (argmax_roles role groupRoles)

theorem le_effectiveRole {role : String} {groupRoles : List String} {r : String}
    (hr : r ∈ role :: groupRoles) : roleRank r ≤ roleRank (effectiveRole role groupRoles) :=
  List.le_of_mem_argmax hr (argmax_roles role groupRoles)

theorem effectiveRole_mono {role : String} {groupRoles groupRoles' : List String}
    (hsub : groupRoles ⊆ groupRoles') :
    roleRank (effectiveRole role groupRoles) ≤ roleRank (effectiveRole role groupRoles') :=
  le_effectiveRole (List.cons_subset_cons role hsub (effectiveRole_mem role groupRoles))

/-- The order in which the groups are read does not matter, not even for the name of the role. -/
theorem effectiveRole_perm {role : String} {groupRoles groupRoles' : List String}
    (hperm : groupRoles.Perm groupRoles') :
    effectiveRole role groupRoles = effectiveRole role groupRoles' := by
  have hrank : roleRank (effectiveRole role groupRoles)
      = roleRank (effectiveRole role groupRoles') :=
    le_antisymm (effectiveRole_mono hperm.subset) (effectiveRole_mono hperm.symm.subset)
  by_cases hpos : 0 < roleRank (effectiveRole role groupRoles)
  · exact eq_of_roleRank_eq hrank hpos
  · -- No role is above none at all, so the loop keeps the direct role.
    have hkept : ∀ roles : List String, roleRank (effectiveRole role roles) = 0 →
        effectiveRole role roles = role := by
      intro roles hzero
      have hall : ∀ r ∈ role :: roles, roleRank r = 0 := fun r hr => by
        have hle := le_effectiveRole hr
        omega
      unfold effectiveRole
      clear hzero
      induction roles with
      | nil => rfl
      | cons next rest ih =>
          have hnext : roleRank next = 0 := hall next (by simp)
          have hstay : ¬ roleRank next > roleRank role := by omega
          rw [List.foldl_cons, if_neg hstay]
          refine ih fun r hr => hall r ?_
          rcases List.mem_cons.mp hr with rfl | hr
          · exact List.mem_cons_self
          · exact List.mem_cons_of_mem _ (List.mem_cons_of_mem _ hr)
    rw [hkept groupRoles (by omega), hkept groupRoles' (by omega)]

/-! ### Memberships -/

/-- The user of a row, as a request of his is answered. -/
def Accounts.authUser (accounts : Accounts) (row : User) : AuthUser :=
  { userFromRow row with effectiveRole := effectiveRole row.role (accounts.groupRoles row.id) }

theorem serve_enrichEffectiveRole (row : User) (accounts : Accounts) :
    serve Stmt.exec (enrichEffectiveRole (userFromRow row)) accounts
      = (.ok (accounts.authUser row), accounts) := rfl

theorem mem_groupRoles {accounts : Accounts} {userId role : String} :
    role ∈ accounts.groupRoles userId
      ↔ ∃ group ∈ accounts.groups.rows, (group.id, userId) ∈ accounts.members
          ∧ group.enabled = true ∧ group.role = role := by
  unfold Accounts.groupRoles
  rw [List.mem_filterMap]
  constructor
  · rintro ⟨⟨groupId, memberId⟩, hmember, hfound⟩
    obtain ⟨hmember, hid⟩ := List.mem_filter.mp hmember
    have hid : memberId = userId := of_decide_eq_true hid
    obtain ⟨group, hgroup, hrole⟩ := Option.map_eq_some_iff.mp hfound
    obtain ⟨hfind, henabled⟩ := Option.filter_eq_some_iff.mp hgroup
    have hkey : group.id = groupId := Table.find?_key hfind
    rw [hid, ← hkey] at hmember
    exact ⟨group, Table.find?_mem hfind, hmember, henabled, hrole⟩
  · rintro ⟨group, hgroup, hmember, henabled, hrole⟩
    refine ⟨(group.id, userId), List.mem_filter.mpr ⟨hmember, decide_eq_true rfl⟩, ?_⟩
    rw [Table.find?_of_mem hgroup]
    exact Option.map_eq_some_iff.mpr
      ⟨group, Option.filter_eq_some_iff.mpr ⟨rfl, henabled⟩, hrole⟩

/-- The ranks that a user has, directly and through the enabled groups. -/
def Accounts.ranks (accounts : Accounts) (row : User) : Set Nat :=
  {rank | rank = roleRank row.role ∨ ∃ group ∈ accounts.groups.rows,
    (group.id, row.id) ∈ accounts.members ∧ group.enabled = true ∧ rank = roleRank group.role}

theorem isGreatest_authUser (accounts : Accounts) (row : User) :
    IsGreatest (accounts.ranks row) (roleRank (accounts.authUser row).effectiveRole) := by
  constructor
  · have hmem := effectiveRole_mem row.role (accounts.groupRoles row.id)
    obtain hdirect | hgroup := List.mem_cons.mp hmem
    · exact Or.inl (congrArg roleRank hdirect)
    · obtain ⟨group, hrow, hmember, henabled, hrole⟩ := mem_groupRoles.mp hgroup
      exact Or.inr ⟨group, hrow, hmember, henabled, congrArg roleRank hrole.symm⟩
  · rintro rank (rfl | ⟨group, hrow, hmember, henabled, rfl⟩)
    · exact le_effectiveRole List.mem_cons_self
    · have hrole : group.role ∈ accounts.groupRoles row.id :=
        mem_groupRoles.mpr ⟨group, hrow, hmember, henabled, rfl⟩
      exact le_effectiveRole (List.mem_cons_of_mem _ hrole)

/-- More ranks, and with them more permissions. -/
theorem authUser_mono {accounts accounts' : Accounts} {row : User} {method : Method} {path : String}
    (hsub : accounts.groupRoles row.id ⊆ accounts'.groupRoles row.id)
    (hallowed : isAuthorizedForPath (accounts.authUser row) method path = true) :
    isAuthorizedForPath (accounts'.authUser row) method path = true :=
  isAuthorizedForPath_mono (effectiveRole_mono hsub) hallowed

theorem serve_userById (id : String) (accounts : Accounts) :
    serve Stmt.exec (userById id) accounts
      = (.ok ((accounts.users.find? id).map accounts.authUser), accounts) := by
  unfold userById
  have hread : serve Stmt.exec (query fun accounts => accounts.users.find? id) accounts
      = (.ok (accounts.users.find? id), accounts) := rfl
  refine (serve_bind_ok hread _).trans ?_
  cases accounts.users.find? id with
  | none => rfl
  | some row => rfl

/-- `update_user_group` does nothing, or one `UPDATE` with what the request leaves out taken from the
row. -/
theorem updateUserGroup_state {id : String} {request : UserGroupUpdateRequest} {accounts : Accounts}
    {P : Accounts → Prop} (hsame : P accounts)
    (hwritten : ∀ existing name, accounts.groups.find? id = some existing →
      P (Stmt.exec (.updateGroup id name (request.role.getD existing.role)
        (request.enabled.getD existing.enabled) accounts.clock) accounts).2) :
    P (serve Stmt.exec (updateUserGroup id request) accounts).2 := by
  refine Ends.state ?_
  unfold updateUserGroup userGroupById
  refine Ends.bind (ends_query ?_)
  refine Ends.bind (ends_required (fun existing hexisting => ?_) fun _ => hsame)
  refine Ends.bind (ends_checked (fun _ _ => ?_) fun _ _ => hsame)
  refine Ends.bind (ends_checked (fun _ _ => ?_) fun _ _ => hsame)
  refine Ends.bind (ends_query ?_)
  refine Ends.bind (ends_execute ?_)
  have hrow := hwritten existing (Text.trim (request.name.getD existing.name)) hexisting
  refine Ends.bind (ends_inserted (fun _ => ?_) fun _ => hrow)
  refine Ends.bind (ends_query ?_)
  exact ends_required (fun _ _ => hrow) fun _ => hrow

theorem ends_checkMembers {userIds : List String} {accounts : Accounts} {P : Accounts → Prop}
    (hsame : P accounts) :
    Ends Stmt.exec (checkMembers userIds) accounts (fun _ s => s = accounts) fun _ s => P s := by
  induction userIds with
  | nil => exact ends_pure rfl
  | cons userId rest ih =>
      unfold checkMembers
      refine Ends.bind (.of_serve_ok (serve_userById userId accounts) ?_)
      refine Ends.bind (ends_rejectIf (fun _ => ?_) fun _ => hsame)
      exact ih

/-- `replace_user_group_members` does nothing, or replaces the members by the users of the request. -/
theorem replaceUserGroupMembers_state {groupId : String} {userIds : List String}
    {accounts : Accounts} {P : Accounts → Prop} (hsame : P accounts)
    (hwritten : P (Stmt.exec (.replaceMembers groupId userIds.dedup) accounts).2) :
    P (serve Stmt.exec (replaceUserGroupMembers groupId userIds) accounts).2 := by
  refine Ends.state ?_
  unfold replaceUserGroupMembers userGroupById
  refine Ends.bind (ends_query ?_)
  refine Ends.bind (ends_rejectIf (fun _ => ?_) fun _ => hsame)
  refine Ends.bind ((ends_checkMembers hsame).mono (fun _ s hs => ?_) fun _ _ hs => hs)
  subst hs
  refine Ends.bind (ends_execute ?_)
  refine Ends.bind (ends_inserted (fun _ => ?_) fun _ => hwritten)
  refine Ends.bind (ends_query ?_)
  exact ends_required (fun _ _ => hwritten) fun _ => hwritten

/-- The groups of a user after the members of a group are replaced by more of them. -/
theorem groupRoles_replaceMembers {accounts : Accounts} {groupId : String} {userIds : List String}
    (hmore : ∀ userId, (groupId, userId) ∈ accounts.members → userId ∈ userIds) (userId : String) :
    accounts.groupRoles userId
      ⊆ (Stmt.exec (.replaceMembers groupId userIds) accounts).2.groupRoles userId := by
  intro role hrole
  rw [Stmt.exec]
  split
  · exact hrole
  · obtain ⟨group, hrow, hmember, henabled, hname⟩ := mem_groupRoles.mp hrole
    refine mem_groupRoles.mpr ⟨group, hrow, ?_, henabled, hname⟩
    by_cases hgroup : group.id = groupId
    · have hlisted : userId ∈ userIds := hmore userId (hgroup ▸ hmember)
      rw [hgroup]
      exact List.mem_append_right _ (List.mem_map.mpr ⟨userId, hlisted, rfl⟩)
    · exact List.mem_append_left _ (List.mem_filter.mpr ⟨hmember, decide_eq_true hgroup⟩)

/-- The groups of a user after a group is enabled that keeps its role. -/
theorem groupRoles_updateGroup {accounts : Accounts} {id name : String} {now : Int}
    {existing : UserGroup} (hexisting : accounts.groups.find? id = some existing)
    (userId : String) :
    accounts.groupRoles userId
      ⊆ (Stmt.exec (.updateGroup id name existing.role true now) accounts).2.groupRoles userId := by
  intro role hrole
  rw [Stmt.exec]
  split
  · exact hrole
  · obtain ⟨group, hrow, hmember, henabled, hname⟩ := mem_groupRoles.mp hrole
    by_cases hgroup : group.id = id
    · have hsame : group = existing := by
        have hfind := Table.find?_of_mem hrow
        rw [hgroup, hexisting] at hfind
        exact (Option.some.inj hfind).symm
      subst hsame
      refine mem_groupRoles.mpr ⟨group.set name group.role true now, ?_, hmember, rfl, hname⟩
      simp only [Table.update, Table.mem_updateWhere]
      exact ⟨group, hrow, (if_pos (decide_eq_true hgroup)).symm⟩
    · refine mem_groupRoles.mpr ⟨group, ?_, hmember, henabled, hname⟩
      simp only [Table.update, Table.mem_updateWhere]
      exact ⟨group, hrow, (if_neg fun h => hgroup (of_decide_eq_true h)).symm⟩

/-- A higher role is permitted whatever a lower one is. The role of a user has the highest rank that he
has, whatever the order of his groups, so that neither a new member of a group nor an enabled group
takes a permission from anyone. -/
theorem permissions_monotone :
    (∀ (user user' : AuthUser) (method : Method) (path : String),
      roleRank user.effectiveRole ≤ roleRank user'.effectiveRole →
      isAuthorizedForPath user method path = true → isAuthorizedForPath user' method path = true)
    ∧ (∀ (accounts : Accounts) (row : User), ∃ user,
      serve Stmt.exec (enrichEffectiveRole (userFromRow row)) accounts = (.ok user, accounts)
        ∧ IsGreatest (accounts.ranks row) (roleRank user.effectiveRole))
    ∧ (∀ (role : String) (groupRoles groupRoles' : List String), groupRoles.Perm groupRoles' →
      effectiveRole role groupRoles = effectiveRole role groupRoles')
    ∧ (∀ (accounts : Accounts) (groupId : String) (userIds : List String) (row : User)
        (method : Method) (path : String),
      (∀ userId, (groupId, userId) ∈ accounts.members → userId ∈ userIds) →
      isAuthorizedForPath (accounts.authUser row) method path = true →
      isAuthorizedForPath
        ((serve Stmt.exec (replaceUserGroupMembers groupId userIds) accounts).2.authUser row)
        method path = true)
    ∧ ∀ (accounts : Accounts) (id : String) (name : Option String) (row : User) (method : Method)
        (path : String),
      isAuthorizedForPath (accounts.authUser row) method path = true →
      isAuthorizedForPath
        ((serve Stmt.exec (updateUserGroup id { name, enabled := some true }) accounts).2.authUser
          row) method path = true := by
  refine ⟨fun _ _ _ _ => isAuthorizedForPath_mono, ?_, fun _ _ _ => effectiveRole_perm, ?_, ?_⟩
  · intro accounts row
    exact ⟨accounts.authUser row, serve_enrichEffectiveRole row accounts,
      isGreatest_authUser accounts row⟩
  · intro accounts groupId userIds row method path hmore hallowed
    have hdedup : ∀ userId, (groupId, userId) ∈ accounts.members → userId ∈ userIds.dedup :=
      fun userId hmember => List.mem_dedup.mpr (hmore userId hmember)
    refine replaceUserGroupMembers_state
      (P := fun s => isAuthorizedForPath (s.authUser row) method path = true) hallowed ?_
    exact authUser_mono (groupRoles_replaceMembers hdedup row.id) hallowed
  · intro accounts id name row method path hallowed
    refine updateUserGroup_state
      (P := fun s => isAuthorizedForPath (s.authUser row) method path = true) hallowed ?_
    intro existing newName hexisting
    exact authUser_mono (groupRoles_updateGroup hexisting row.id) hallowed

/-- A viewer, and a group of operators that nobody belongs to. -/
def viewerRow : User :=
  { id := "u"
    username := "eve"
    passwordHash := ""
    role := "viewer"
    passwordChangedAt := 0
    createdAt := 0
    updatedAt := 0 }

def operatorGroup : UserGroup :=
  { id := "g", name := "ops", role := "operator", createdAt := 0, updatedAt := 0 }

def viewerAccounts : Accounts :=
  { clock := 0
    users := ⟨[viewerRow], by decide⟩
    groups := ⟨[operatorGroup], by decide⟩ }

theorem permissions_monotone_at_members :
    isAuthorizedForPath
      ((serve Stmt.exec (replaceUserGroupMembers "g" ["u"]) viewerAccounts).2.authUser viewerRow)
      .get "/api/nodes" = true :=
  permissions_monotone.2.2.2.1 viewerAccounts "g" ["u"] viewerRow .get "/api/nodes"
    (fun _ hmember => absurd hmember List.not_mem_nil) (by decide)

end LightAI.Users
