import LightAI.Server.ControlPlane
import LightAI.Server.Sessions

/-!
# Who reaches the state of administrators

Every route that writes the state of administrators is closed to other roles, by the rule on its path or
by the check of its handler, except for the one of a node's agent policy, whose path is that of a node.
-/

namespace LightAI.Users

open Fallible Router

/-! ### Which tables stay -/

/-- A user row without what its owner sets with his own password. -/
def User.withoutPassword (me : String) (user : User) : User :=
  if user.id = me then
    { user with passwordHash := "", passwordChangedAt := 0, mustChangePassword := false, updatedAt := 0 }
  else user

/-- The state of administrators is the same, up to the password that the user `me` sets himself. -/
structure AdminStateKept (me : String) (control control' : Control) : Prop where
  users : control'.accounts.users.rows.map (·.withoutPassword me)
    = control.accounts.users.rows.map (·.withoutPassword me)
  groups : control'.accounts.groups = control.accounts.groups
  members : control'.accounts.members = control.accounts.members
  policies : control'.agentConfigPolicies = control.agentConfigPolicies
  collectors : control'.collectorRegistry = control.collectorRegistry
  logPolicy : control'.serverLogPolicy = control.serverLogPolicy
  cleanups : control'.cleanups = control.cleanups

variable {me : String} {control control' control'' : Control} {deployment : Deployment}
  {request : HttpRequest} {params : List String}

theorem AdminStateKept.refl (me : String) (control : Control) : AdminStateKept me control control :=
  ⟨rfl, rfl, rfl, rfl, rfl, rfl, rfl⟩

theorem AdminStateKept.trans (h : AdminStateKept me control control')
    (h' : AdminStateKept me control' control'') : AdminStateKept me control control'' :=
  ⟨h'.users.trans h.users, h'.groups.trans h.groups, h'.members.trans h.members,
    h'.policies.trans h.policies, h'.collectors.trans h.collectors,
    h'.logPolicy.trans h.logPolicy, h'.cleanups.trans h.cleanups⟩

/-- Only sessions and the clock may differ. -/
def SameAccounts (accounts accounts' : Accounts) : Prop :=
  accounts'.users = accounts.users ∧ accounts'.groups = accounts.groups
    ∧ accounts'.members = accounts.members

theorem kept_run {α : Type} {operation : Operation α}
    (hsame : SameAccounts control.accounts (serve Stmt.exec operation control.accounts).2) :
    AdminStateKept me control (control.run operation) := by
  obtain ⟨husers, hgroups, hmembers⟩ := hsame
  refine ⟨?_, hgroups, hmembers, rfl, rfl, rfl, rfl⟩
  change ((serve Stmt.exec operation control.accounts).2.users.rows.map _) = _
  rw [husers]

/-! ### The operations on sessions -/

def Stmt.AboutSessions : Stmt → Prop
  | select _ | insertSession _ | revokeUserSessions .. | revokeSession .. | touchSession .. => True
  | _ => False

theorem exec_aboutSessions (stmt : Stmt) (accounts : Accounts) (hstmt : stmt.AboutSessions) :
    SameAccounts accounts (stmt.exec accounts).2 := by
  cases stmt with
  | insertSession session =>
      change SameAccounts accounts (accounts.insertSession session).2
      unfold Accounts.insertSession
      split
      · exact ⟨rfl, rfl, rfl⟩
      · split <;> exact ⟨rfl, rfl, rfl⟩
  | select query => exact ⟨rfl, rfl, rfl⟩
  | revokeUserSessions userId now => exact ⟨rfl, rfl, rfl⟩
  | revokeSession tokenHash now => exact ⟨rfl, rfl, rfl⟩
  | touchSession tokenHash now => exact ⟨rfl, rfl, rfl⟩
  | _ => cases hstmt

theorem sameAccounts_of_only {α : Type} {operation : Operation α} (accounts : Accounts)
    (honly : Only Stmt.AboutSessions operation) :
    SameAccounts accounts (serve Stmt.exec operation accounts).2 := by
  refine honly.respects (fun _ => ⟨rfl, rfl, rfl⟩) ?_ exec_aboutSessions accounts
  rintro s t u ⟨husers, hgroups, hmembers⟩ ⟨husers', hgroups', hmembers'⟩
  exact ⟨husers'.trans husers, hgroups'.trans hgroups, hmembers'.trans hmembers⟩

private theorem sessions_select {β : Type} (q : Accounts → β) : (Stmt.select q).AboutSessions :=
  trivial

theorem only_enrichEffectiveRole (user : AuthUser) :
    Only Stmt.AboutSessions (enrichEffectiveRole user) :=
  only_bind (only_query _ sessions_select _) fun _ => only_pure _

theorem loginUser_only (crypto : Crypto) (username password : String) (sessionPolicy : SessionPolicy)
    (passwordPolicy : PasswordPolicy) (sessionId sessionToken : String) :
    Only Stmt.AboutSessions
      (loginUser crypto username password sessionPolicy passwordPolicy sessionId sessionToken) := by
  unfold loginUser
  refine only_bind (only_query _ sessions_select _) fun row => ?_
  cases row with
  | none => exact only_pure _
  | some row =>
      dsimp only
      split
      · exact only_pure _
      · refine only_bind (only_query _ sessions_select _) fun now => ?_
        split
        · exact only_pure _
        · refine only_bind (only_enrichEffectiveRole _) fun user => ?_
          refine only_bind (only_query _ sessions_select _) fun now => ?_
          refine only_bind (only_perform trivial) fun accepted => ?_
          exact only_bind (only_inserted _ _) fun _ => only_pure _

theorem authenticateSession_only (crypto : Crypto) (token : String) (policy : SessionPolicy) :
    Only Stmt.AboutSessions (authenticateSession crypto token policy) := by
  unfold authenticateSession
  refine only_bind (only_query _ sessions_select _) fun now => ?_
  refine only_bind (only_query _ sessions_select _) fun found => ?_
  cases found with
  | none => exact only_pure _
  | some found =>
      dsimp only
      split
      · exact only_bind (only_perform trivial) fun _ => only_pure _
      · refine only_bind (only_perform trivial) fun _ => ?_
        exact only_bind (only_enrichEffectiveRole _) fun _ => only_pure _

theorem revokeSession_only (crypto : Crypto) (token : String) :
    Only Stmt.AboutSessions (revokeSession crypto token) := by
  unfold revokeSession
  exact only_bind (only_query _ sessions_select _) fun _ => only_perform trivial

/-! ### Setup, when there are users -/

theorem exec_insertFirstUser_of_users {accounts : Accounts} {user : User}
    (husers : accounts.users.rows.isEmpty = false) :
    Stmt.exec (.insertFirstUser user) accounts = (false, accounts) := by
  change (if accounts.users.rows.isEmpty then accounts.insertUser user else (false, accounts)) = _
  rw [husers]
  rfl

theorem ends_setupAndLogin {accounts : Accounts} {username password : String}
    (husers : accounts.users.rows.isEmpty = false) :
    Ends Stmt.exec (setupAndLogin deployment request username password) accounts
      (fun _ s => s = accounts) fun _ s => s = accounts := by
  unfold setupAndLogin setupInitialAdmin
  refine Ends.bind ?_
  refine Ends.bind (ends_checked (fun _ _ => ?_) fun _ _ => rfl)
  refine Ends.bind (ends_checked (fun _ _ => ?_) fun _ _ => rfl)
  refine Ends.bind (ends_query ?_)
  refine Ends.bind (ends_hashPassword (fun passwordHash => ?_) rfl)
  refine Ends.bind (ends_execute ?_)
  rw [exec_insertFirstUser_of_users husers]
  exact Ends.bind (ends_rejectIf (fun hrefused => by cases hrefused) fun _ => rfl)

/-! ### One's own password -/

theorem withoutPassword_setPassword (user : User) (passwordHash : String)
    (mustChangePassword : Bool) (now : Int) (hmine : user.id = me) :
    (user.setPassword passwordHash mustChangePassword now).withoutPassword me
      = user.withoutPassword me := by
  unfold User.withoutPassword
  rw [setPassword_id, if_pos hmine, if_pos hmine]
  rfl

theorem writeUser_rows (accounts : Accounts) (id : String) (write : User → User)
    (hid : ∀ user, (write user).id = user.id) :
    (accounts.writeUser id write hid).users.rows
      = accounts.users.rows.map fun user => if decide (user.id = id) = true then write user else user :=
  rfl

theorem kept_changePassword (crypto : Crypto) (me currentPassword newPassword salt : String)
    (policy : PasswordPolicy) (control : Control) :
    AdminStateKept me control
      (control.run (changeUserPassword crypto me currentPassword newPassword policy salt)) := by
  have hends : Ends Stmt.exec (changeUserPassword crypto me currentPassword newPassword policy salt)
      control.accounts (fun _ s => AdminStateKept me control { control with accounts := s })
      fun _ s => AdminStateKept me control { control with accounts := s } := by
    refine ends_changeUserPassword (.refl me control) fun passwordHash => ?_
    refine ⟨?_, rfl, rfl, rfl, rfl, rfl, rfl⟩
    rw [endSessions_users, writeUser_rows, List.map_map]
    refine List.map_congr_left fun user _ => ?_
    rw [Function.comp_apply]
    split
    · rename_i hmine
      exact withoutPassword_setPassword user _ _ _ (of_decide_eq_true hmine)
    · rfl
  exact hends.state

/-! ### Handlers -/

theorem users_of_authenticated {crypto : Crypto} {policies : Policies} {accounts : Accounts}
    {token : String} {user : AuthUser}
    (huser : authenticated crypto policies token accounts = .ok (some user)) :
    accounts.users.rows.isEmpty = false := by
  have hvalid : ¬ ∀ session row,
      accounts.validSession (crypto.hashToken token) accounts.clock = some (session, row) →
        idleTooLong session policies.session accounts.clock = true := by
    intro hall
    rw [(authenticated_none_iff token accounts).mpr hall] at huser
    cases huser
  push Not at hvalid
  obtain ⟨session, row, hsession, -⟩ := hvalid
  obtain ⟨-, -, -, -, hrow, -⟩ := validSession_some hsession
  rw [List.isEmpty_eq_false_iff]
  exact List.ne_nil_of_mem (Table.find?_mem hrow)

/-- A handler that the rule on paths has to keep from other roles, as it does not check itself. -/
def Endpoint.Unchecked : Endpoint → Bool
  | updateGlobalAgentConfigPolicy | updateServerLogPolicy | cleanupModelFileTrash => true
  | _ => false

/-- What a handler needs is there, or it ends before it writes. -/
theorem kept_bind {α : Type} {value : Option α} {rest : α → Option Control}
    (hrest : ∀ a, value = some a → AdminStateKept me control ((rest a).getD control)) :
    AdminStateKept me control ((value >>= rest).getD control) := by
  cases value with
  | none => exact .refl me control
  | some a => exact hrest a rfl

theorem kept_requireAdmin {user : AuthUser} {rest : Unit → Option Control}
    (hrole : user.effectiveRole ≠ "admin") :
    AdminStateKept me control ((requireAdmin user >>= rest).getD control) := by
  refine kept_bind fun u hadmin => ?_
  unfold requireAdmin at hadmin
  rw [if_neg hrole] at hadmin
  cases hadmin

/-- Without a user, or with one who is no administrator, a handler that checks keeps the state. -/
theorem perform_kept {endpoint : Endpoint} {user : Option AuthUser}
    (husers : control.accounts.users.rows.isEmpty = false)
    (hrole : ∀ u, user = some u → u.id = me ∧ u.effectiveRole ≠ "admin")
    (hchecked : ∀ u, user = some u →
      endpoint.Unchecked = false ∧ endpoint ≠ .updateNodeAgentConfigPolicy) :
    AdminStateKept me control
      ((endpoint.perform deployment request user params control).getD control) := by
  cases endpoint with
  | setupAdmin =>
      refine kept_bind fun body _ => ?_
      obtain ⟨username, password, token⟩ := body
      dsimp only
      split
      · exact .refl me control
      · refine kept_run ?_
        have hsame :=
          (@ends_setupAndLogin deployment request control.accounts username password husers).state
        rw [hsame]
        exact ⟨rfl, rfl, rfl⟩
  | login =>
      refine kept_bind fun body _ => ?_
      obtain ⟨username, password⟩ := body
      exact kept_run (sameAccounts_of_only _ (loginUser_only _ _ _ _ _ _ _))
  | logout =>
      refine kept_bind fun _ _ => kept_bind fun token _ => ?_
      exact kept_run (sameAccounts_of_only _ (revokeSession_only _ token))
  | changePassword =>
      refine kept_bind fun u hu => kept_bind fun body _ => ?_
      obtain ⟨currentPassword, newPassword⟩ := body
      rw [← (hrole u hu).1]
      exact kept_changePassword _ _ _ _ _ _ control
  | createUser =>
      exact kept_bind fun u hu => kept_bind fun _ _ => kept_requireAdmin (hrole u hu).2
  | updateUser =>
      refine kept_bind fun u hu => kept_bind fun _ _ => kept_bind fun _ _ => ?_
      exact kept_requireAdmin (hrole u hu).2
  | createGroup =>
      exact kept_bind fun u hu => kept_bind fun _ _ => kept_requireAdmin (hrole u hu).2
  | updateGroup =>
      refine kept_bind fun u hu => kept_bind fun _ _ => kept_bind fun _ _ => ?_
      exact kept_requireAdmin (hrole u hu).2
  | updateGroupMembers =>
      refine kept_bind fun u hu => kept_bind fun _ _ => kept_bind fun _ _ => ?_
      exact kept_requireAdmin (hrole u hu).2
  | deleteGroup =>
      exact kept_bind fun u hu => kept_bind fun _ _ => kept_requireAdmin (hrole u hu).2
  | registerCollectorEntry =>
      refine kept_bind fun u hu => kept_bind fun _ _ => kept_bind fun _ _ => ?_
      exact kept_requireAdmin (hrole u hu).2
  | updateCollectorEntry =>
      refine kept_bind fun u hu => kept_bind fun _ _ => kept_bind fun _ _ => ?_
      exact kept_requireAdmin (hrole u hu).2
  | deleteCollectorEntry =>
      refine kept_bind fun u hu => kept_bind fun _ _ => kept_bind fun _ _ => kept_bind fun _ _ => ?_
      exact kept_requireAdmin (hrole u hu).2
  | updateGlobalAgentConfigPolicy =>
      exact kept_bind fun u hu => absurd (hchecked u hu).1 (by decide)
  | updateNodeAgentConfigPolicy =>
      exact kept_bind fun u hu => absurd rfl (hchecked u hu).2
  | updateServerLogPolicy =>
      exact kept_bind fun u hu => absurd (hchecked u hu).1 (by decide)
  | cleanupModelFileTrash =>
      exact kept_bind fun u hu => absurd (hchecked u hu).1 (by decide)
  | _ => exact .refl me control

/-! ### Routes -/

/-- The handlers that do not check are behind paths of administrators. -/
theorem unchecked_routes :
    routes.all (fun route => route.methods.all fun entry => !entry.2.Unchecked
      || route.pattern.take 2 = [.literal "api", .literal "config"]
      || route.pattern.take 2 = [.literal "api", .literal "model-file-trash"]) = true := by
  decide

def nodeConfigRoute : Route Method Endpoint :=
  route ["api", "nodes", ":node_id", "config"]
    [(.get, .getNodeAgentConfigPolicy), (.put, .updateNodeAgentConfigPolicy)]

theorem nodeConfigRoute_mem : nodeConfigRoute ∈ routes := by decide

theorem nodeConfigRoute_unique :
    ∀ other ∈ routes, overlaps other.pattern nodeConfigRoute.pattern = true →
      other = nodeConfigRoute := by
  decide

theorem nodeConfigRoute_only :
    ∀ other ∈ routes, ∀ entry ∈ other.methods, entry.2 = .updateNodeAgentConfigPolicy →
      other = nodeConfigRoute ∧ entry.1 = .put := by
  decide

/-- No path starts with two texts of which neither starts with the other. -/
theorem startsWith_false {path first second : String} (hfirst : Text.startsWith path first = true)
    (hapart : Text.startsWith first second = false ∧ Text.startsWith second first = false) :
    Text.startsWith path second = false := by
  by_contra hsecond
  rw [Bool.not_eq_false] at hsecond
  have hboth := List.prefix_or_prefix_of_prefix (List.isPrefixOf_iff_prefix.mp hfirst)
    (List.isPrefixOf_iff_prefix.mp hsecond)
  obtain hshort | hshort := hboth
  · have hstarts : Text.startsWith second first = true := List.isPrefixOf_iff_prefix.mpr hshort
    rw [hapart.2] at hstarts
    cases hstarts
  · have hstarts : Text.startsWith first second = true := List.isPrefixOf_iff_prefix.mpr hshort
    rw [hapart.1] at hstarts
    cases hstarts

theorem startsWith_trans {path first second : String} (hfirst : Text.startsWith path first = true)
    (hsecond : Text.startsWith first second = true) : Text.startsWith path second = true :=
  List.isPrefixOf_iff_prefix.mpr ((List.isPrefixOf_iff_prefix.mp hsecond).trans
    (List.isPrefixOf_iff_prefix.mp hfirst))

/-- A path of administrators needs the rank of one. -/
theorem requiredRank_closed {method : Method} {path first : String}
    (hfirst : Text.startsWith path first = true)
    (hclosed : first = "/api/config" ∨ first = "/api/model-file-trash") :
    requiredRank method path = 3 := by
  have hauth : Text.startsWith path "/api/auth/" = false := by
    obtain rfl | rfl := hclosed <;> exact startsWith_false hfirst (by decide)
  have herrors : path ≠ "/api/frontend-errors" := by
    rintro rfl
    obtain rfl | rfl := hclosed <;> revert hfirst <;> decide
  have hadmin : adminPath path = true := by
    unfold adminPath
    obtain rfl | rfl := hclosed <;> simp [hfirst]
  unfold requiredRank
  simp [hauth, herrors, hadmin]

/-- The path of a node needs the rank of an operator, unless it is only read. -/
theorem requiredRank_node {method : Method} {path : String}
    (hfirst : Text.startsWith path "/api/nodes" = true) (hmethod : method ≠ .get) :
    requiredRank method path = 2 := by
  have hauth : Text.startsWith path "/api/auth/" = false := startsWith_false hfirst (by decide)
  have herrors : path ≠ "/api/frontend-errors" := by
    rintro rfl
    revert hfirst
    decide
  have hadmin : adminPath path = false := by
    unfold adminPath
    rw [startsWith_false hfirst (by decide), startsWith_false hfirst (by decide),
      startsWith_false hfirst (by decide), startsWith_false hfirst (by decide)]
    rfl
  unfold requiredRank
  simp [hauth, herrors, hadmin, hmethod]

theorem withoutSession_node {path : String} (hfirst : Text.startsWith path "/api/nodes" = true) :
    withoutSession path = false := by
  have hapi : Text.startsWith path "/api/" = true := startsWith_trans hfirst (by decide)
  have hagent : Text.startsWith path "/api/agent/" = false := startsWith_false hfirst (by decide)
  have hother : ∀ other, Text.startsWith other "/api/nodes" = false → path ≠ other := by
    rintro other hother rfl
    rw [hfirst] at hother
    cases hother
  have hlogin := hother "/api/auth/login" (by decide)
  have hstatus := hother "/api/setup/status" (by decide)
  have hsetup := hother "/api/setup/admin" (by decide)
  unfold withoutSession
  simp [hapi, hagent, hlogin, hstatus, hsetup]

/-! ### The policy of a node -/

theorem lt_nextPolicyVersion {row : Server.AgentConfigPolicyRow}
    (hrow : row ∈ control.agentConfigPolicies.rows) : row.version < control.nextPolicyVersion := by
  have hmem : row.version ∈ control.agentConfigPolicies.rows.map (·.version) :=
    List.mem_map.mpr ⟨row, hrow, rfl⟩
  unfold Control.nextPolicyVersion
  cases hmax : (control.agentConfigPolicies.rows.map (·.version)).max? with
  | none =>
      rw [List.max?_eq_none_iff.mp hmax] at hmem
      cases hmem
  | some most =>
      have hle := (List.max?_eq_some_iff.mp hmax).2 row.version hmem
      rw [Option.getD_some]
      omega

theorem mem_keys_of_insert?_none {κ ρ : Type} [DecidableEq κ] {key : ρ → κ} {t : Table κ ρ key} {r : ρ}
    (hinsert : t.insert? r = none) : key r ∈ t.rows.map key := by
  unfold Table.insert? at hinsert
  split at hinsert
  · assumption
  · cases hinsert

/-- A saved policy has a version that no row had, so that the table is another one. -/
theorem saveAgentConfigPolicy_changes {scope nodeId : String} {policy : Server.AgentConfigPolicy}
    (hsave : saveAgentConfigPolicy control scope nodeId policy = some control') :
    control'.agentConfigPolicies ≠ control.agentConfigPolicies := by
  have hnew : ∃ row ∈ control'.agentConfigPolicies.rows, row.version = control.nextPolicyVersion := by
    unfold saveAgentConfigPolicy at hsave
    split at hsave
    · cases hsave
    · cases hsave
      dsimp only
      unfold Table.upsert
      split
      · rename_i table hinsert
        rw [Table.insert?_rows hinsert]
        exact ⟨_, List.mem_append_right _ (List.mem_singleton.mpr rfl), rfl⟩
      · rename_i hinsert
        obtain ⟨row, hrow, hkey⟩ := List.mem_map.mp (mem_keys_of_insert?_none hinsert)
        simp only [Table.update, Table.mem_updateWhere]
        refine ⟨_, ⟨row, hrow, (if_pos ?_).symm⟩, rfl⟩
        exact decide_eq_true hkey
  intro hsame
  obtain ⟨row, hrow, hversion⟩ := hnew
  rw [hsame] at hrow
  have hless := lt_nextPolicyVersion hrow
  omega

/-! ### Requests -/

/-- The request stores a policy of a node, and the user is an operator. -/
def WritesNodePolicy (deployment : Deployment) (request : HttpRequest) (user : AuthUser) : Prop :=
  user.effectiveRole = "operator" ∧ user.mustChangePassword = false ∧ request.method = .put
    ∧ ∃ part nodeId policy, matchPath nodeConfigRoute.pattern request.path = some [part]
      ∧ deployment.extract.path part = some nodeId
      ∧ deployment.extract.agentConfigPolicy request.body = some policy
      ∧ validatePolicy policy = .ok ()

theorem nodeConfig_startsWith {path : String} {params : List String}
    (hmatch : matchPath nodeConfigRoute.pattern path = some params) :
    Text.startsWith path "/api/nodes" = true :=
  startsWith_of_matchPath hmatch

theorem lookup_nodeConfig {path : String} {params : List String}
    (hmatch : matchPath nodeConfigRoute.pattern path = some params) :
    lookup routes .put path = some (.updateNodeAgentConfigPolicy, params) :=
  lookup_of_match nodeConfigRoute_mem nodeConfigRoute_unique hmatch rfl

/-- An unchecked handler is found only behind a path of administrators. -/
theorem requiredRank_unchecked {endpoint : Endpoint} {method method' : Method} {path : String}
    (hlookup : lookup routes method path = some (endpoint, params))
    (hunchecked : endpoint.Unchecked = true) : requiredRank method' path = 3 := by
  obtain ⟨route, hroute, hentry, hmatch⟩ := lookup_some hlookup
  have hall := List.all_eq_true.mp (List.all_eq_true.mp unchecked_routes route hroute) _ hentry
  have hstarts : ∀ second, route.pattern.take 2 = [.literal "api", .literal second] →
      Text.startsWith path ("/" ++ "api" ++ "/" ++ second) = true := by
    intro second htake
    have hpattern : route.pattern
        = .literal "api" :: .literal second :: route.pattern.drop 2 := by
      rw [← List.take_append_drop 2 route.pattern, htake]
      rfl
    rw [hpattern] at hmatch
    exact startsWith_of_matchPath hmatch
  simp only [hunchecked, Bool.not_true, Bool.false_or, Bool.or_eq_true, decide_eq_true_eq] at hall
  obtain hconfig | htrash := hall
  · exact requiredRank_closed (hstarts "config" hconfig) (Or.inl rfl)
  · exact requiredRank_closed (hstarts "model-file-trash" htrash) (Or.inr rfl)

theorem not_admin_rank {user : AuthUser} (hrole : user.effectiveRole ≠ "admin") :
    roleRank user.effectiveRole < 3 := by
  have hmost := roleRank_le_three user.effectiveRole
  have hnot : roleRank user.effectiveRole ≠ 3 := fun h => hrole (roleRank_eq_three.mp h)
  omega

theorem nodeConfig_params {path : String}
    (hmatch : matchPath nodeConfigRoute.pattern path = some params) : ∃ part, params = [part] := by
  obtain ⟨parts, -, hparts⟩ := matchPath_segments hmatch
  obtain ⟨afterApi, -, hnodes⟩ := matchSegments_literal hparts
  obtain ⟨afterNodes, -, hparam⟩ := matchSegments_literal hnodes
  obtain ⟨part, afterParam, tail, -, -, hconfig, rfl⟩ := matchSegments_param hparam
  obtain ⟨afterConfig, -, hnil⟩ := matchSegments_literal hconfig
  obtain ⟨-, rfl⟩ := matchSegments_nil hnil
  exact ⟨part, rfl⟩

theorem isPasswordChangeAllowedPath_node {path : String}
    (hfirst : Text.startsWith path "/api/nodes" = true) :
    isPasswordChangeAllowedPath path = false := by
  by_contra hallowed
  rw [Bool.not_eq_false] at hallowed
  unfold isPasswordChangeAllowedPath at hallowed
  simp only [List.mem_cons, List.not_mem_nil, or_false, Bool.or_eq_true, decide_eq_true_eq]
    at hallowed
  obtain (rfl | rfl | rfl) | rfl := hallowed <;> revert hfirst <;> decide

/-- The path of a node's policy is admitted for operators alone, once they have set their password. -/
theorem admits_nodeConfig {user : AuthUser} {path : String}
    (hfirst : Text.startsWith path "/api/nodes" = true) (hrole : user.effectiveRole ≠ "admin") :
    admits user .put path = true
      ↔ user.effectiveRole = "operator" ∧ user.mustChangePassword = false := by
  have hrank : isAuthorizedForPath user .put path = true ↔ 2 ≤ roleRank user.effectiveRole := by
    rw [isAuthorizedForPath_iff, requiredRank_node hfirst (by decide)]
  rw [two_le_roleRank, or_iff_right hrole] at hrank
  unfold admits
  rw [isPasswordChangeAllowedPath_node hfirst, Bool.and_eq_true, hrank]
  cases user.mustChangePassword <;> simp

/-- The handler, for an operator who is admitted. -/
theorem nodeConfig_kept_iff {user : AuthUser} {part : String}
    (hsame : control'.agentConfigPolicies = control.agentConfigPolicies)
    (hkept : AdminStateKept me control control') :
    AdminStateKept me control ((Endpoint.updateNodeAgentConfigPolicy.perform deployment request
        (some user) [part] control').getD control')
      ↔ ¬ ∃ nodeId policy, deployment.extract.path part = some nodeId
        ∧ deployment.extract.agentConfigPolicy request.body = some policy
        ∧ validatePolicy policy = .ok () := by
  change AdminStateKept me control (((deployment.extract.path part).bind fun nodeId =>
    (deployment.extract.agentConfigPolicy request.body).bind fun policy =>
      saveAgentConfigPolicy control' "node" nodeId policy).getD control') ↔ _
  cases hpart : deployment.extract.path part with
  | none =>
      refine iff_of_true hkept ?_
      rintro ⟨nodeId, policy, hnode, -⟩
      cases hnode
  | some nodeId =>
      rw [Option.bind_some]
      cases hbody : deployment.extract.agentConfigPolicy request.body with
      | none =>
          refine iff_of_true hkept ?_
          rintro ⟨nodeId', policy, -, hpolicy, -⟩
          cases hpolicy
      | some policy =>
          rw [Option.bind_some]
          cases hvalid : validatePolicy policy with
          | error message =>
              have hnone : saveAgentConfigPolicy control' "node" nodeId policy = none := by
                unfold saveAgentConfigPolicy
                rw [hvalid]
              rw [hnone]
              refine iff_of_true hkept ?_
              rintro ⟨nodeId', policy', -, hpolicy, hvalid'⟩
              cases hpolicy
              rw [hvalid] at hvalid'
              cases hvalid'
          | ok u =>
              cases hsave : saveAgentConfigPolicy control' "node" nodeId policy with
              | none =>
                  unfold saveAgentConfigPolicy at hsave
                  rw [hvalid] at hsave
                  cases hsave
              | some saved =>
                  refine iff_of_false (fun hsaved => ?_) (not_not_intro ⟨nodeId, policy, rfl, rfl, hvalid⟩)
                  exact saveAgentConfigPolicy_changes hsave (hsaved.policies.trans hsame.symm)

theorem routed_eq_put {method : Method} (hput : method.routed = .put) : method = .put := by
  cases method <;> first | rfl | cases hput

/-- A request of a user who is no administrator keeps the state of administrators, unless it is the one
of an operator that stores a policy of a node. -/
theorem admin_state_kept_iff (deployment : Deployment) (request : HttpRequest) (control : Control)
    {token : String} {user : AuthUser} (hsession : request.session = some token)
    (huser : authenticated deployment.crypto deployment.policies token control.accounts
      = .ok (some user)) (hrole : user.effectiveRole ≠ "admin") :
    AdminStateKept user.id control (handle deployment request control)
      ↔ ¬ WritesNodePolicy deployment request user := by
  have husers := users_of_authenticated huser
  have hauth : AdminStateKept user.id control (control.run
      (authenticateSession deployment.crypto token deployment.policies.session)) :=
    kept_run (sameAccounts_of_only _ (authenticateSession_only _ token _))
  generalize hrun : control.run
    (authenticateSession deployment.crypto token deployment.policies.session) = after at hauth
  have hafterUsers : after.accounts.users.rows.isEmpty = false := by
    have hlength := congrArg List.length hauth.users
    rw [List.length_map, List.length_map] at hlength
    rw [List.isEmpty_eq_false_iff, ← List.length_pos_iff] at husers ⊢
    omega
  unfold handle
  cases hlookup : lookup routes request.method.routed request.path with
  | none =>
      refine iff_of_true (.refl _ control) ?_
      rintro ⟨-, -, hput, part, nodeId, policy, hmatch, -⟩
      rw [hput] at hlookup
      cases (lookup_nodeConfig hmatch).symm.trans hlookup
  | some found =>
      obtain ⟨endpoint, params⟩ := found
      dsimp only
      by_cases hexempt : withoutSession request.path = true
      · rw [if_pos hexempt]
        refine iff_of_true (perform_kept husers (fun _ h => by cases h) fun _ h => by cases h) ?_
        rintro ⟨-, -, -, part, nodeId, policy, hmatch, -⟩
        rw [withoutSession_node (nodeConfig_startsWith hmatch)] at hexempt
        cases hexempt
      rw [if_neg hexempt, hsession]
      dsimp only
      unfold authenticated at huser
      rw [huser, hrun]
      dsimp only
      by_cases hadmits : admits user request.method request.path = true
      · rw [if_pos hadmits]
        have hauthorized := (isAuthorizedForPath_iff user request.method request.path).mp
          (Bool.and_eq_true_iff.mp hadmits).2
        have hless := not_admin_rank hrole
        have hchecked : endpoint.Unchecked = false := by
          by_contra hunchecked
          rw [requiredRank_unchecked hlookup (Bool.not_eq_false _ ▸ hunchecked)] at hauthorized
          omega
        by_cases hnode : endpoint = .updateNodeAgentConfigPolicy
        · subst hnode
          obtain ⟨route, hroute, hentry, hmatch⟩ := lookup_some hlookup
          obtain ⟨rfl, hmethod⟩ := nodeConfigRoute_only route hroute _ hentry rfl
          obtain ⟨part, rfl⟩ := nodeConfig_params hmatch
          have hput := routed_eq_put hmethod
          rw [hput] at hadmits
          have hoperator := (admits_nodeConfig (nodeConfig_startsWith hmatch) hrole).mp hadmits
          rw [nodeConfig_kept_iff hauth.policies hauth, not_iff_not]
          constructor
          · rintro ⟨nodeId, policy, hwritten⟩
            exact ⟨hoperator.1, hoperator.2, hput, part, nodeId, policy, hmatch, hwritten⟩
          · rintro ⟨-, -, -, part', nodeId, policy, hmatch', hwritten⟩
            rw [hmatch] at hmatch'
            cases hmatch'
            exact ⟨nodeId, policy, hwritten⟩
        · have hkept := @perform_kept user.id after deployment request params endpoint (some user)
            hafterUsers (fun u hu => by cases hu; exact ⟨rfl, hrole⟩) fun u _ => ⟨hchecked, hnode⟩
          refine iff_of_true (hauth.trans hkept) ?_
          rintro ⟨-, -, hput, part, nodeId, policy, hmatch, -⟩
          rw [hput] at hlookup
          cases (lookup_nodeConfig hmatch).symm.trans hlookup
          exact hnode rfl
      · rw [if_neg hadmits]
        refine iff_of_true hauth ?_
        rintro ⟨hoperator, hset, hput, part, nodeId, policy, hmatch, -⟩
        rw [hput] at hadmits
        exact hadmits ((admits_nodeConfig (nodeConfig_startsWith hmatch) hrole).mpr
          ⟨hoperator, hset⟩)

/-! ### An operator -/

def operatorRow : User := { viewerRow with role := "operator" }

def operatorSession : UserSession :=
  { id := "s"
    userId := "u"
    tokenHash := "#t"
    createdAt := 0
    lastSeenAt := 0
    expiresAt := 43200 }

def operatorSignedIn : Control :=
  { accounts :=
      { clock := 0
        users := ⟨[operatorRow], by decide⟩
        sessions := ⟨[operatorSession], by decide⟩ } }

/-- Segments are read as they are, and a body is the interval of the heartbeats in words. -/
def plainExtractors : Extractors where
  path part := some part
  setupAdmin _ := none
  login _ := none
  changePassword _ := none
  userCreate _ := none
  userUpdate _ := none
  groupCreate _ := none
  groupUpdate _ := none
  groupMembers _ := none
  agentConfigPolicy body :=
    if body = "one minute" then some { heartbeatIntervalSecs := some 60 } else none
  registerCollector _ := none
  logPolicy _ := none

def plainDeployment : Deployment := { crypto := plainCrypto, extract := plainExtractors }

def storeNodePolicy : HttpRequest :=
  { method := .put
    path := "/api/nodes/n/config"
    body := "one minute"
    session := some "t"
    id := "i"
    salt := "a"
    sessionId := "s2"
    sessionToken := "t2" }

def operatorUser : AuthUser := { userFromRow operatorRow with effectiveRole := "operator" }

theorem operator_stores_node_policy :
    authenticated plainDeployment.crypto plainDeployment.policies "t" operatorSignedIn.accounts
        = .ok (some operatorUser)
      ∧ ¬ AdminStateKept "u" operatorSignedIn
        (handle plainDeployment storeNodePolicy operatorSignedIn) := by
  refine ⟨rfl, fun hkept => ?_⟩
  have hrows := congrArg (fun table => table.rows.length) hkept.policies
  revert hrows
  decide

theorem admin_state_kept_at_operator :
    AdminStateKept "u" operatorSignedIn
        (handle plainDeployment { storeNodePolicy with path := "/api/config/agent/global" }
          operatorSignedIn)
      ↔ ¬ WritesNodePolicy plainDeployment
        { storeNodePolicy with path := "/api/config/agent/global" } operatorUser :=
  @admin_state_kept_iff plainDeployment { storeNodePolicy with path := "/api/config/agent/global" }
    operatorSignedIn "t" operatorUser rfl rfl (by decide)

end LightAI.Users
