import LightAI.Server.AdminState
import LightAI.Server.SessionOrigin

/-!
# Who has changed the state of administrators

Over a run of requests from an empty control plane, whatever the requests are: a change of the state that
administrators look after is the set-up of the first of them, or is made with a session that an earlier
request has opened by giving the password of its user, who is an administrator and has set that password
himself. An operator may in the same way store the policy of a node, and anybody his own password.
-/

namespace Router

/-- A pattern without parameters is matched by one path. -/
theorem path_of_literals {texts : List String} {path : String} {params : List String}
    (hmatch : matchPath (texts.map .literal) path = some params) :
    path.toList = texts.flatMap fun text => '/' :: text.toList := by
  obtain ⟨parts, hsegments, hparts⟩ := matchPath_segments hmatch
  have hsame : parts = texts := by
    clear hmatch hsegments
    induction texts generalizing parts params with
    | nil => exact (matchSegments_nil hparts).1
    | cons text texts ih =>
        obtain ⟨rest, rfl, hrest⟩ := matchSegments_literal hparts
        rw [ih rest hrest]
  rw [toList_of_segments hsegments, hsame, String.toList_empty, List.nil_append]

end Router

namespace LightAI.Users

open Fallible Router Trace

/-! ### Paths -/

/-- The two routes that sign in are fixed. -/
theorem signIn_routes :
    routes.all (fun route => route.methods.all fun entry => entry.2 ∉ [Endpoint.login, .setupAdmin]
      || route.pattern = ["api", "auth", "login"].map .literal
      || route.pattern = ["api", "setup", "admin"].map .literal) = true := by
  decide

/-- They are reached without a session only. -/
theorem withoutSession_signIn {method : Method} {path : String} {endpoint : Endpoint}
    {params : List String} (hlookup : lookup routes method path = some (endpoint, params))
    (hendpoint : endpoint ∈ [Endpoint.login, .setupAdmin]) : withoutSession path = true := by
  obtain ⟨route, hroute, hentry, hmatch⟩ := lookup_some hlookup
  have hall := List.all_eq_true.mp (List.all_eq_true.mp signIn_routes route hroute) _ hentry
  simp only [Bool.or_eq_true, decide_eq_true_eq] at hall
  have hpath : path.toList = "/api/auth/login".toList ∨ path.toList = "/api/setup/admin".toList := by
    obtain (hnot | hlogin) | hsetup := hall
    · exact absurd hendpoint hnot
    · rw [hlogin] at hmatch
      exact Or.inl (path_of_literals hmatch)
    · rw [hsetup] at hmatch
      exact Or.inr (path_of_literals hmatch)
  obtain hlogin | hsetup := hpath
  · rw [String.toList_inj.mp hlogin]
    decide +kernel
  · rw [String.toList_inj.mp hsetup]
    decide +kernel

/-- What is reached by a user who has to change his password. -/
theorem endpoint_of_passwordChange {method : Method} {path : String} {endpoint : Endpoint}
    {params : List String} (hlookup : lookup routes method path = some (endpoint, params))
    (hallowed : isPasswordChangeAllowedPath path = true) :
    endpoint ∈ [Endpoint.currentUser, .logout, .changePassword, .reportFrontendError] := by
  have hrouted : ∀ path ∈ ["/api/auth/me", "/api/auth/logout", "/api/auth/change-password",
      "/api/frontend-errors"], ∀ route ∈ routes, (matchPath route.pattern path).isSome = true →
        ∀ entry ∈ route.methods,
          entry.2 ∈ [Endpoint.currentUser, .logout, .changePassword, .reportFrontendError] := by
    decide +kernel
  have hpath : path ∈ ["/api/auth/me", "/api/auth/logout", "/api/auth/change-password",
      "/api/frontend-errors"] := by
    unfold isPasswordChangeAllowedPath at hallowed
    simpa [or_assoc] using hallowed
  obtain ⟨route, hroute, hentry, hmatch⟩ := lookup_some hlookup
  exact hrouted path hpath route hroute (by rw [hmatch]; rfl) _ hentry

/-! ### One request -/

/-- The user for whom the session of a request is accepted. -/
def HttpRequest.user (deployment : Deployment) (control : Control) (request : HttpRequest) :
    Option AuthUser :=
  request.session.bind fun token =>
    match authenticated deployment.crypto deployment.policies token control.accounts with
    | .ok found => found
    | .error _ => none

/-- The request sets the first administrator up, with the token for it if there is one. -/
structure SetsUp (deployment : Deployment) (control : Control) (request : HttpRequest) : Prop where
  empty : control.accounts.users.rows = []
  routed : ∃ params, lookup routes request.method.routed request.path = some (.setupAdmin, params)
  token : ∃ username password token,
    deployment.extract.setupAdmin request.body = some (username, password, token)
      ∧ deployment.setupToken.any (fun expected => token.getD "" ≠ expected) = false

/-- The user may change the state of administrators with this request. -/
def MayChange (deployment : Deployment) (request : HttpRequest) (user : AuthUser) : Prop :=
  user.effectiveRole = "admin" ∧ user.mustChangePassword = false
    ∨ WritesNodePolicy deployment request user

section Request

variable {deployment : Deployment} {request : HttpRequest} {control control' : Control} {me : String}
  {params : List String} {endpoint : Endpoint}

/-- Without a user nothing but the set-up writes the state of administrators. -/
theorem perform_kept_of_none (hsetup : ¬ endpoint = .setupAdmin) :
    AdminStateKept me control
      ((endpoint.perform deployment request none params control).getD control) := by
  cases endpoint with
  | setupAdmin => exact absurd rfl hsetup
  | login =>
      refine kept_bind fun body _ => ?_
      obtain ⟨username, password⟩ := body
      exact kept_run (sameAccounts_of_only _ (loginUser_only _ _ _ _ _ _ _))
  | _ => exact .refl me control

theorem setupAdmin_kept (hlookup : lookup routes request.method.routed request.path
    = some (.setupAdmin, params)) (hnot : ¬ SetsUp deployment control request) {user : Option AuthUser} :
    AdminStateKept me control
      ((Endpoint.setupAdmin.perform deployment request user params control).getD control) := by
  refine kept_bind fun body hbody => ?_
  obtain ⟨username, password, token⟩ := body
  dsimp only
  split
  · exact .refl me control
  · rename_i htoken
    have husers : control.accounts.users.rows.isEmpty = false := by
      rw [List.isEmpty_eq_false_iff]
      intro hempty
      exact hnot ⟨hempty, ⟨params, hlookup⟩, username, password, token, hbody,
        Bool.not_eq_true _ ▸ htoken⟩
    refine kept_run ?_
    have hsame :=
      (@ends_setupAndLogin deployment request control.accounts username password husers).state
    rw [hsame]
    exact ⟨rfl, rfl, rfl⟩

/-- A user who has to change his password changes nothing else. -/
theorem perform_kept_of_passwordChange {user : AuthUser}
    (hendpoint : endpoint ∈ [Endpoint.currentUser, .logout, .changePassword, .reportFrontendError]) :
    AdminStateKept user.id control
      ((endpoint.perform deployment request (some user) params control).getD control) := by
  simp only [List.mem_cons, List.not_mem_nil, or_false] at hendpoint
  obtain rfl | rfl | rfl | rfl := hendpoint
  · exact .refl _ control
  · refine kept_bind fun _ _ => kept_bind fun token _ => ?_
    exact kept_run (sameAccounts_of_only _ (revokeSession_only _ token))
  · refine kept_bind fun u hu => kept_bind fun body _ => ?_
    obtain ⟨currentPassword, newPassword⟩ := body
    cases hu
    exact kept_changePassword _ _ _ _ _ _ control
  · exact .refl _ control

/-- A user who is admitted and may not change the state of administrators keeps it. -/
theorem perform_kept_of_admitted {user : AuthUser}
    (hlookup : lookup routes request.method.routed request.path = some (endpoint, params))
    (hadmits : admits user request.method request.path = true)
    (hmay : ¬ MayChange deployment request user) (hkept : AdminStateKept user.id control control')
    (husers : control'.accounts.users.rows.isEmpty = false) :
    AdminStateKept user.id control
      ((endpoint.perform deployment request (some user) params control').getD control') := by
  obtain ⟨hallowed, hauthorized⟩ := Bool.and_eq_true_iff.mp hadmits
  by_cases hmust : user.mustChangePassword = true
  · have hpath : isPasswordChangeAllowedPath request.path = true := by
      simpa [hmust] using hallowed
    exact hkept.trans (perform_kept_of_passwordChange (endpoint_of_passwordChange hlookup hpath))
  have hset : user.mustChangePassword = false := Bool.not_eq_true _ ▸ hmust
  have hrole : user.effectiveRole ≠ "admin" := fun hadmin => hmay (Or.inl ⟨hadmin, hset⟩)
  have hless := not_admin_rank hrole
  have hchecked : endpoint.Unchecked = false := by
    by_contra hunchecked
    rw [isAuthorizedForPath_iff, requiredRank_unchecked hlookup (Bool.not_eq_false _ ▸ hunchecked)]
      at hauthorized
    omega
  by_cases hnode : endpoint = .updateNodeAgentConfigPolicy
  · subst hnode
    obtain ⟨route, hroute, hentry, hmatch⟩ := lookup_some hlookup
    obtain ⟨rfl, hmethod⟩ := nodeConfigRoute_only route hroute _ hentry rfl
    obtain ⟨part, rfl⟩ := nodeConfig_params hmatch
    have hput := routed_eq_put hmethod
    rw [hput] at hadmits
    have hoperator := (admits_nodeConfig (nodeConfig_startsWith hmatch) hrole).mp hadmits
    rw [nodeConfig_kept_iff hkept.policies hkept]
    rintro ⟨nodeId, policy, hwritten⟩
    exact hmay (Or.inr ⟨hoperator.1, hoperator.2, hput, part, nodeId, policy, hmatch, hwritten⟩)
  · exact hkept.trans (perform_kept husers (fun u hu => by cases hu; exact ⟨rfl, hrole⟩)
      fun u _ => ⟨hchecked, hnode⟩)

/-- A request keeps the state of administrators, up to the password of the user of its session, unless it
sets the first of them up or its user may change that state. -/
theorem handle_kept (deployment : Deployment) (request : HttpRequest) (control : Control)
    (hsetup : ¬ SetsUp deployment control request)
    (hmay : ∀ user, request.user deployment control = some user → ¬ MayChange deployment request user)
    (hme : ∀ user, request.user deployment control = some user → user.id = me) :
    AdminStateKept me control (handle deployment request control) := by
  unfold handle
  cases hlookup : lookup routes request.method.routed request.path with
  | none => exact .refl me control
  | some found =>
      obtain ⟨endpoint, params⟩ := found
      dsimp only
      by_cases hexempt : withoutSession request.path = true
      · rw [if_pos hexempt]
        by_cases hendpoint : endpoint = .setupAdmin
        · subst hendpoint
          exact setupAdmin_kept hlookup hsetup
        · exact perform_kept_of_none hendpoint
      rw [if_neg hexempt]
      cases hsession : request.session with
      | none => exact .refl me control
      | some token =>
          dsimp only
          have hauth : ∀ me, AdminStateKept me control (control.run
              (authenticateSession deployment.crypto token deployment.policies.session)) := fun me =>
            kept_run (sameAccounts_of_only _ (authenticateSession_only _ token _))
          split
          · rename_i user haccepted
            have huser : request.user deployment control = some user := by
              unfold HttpRequest.user authenticated
              rw [hsession, Option.bind_some, haccepted]
            obtain rfl := hme user huser
            split
            · rename_i hadmits
              refine perform_kept_of_admitted hlookup hadmits (hmay user huser) (hauth user.id) ?_
              have husers := users_of_authenticated haccepted
              have hlength := congrArg List.length (hauth user.id).users
              rw [List.length_map, List.length_map] at hlength
              rw [List.isEmpty_eq_false_iff, ← List.length_pos_iff] at husers ⊢
              omega
            · exact hauth user.id
          · exact hauth me

end Request

/-! ### Where a session comes from -/

/-- A request that signs in with a name and a password, and the state in which it comes to that: the
set-up stores the administrator first. -/
inductive SignInRequest (deployment : Deployment) (control : Control) (request : HttpRequest)
    (username password : String) : Accounts → Prop
  | login (params : List String)
      (routed : lookup routes request.method.routed request.path = some (.login, params))
      (body : deployment.extract.login request.body = some (username, password)) :
      SignInRequest deployment control request username password control.accounts
  | setup (params : List String) (token : Option String)
      (routed : lookup routes request.method.routed request.path = some (.setupAdmin, params))
      (body : deployment.extract.setupAdmin request.body = some (username, password, token))
      (admitted : deployment.setupToken.any (fun expected => token.getD "" ≠ expected) = false) :
      SignInRequest deployment control request username password
        (serve Stmt.exec (setupInitialAdmin deployment.crypto username password
          deployment.policies.password request.id request.salt) control.accounts).2

/-- The request opens the session. -/
def Opens (deployment : Deployment) (control : Control) (request : HttpRequest) (session : UserSession) :
    Prop :=
  ∃ username password accounts row, SignInRequest deployment control request username password accounts
    ∧ SignsIn deployment.crypto deployment.policies accounts username password row
    ∧ (openedSession deployment.crypto deployment.policies accounts row request.sessionId
        request.sessionToken).Continues session

/-- Each session was there before. -/
def SessionsFrom (accounts accounts' : Accounts) : Prop :=
  ∀ session' ∈ accounts'.sessions.rows, ∃ session ∈ accounts.sessions.rows, session.Continues session'

theorem SessionsFrom.refl (accounts : Accounts) : SessionsFrom accounts accounts :=
  fun session hsession => ⟨session, hsession, .refl session⟩

theorem SessionsFrom.trans {accounts accounts' accounts'' : Accounts} (h : SessionsFrom accounts accounts')
    (h' : SessionsFrom accounts' accounts'') : SessionsFrom accounts accounts'' := by
  intro session'' hsession''
  obtain ⟨session', hsession', hlater⟩ := h' session'' hsession''
  obtain ⟨session, hsession, hcontinues⟩ := h session' hsession'
  exact ⟨session, hsession, hcontinues.trans hlater⟩

section Sessions

variable {deployment : Deployment} {request : HttpRequest} {control : Control} {params : List String}
  {endpoint : Endpoint}

/-- Two operations, the second unless the first fails. -/
def followedBy {α β : Type} (first : Operation α) (second : Operation β) : Operation Unit :=
  first >>= fun _ => answered second

theorem serve_answered {α : Type} (operation : Operation α) (accounts : Accounts) :
    (serve Stmt.exec (answered operation) accounts).2 = (serve Stmt.exec operation accounts).2 := by
  unfold answered
  rw [serve_bind]
  cases hserve : serve Stmt.exec operation accounts with
  | mk outcome after => cases outcome <;> rfl

/-- The second operation comes to the state of the first, if that does not fail. -/
theorem serve_followedBy {α β : Type} (first : Operation α) (second : Operation β) (accounts : Accounts) :
    (serve Stmt.exec (followedBy first second) accounts).2 = (serve Stmt.exec first accounts).2 ∨
      (serve Stmt.exec (followedBy first second) accounts).2
        = (serve Stmt.exec second (serve Stmt.exec first accounts).2).2 := by
  unfold followedBy
  cases hserve : serve Stmt.exec first accounts with
  | mk outcome after =>
      cases outcome with
      | error e =>
          rw [serve_bind_error hserve]
          exact Or.inl rfl
      | ok value =>
          rw [serve_bind_ok hserve, serve_answered]
          exact Or.inr rfl

theorem run_accounts {α : Type} (control : Control) (operation : Operation α) :
    (control.run operation).accounts = (serve Stmt.exec operation control.accounts).2 := rfl

/-- An operation on accounts other than a login opens no session. -/
theorem sessionsFrom_run {α : Type} {operation : Operation α} (account : Request)
    (hhandler : account.handler deployment.crypto deployment.policies = answered operation)
    (hlogin : ∀ username password sessionId token,
      account ≠ .loginUser username password sessionId token) :
    SessionsFrom control.accounts (control.run operation).accounts := by
  intro session' hsession'
  have hperformed : session' ∈ ((Event.serve account).perform deployment.crypto deployment.policies
      control.accounts).sessions.rows := by
    change session' ∈ (serve Stmt.exec (account.handler deployment.crypto deployment.policies)
      control.accounts).2.sessions.rows
    rw [hhandler, serve_answered]
    exact hsession'
  obtain hold | ⟨username, password, sessionId, token, row, hevent, -⟩ := perform_origin hperformed
  · exact hold
  · cases hevent
    exact absurd rfl (hlogin username password sessionId token)

theorem sessionsFrom_bind {α : Type} {value : Option α} {rest : α → Option Control}
    (hrest : ∀ a, SessionsFrom control.accounts ((rest a).getD control).accounts) :
    SessionsFrom control.accounts ((value >>= rest).getD control).accounts := by
  cases value with
  | none => exact .refl control.accounts
  | some a => exact hrest a

theorem saveAgentConfigPolicy_accounts (scope nodeId : String) (policy : Server.AgentConfigPolicy) :
    ((saveAgentConfigPolicy control scope nodeId policy).getD control).accounts = control.accounts := by
  unfold saveAgentConfigPolicy
  split <;> rfl

theorem updateServerLogPolicy_accounts (policy : Server.LogPolicy) :
    ((updateServerLogPolicy control policy).getD control).accounts = control.accounts := by
  unfold updateServerLogPolicy
  split <;> rfl

/-- A handler that does not sign in opens no session. -/
theorem perform_sessions {user : Option AuthUser} (hsignIn : endpoint ∉ [Endpoint.login, .setupAdmin]) :
    SessionsFrom control.accounts
      ((endpoint.perform deployment request user params control).getD control).accounts := by
  have hother : ∀ {α : Type} {operation : Operation α} (account : Request),
      account.handler deployment.crypto deployment.policies = answered operation →
      (∀ username password sessionId token, account ≠ .loginUser username password sessionId token) →
      SessionsFrom control.accounts (control.run operation).accounts := fun account hhandler hlogin =>
    sessionsFrom_run account hhandler hlogin
  cases endpoint with
  | setupAdmin => exact absurd (by decide) hsignIn
  | login => exact absurd (by decide) hsignIn
  | logout =>
      refine sessionsFrom_bind fun _ => sessionsFrom_bind fun token => ?_
      exact hother (.revokeSession token) rfl fun _ _ _ _ h => by cases h
  | changePassword =>
      refine sessionsFrom_bind fun user => sessionsFrom_bind fun body => ?_
      exact hother (.changeUserPassword user.id body.1 body.2 request.salt) rfl fun _ _ _ _ h => by cases h
  | createUser =>
      refine sessionsFrom_bind fun user => sessionsFrom_bind fun create => sessionsFrom_bind fun _ => ?_
      exact hother (.createUser create request.id request.salt) rfl fun _ _ _ _ h => by cases h
  | updateUser =>
      refine sessionsFrom_bind fun user => sessionsFrom_bind fun id => sessionsFrom_bind fun update =>
        sessionsFrom_bind fun _ => ?_
      exact hother (.updateUser id update request.salt) rfl fun _ _ _ _ h => by cases h
  | createGroup =>
      refine sessionsFrom_bind fun user => sessionsFrom_bind fun create => sessionsFrom_bind fun _ => ?_
      exact hother (.createUserGroup create request.id) rfl fun _ _ _ _ h => by cases h
  | updateGroup =>
      refine sessionsFrom_bind fun user => sessionsFrom_bind fun id => sessionsFrom_bind fun update =>
        sessionsFrom_bind fun _ => ?_
      exact hother (.updateUserGroup id update) rfl fun _ _ _ _ h => by cases h
  | updateGroupMembers =>
      refine sessionsFrom_bind fun user => sessionsFrom_bind fun id => sessionsFrom_bind fun userIds =>
        sessionsFrom_bind fun _ => ?_
      exact hother (.replaceUserGroupMembers id userIds) rfl fun _ _ _ _ h => by cases h
  | deleteGroup =>
      refine sessionsFrom_bind fun user => sessionsFrom_bind fun id => sessionsFrom_bind fun _ => ?_
      exact hother (.deleteUserGroup id) rfl fun _ _ _ _ h => by cases h
  | updateGlobalAgentConfigPolicy =>
      refine sessionsFrom_bind fun _ => sessionsFrom_bind fun policy => ?_
      rw [saveAgentConfigPolicy_accounts]
      exact .refl control.accounts
  | updateNodeAgentConfigPolicy =>
      refine sessionsFrom_bind fun _ => sessionsFrom_bind fun nodeId => sessionsFrom_bind fun policy => ?_
      rw [saveAgentConfigPolicy_accounts]
      exact .refl control.accounts
  | registerCollectorEntry =>
      refine sessionsFrom_bind fun _ => sessionsFrom_bind fun _ => sessionsFrom_bind fun register =>
        sessionsFrom_bind fun _ => ?_
      exact .refl control.accounts
  | updateCollectorEntry =>
      refine sessionsFrom_bind fun _ => sessionsFrom_bind fun _ => sessionsFrom_bind fun register =>
        sessionsFrom_bind fun _ => ?_
      exact .refl control.accounts
  | deleteCollectorEntry =>
      refine sessionsFrom_bind fun _ => sessionsFrom_bind fun _ => sessionsFrom_bind fun id =>
        sessionsFrom_bind fun version => sessionsFrom_bind fun _ => ?_
      exact .refl control.accounts
  | updateServerLogPolicy =>
      refine sessionsFrom_bind fun _ => sessionsFrom_bind fun policy => ?_
      rw [updateServerLogPolicy_accounts]
      exact .refl control.accounts
  | cleanupModelFileTrash =>
      refine sessionsFrom_bind fun _ => sessionsFrom_bind fun id => ?_
      exact .refl control.accounts
  | _ => exact .refl control.accounts

/-- What a login leaves: the sessions from before, and its own. -/
theorem loginUser_sessions {username password sessionId token : String} {accounts : Accounts}
    {session' : UserSession} (hsession' : session' ∈ (serve Stmt.exec (loginUser deployment.crypto username
      password deployment.policies.session deployment.policies.password sessionId token)
      accounts).2.sessions.rows) :
    (∃ session ∈ accounts.sessions.rows, session.Continues session') ∨
      ∃ row, SignsIn deployment.crypto deployment.policies accounts username password row
        ∧ session' = openedSession deployment.crypto deployment.policies accounts row sessionId token := by
  have hperformed : session' ∈ ((Event.serve (.loginUser username password sessionId token)).perform
      deployment.crypto deployment.policies accounts).sessions.rows := by
    change session' ∈ (serve Stmt.exec (answered _) accounts).2.sessions.rows
    rw [serve_answered]
    exact hsession'
  obtain hold | ⟨_, _, _, _, row, hevent, hsigns, hopened⟩ := perform_origin hperformed
  · exact Or.inl hold
  · cases hevent
    exact Or.inr ⟨row, hsigns, hopened⟩

/-- A login that comes after another operation opens its session in the state of that one. -/
theorem followedBy_loginUser_sessions {α : Type} {first : Operation α} {accounts : Accounts}
    {username password sessionId token : String} {session' : UserSession}
    (hfirst : SessionsFrom accounts (serve Stmt.exec first accounts).2)
    (hsession' : session' ∈ (serve Stmt.exec (followedBy first (loginUser deployment.crypto username
      password deployment.policies.session deployment.policies.password sessionId token)) accounts).2.sessions.rows) :
    (∃ session ∈ accounts.sessions.rows, session.Continues session') ∨
      ∃ row, SignsIn deployment.crypto deployment.policies (serve Stmt.exec first accounts).2 username
          password row
        ∧ session' = openedSession deployment.crypto deployment.policies (serve Stmt.exec first accounts).2
          row sessionId token := by
  obtain hfails | hsucceeds := serve_followedBy first (loginUser deployment.crypto username password
    deployment.policies.session deployment.policies.password sessionId token) accounts
  · rw [hfails] at hsession'
    exact Or.inl (hfirst session' hsession')
  · rw [hsucceeds] at hsession'
    obtain ⟨session, hsession, hcontinues⟩ | hopened := loginUser_sessions hsession'
    · obtain ⟨before, hbefore, hthere⟩ := hfirst session hsession
      exact Or.inl ⟨before, hbefore, hthere.trans hcontinues⟩
    · exact Or.inr hopened

theorem setupAndLogin_eq (username password : String) :
    setupAndLogin deployment request username password = followedBy (setupInitialAdmin deployment.crypto
      username password deployment.policies.password request.id request.salt)
        (loginUser deployment.crypto username password deployment.policies.session
          deployment.policies.password request.sessionId request.sessionToken) := rfl

/-- The handlers that sign in, on a state to which the request has come without a session. -/
theorem perform_signIn {user : Option AuthUser} {session' : UserSession}
    (hlookup : lookup routes request.method.routed request.path = some (endpoint, params))
    (hsession' : session' ∈ ((endpoint.perform deployment request user params control).getD
      control).accounts.sessions.rows) (hsignIn : endpoint ∈ [Endpoint.login, .setupAdmin]) :
    (∃ session ∈ control.accounts.sessions.rows, session.Continues session') ∨
      Opens deployment control request session' := by
  simp only [List.mem_cons, List.not_mem_nil, or_false] at hsignIn
  obtain rfl | rfl := hsignIn
  · cases hbody : deployment.extract.login request.body with
    | none =>
        simp only [Endpoint.perform, hbody] at hsession'
        exact Or.inl ⟨session', hsession', .refl session'⟩
    | some body =>
        obtain ⟨username, password⟩ := body
        simp only [Endpoint.perform, hbody] at hsession'
        obtain hold | ⟨row, hsigns, rfl⟩ := loginUser_sessions hsession'
        · exact Or.inl hold
        · exact Or.inr ⟨username, password, _, row, .login params hlookup hbody, hsigns, .refl _⟩
  · cases hbody : deployment.extract.setupAdmin request.body with
    | none =>
        simp only [Endpoint.perform, hbody] at hsession'
        exact Or.inl ⟨session', hsession', .refl session'⟩
    | some body =>
        obtain ⟨username, password, token⟩ := body
        simp only [Endpoint.perform, hbody] at hsession'
        change session' ∈ ((if deployment.setupToken.any (fun expected => token.getD "" ≠ expected) then none
          else some (control.run (setupAndLogin deployment request username password))).getD
            control).accounts.sessions.rows at hsession'
        split at hsession'
        · exact Or.inl ⟨session', hsession', .refl session'⟩
        rename_i htoken
        have hadmitted := Bool.not_eq_true _ ▸ htoken
        rw [Option.getD_some, run_accounts, setupAndLogin_eq] at hsession'
        have hstored : SessionsFrom control.accounts (control.run (setupInitialAdmin deployment.crypto
            username password deployment.policies.password request.id request.salt)).accounts :=
          @sessionsFrom_run deployment control _ _
            (.setupInitialAdmin username password request.id request.salt) rfl fun _ _ _ _ h => by cases h
        rw [run_accounts] at hstored
        obtain ⟨session, hsession, hcontinues⟩ | ⟨row, hsigns, hopened⟩ :=
          followedBy_loginUser_sessions hstored hsession'
        · exact Or.inl ⟨session, hsession, hcontinues⟩
        · refine Or.inr ⟨username, password, _, row, .setup params token hlookup hbody hadmitted, hsigns, ?_⟩
          rw [hopened]
          exact .refl _

/-- A request opens the sessions that were not there before it. -/
theorem handle_sessions {session' : UserSession}
    (hsession' : session' ∈ (handle deployment request control).accounts.sessions.rows) :
    (∃ session ∈ control.accounts.sessions.rows, session.Continues session') ∨
      Opens deployment control request session' := by
  unfold handle at hsession'
  cases hlookup : lookup routes request.method.routed request.path with
  | none =>
      rw [hlookup] at hsession'
      exact Or.inl ⟨session', hsession', .refl session'⟩
  | some found =>
      obtain ⟨endpoint, params⟩ := found
      rw [hlookup] at hsession'
      dsimp only at hsession'
      by_cases hsignIn : endpoint ∈ [Endpoint.login, .setupAdmin]
      · rw [if_pos (withoutSession_signIn hlookup hsignIn)] at hsession'
        exact perform_signIn hlookup hsession' hsignIn
      refine Or.inl ?_
      by_cases hexempt : withoutSession request.path = true
      · rw [if_pos hexempt] at hsession'
        exact perform_sessions hsignIn session' hsession'
      rw [if_neg hexempt] at hsession'
      cases hsession : request.session with
      | none =>
          rw [hsession] at hsession'
          exact ⟨session', hsession', .refl session'⟩
      | some token =>
          rw [hsession] at hsession'
          dsimp only at hsession'
          have hauth : SessionsFrom control.accounts (control.run
              (authenticateSession deployment.crypto token deployment.policies.session)).accounts :=
            @sessionsFrom_run deployment control _ _ (.authenticateSession token) rfl
              fun _ _ _ _ h => by cases h
          split at hsession'
          · split at hsession'
            · exact (hauth.trans (perform_sessions hsignIn)) session' hsession'
            · exact hauth session' hsession'
          · exact hauth session' hsession'

end Sessions

/-! ### Runs -/

/-- A request, a password reset on the console of the server, or the passing of time. -/
inductive ControlEvent where
  | http (request : HttpRequest)
  | resetPassword (username password : String) (policy : PasswordPolicy) (salt : String)
  | tick (now : Int)

def ControlEvent.perform (deployment : Deployment) (control : Control) : ControlEvent → Control
  | http request => handle deployment request control
  | resetPassword username password policy salt =>
      control.run (resetUserPassword deployment.crypto username password policy salt)
  | tick now => { control with accounts := { control.accounts with clock := now } }

/-- A control plane before its set-up. -/
def emptyControl (clock : Int) : Control := { accounts := { clock } }

def controlAfter (deployment : Deployment) (clock : Int) (events : List ControlEvent) : Control :=
  run (ControlEvent.perform deployment) (emptyControl clock) events

/-- After these events the token is that of a session which one of them has opened, for the user, with his
password. -/
def SignedInBefore (deployment : Deployment) (clock : Int) (events : List ControlEvent) (token : String)
    (user : AuthUser) : Prop :=
  ∃ pre signIn post username password accounts row, events = pre ++ .http signIn :: post
    ∧ SignInRequest deployment (controlAfter deployment clock pre) signIn username password accounts
    ∧ SignsIn deployment.crypto deployment.policies accounts username password row
    ∧ row.id = user.id
    ∧ deployment.crypto.hashToken signIn.sessionToken = deployment.crypto.hashToken token

section Runs

variable {deployment : Deployment} {clock : Int}

theorem event_sessions {control : Control} {event : ControlEvent} {session' : UserSession}
    (hsession' : session' ∈ (event.perform deployment control).accounts.sessions.rows) :
    (∃ session ∈ control.accounts.sessions.rows, session.Continues session') ∨
      ∃ request, event = .http request ∧ Opens deployment control request session' := by
  cases event with
  | http request =>
      obtain hold | hopens := handle_sessions hsession'
      · exact Or.inl hold
      · exact Or.inr ⟨request, rfl, hopens⟩
  | resetPassword username password policy salt =>
      have hfrom : SessionsFrom control.accounts (control.run
          (resetUserPassword deployment.crypto username password policy salt)).accounts :=
        @sessionsFrom_run deployment control _ _ (.resetUserPassword username password policy salt) rfl
          fun _ _ _ _ h => by cases h
      exact Or.inl (hfrom session' hsession')
  | tick now => exact Or.inl ⟨session', hsession', .refl session'⟩

/-- Every session of a run was opened by one of its requests. -/
theorem session_opened (events : List ControlEvent) : ∀ session ∈
    (controlAfter deployment clock events).accounts.sessions.rows,
    ∃ pre request post, events = pre ++ .http request :: post
      ∧ Opens deployment (controlAfter deployment clock pre) request session := by
  induction events using List.reverseRecOn with
  | nil =>
      intro session hsession
      cases hsession
  | append_singleton events event ih =>
      intro session' hsession'
      unfold controlAfter at hsession'
      rw [run_append, run_cons, run_nil] at hsession'
      obtain ⟨session, hsession, hcontinues⟩ | ⟨request, rfl, hopens⟩ := event_sessions hsession'
      · obtain ⟨pre, request, post, rfl, username, password, accounts, row, hrequest, hsigns, hopened⟩ :=
          ih session hsession
        refine ⟨pre, request, post ++ [event], ?_, username, password, accounts, row, hrequest, hsigns,
          hopened.trans hcontinues⟩
        rw [List.append_assoc, List.cons_append]
      · exact ⟨events, request, [], rfl, hopens⟩

theorem signedIn_of_accepted {events : List ControlEvent} {token : String} {user : AuthUser}
    (haccepted : authenticated deployment.crypto deployment.policies token
      (controlAfter deployment clock events).accounts = .ok (some user)) :
    SignedInBefore deployment clock events token user := by
  obtain ⟨session, found, hvalid, rfl⟩ := validSession_of_authenticated haccepted
  obtain ⟨hsession, htoken, -, -, hfound, -⟩ := validSession_some hvalid
  obtain ⟨pre, signIn, post, hsplit, username, password, accounts, row, hrequest, hsigns, hopened⟩ :=
    session_opened events session hsession
  refine ⟨pre, signIn, post, username, password, accounts, row, hsplit, hrequest, hsigns, ?_, ?_⟩
  · calc row.id = session.userId := hopened.userId.symm
      _ = found.id := (Table.find?_key hfound).symm
  · calc deployment.crypto.hashToken signIn.sessionToken = session.tokenHash := hopened.tokenHash.symm
      _ = deployment.crypto.hashToken token := htoken

/-- In a run from an empty control plane, a request that changes the state of administrators, other than
the password of the user of its session, is the set-up of the first administrator, or is sent with a session
that an earlier request has opened, for a user whose password it gave and who may make that change now. -/
theorem admin_change_origin (deployment : Deployment) (clock : Int) (events : List ControlEvent)
    (request : HttpRequest)
    (hchanged : ¬ AdminStateKept
      ((request.user deployment (controlAfter deployment clock events)).elim "" (·.id))
      (controlAfter deployment clock events)
      (handle deployment request (controlAfter deployment clock events))) :
    SetsUp deployment (controlAfter deployment clock events) request ∨
      ∃ token user, request.session = some token
        ∧ authenticated deployment.crypto deployment.policies token
            (controlAfter deployment clock events).accounts = .ok (some user)
        ∧ MayChange deployment request user ∧ SignedInBefore deployment clock events token user := by
  by_contra hnone
  push Not at hnone
  obtain ⟨hsetup, hsession⟩ := hnone
  refine hchanged (handle_kept deployment request _ hsetup (fun user huser hmay => ?_) fun user huser => ?_)
  · obtain ⟨token, htoken, hfound⟩ := Option.bind_eq_some_iff.mp huser
    split at hfound
    · rename_i found haccepted
      subst hfound
      exact hsession token user htoken haccepted hmay (signedIn_of_accepted haccepted)
    · cases hfound
  · rw [huser]
    rfl

end Runs

/-! ### The first administrator -/

def setUpDeployment : Deployment :=
  { plainDeployment with
    extract := { plainExtractors with setupAdmin := fun _ => some ("admin", "administrator", none) } }

def setUpRequest : HttpRequest :=
  { method := .post
    path := "/api/setup/admin"
    id := "u"
    salt := "a"
    sessionId := "s"
    sessionToken := "t" }

def storeGlobalPolicy : HttpRequest := { storeNodePolicy with path := "/api/config/agent/global" }

/-- He stores the policy of all agents with the session of his set-up. -/
theorem admin_change_origin_setUp :
    SetsUp setUpDeployment (controlAfter setUpDeployment 0 [.http setUpRequest]) storeGlobalPolicy ∨
      ∃ token user, storeGlobalPolicy.session = some token
        ∧ authenticated setUpDeployment.crypto setUpDeployment.policies token
            (controlAfter setUpDeployment 0 [.http setUpRequest]).accounts = .ok (some user)
        ∧ MayChange setUpDeployment storeGlobalPolicy user
        ∧ SignedInBefore setUpDeployment 0 [.http setUpRequest] token user := by
  refine admin_change_origin setUpDeployment 0 [.http setUpRequest] storeGlobalPolicy fun hkept => ?_
  have hrows := congrArg (fun table => table.rows.length) hkept.policies
  revert hrows
  decide +kernel

end LightAI.Users
