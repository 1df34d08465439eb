import LightAI.Base.Trace
import LightAI.Server.Access

/-!
# Sessions that are over

An operation on the accounts does one thing or nothing, which `Effect` lists. A session that is revoked
or has expired stays so, and since a disabled user has none that is still open, what was rejected once
is rejected for ever.
-/

namespace LightAI.Users

open Fallible Trace

/-- The accounts change while requests are served one at a time and the wall clock is moved. -/
inductive Event where
  | serve (request : Request)
  | tick (now : Int)

def Event.perform (crypto : Crypto) (policies : Policies) (accounts : Accounts) : Event → Accounts
  | serve request => (Fallible.serve Stmt.exec (request.handler crypto policies) accounts).2
  | tick now => { accounts with clock := now }

/-- What `authenticate_session` answers: the user, if the session is accepted. -/
def authenticated (crypto : Crypto) (policies : Policies) (token : String) (accounts : Accounts) :
    Except String (Option AuthUser) :=
  (serve Stmt.exec (authenticateSession crypto token policies.session) accounts).1

/-! ### What an operation does -/

def Accounts.writeUser (accounts : Accounts) (id : String) (write : User → User)
    (hid : ∀ user, (write user).id = user.id) : Accounts :=
  { accounts with users := accounts.users.update id write hid }

def Accounts.endSessions (accounts : Accounts) (userId : String) : Accounts :=
  (Stmt.exec (.revokeUserSessions userId accounts.clock) accounts).2

/-- The update takes the role of an administrator away from the user, or his access. -/
def DemotesAdmin (row : User) (request : UserUpdateRequest) : Bool :=
  row.role = "admin"
    && (!request.enabled.getD row.enabled || request.role.getD row.role ≠ "admin")

/-- The operations that do something, with what they found before. -/
inductive Effect (crypto : Crypto) (policies : Policies) (accounts : Accounts) :
    Request → Accounts → Prop
  | nothing (request : Request) : Effect crypto policies accounts request accounts
  | addUser (request : Request) (user : User) (henabled : user.enabled = true) :
      Effect crypto policies accounts request (accounts.insertUser user).2
  | updateUser (id : String) (request : UserUpdateRequest) (salt : String) (row : User)
      (write : User → User) (hid : ∀ user, (write user).id = user.id)
      (hrow : accounts.users.find? id = some row)
      (hrole : ∀ user, (write user).role = request.role.getD row.role)
      (henabled : ∀ user, (write user).enabled = request.enabled.getD row.enabled)
      (hguard : DemotesAdmin row request = true → accounts.otherAdmins id ≠ 0) :
      Effect crypto policies accounts (.updateUser id request salt)
        (if request.enabled.getD row.enabled then accounts.writeUser id write hid
          else (accounts.writeUser id write hid).endSessions id)
  | login (username password sessionId token : String) (row : User)
      (hrow : row ∈ accounts.users.rows) (henabled : row.enabled = true) :
      Effect crypto policies accounts (.loginUser username password sessionId token)
        (accounts.insertSession
          { id := sessionId
            userId := row.id
            tokenHash := crypto.hashToken token
            createdAt := accounts.clock
            lastSeenAt := accounts.clock
            expiresAt := accounts.clock + policies.session.ttlSecs }).2
  | idle (token : String) :
      Effect crypto policies accounts (.authenticateSession token)
        (Stmt.exec (.revokeSession (crypto.hashToken token) accounts.clock) accounts).2
  | seen (token : String) :
      Effect crypto policies accounts (.authenticateSession token)
        (Stmt.exec (.touchSession (crypto.hashToken token) accounts.clock) accounts).2
  | setPassword (request : Request) (id passwordHash : String) (mustChangePassword : Bool)
      (hother : ∀ id update salt, request ≠ .updateUser id update salt) :
      Effect crypto policies accounts request
        ((accounts.writeUser id (·.setPassword passwordHash mustChangePassword accounts.clock)
          (setPassword_id passwordHash mustChangePassword accounts.clock)).endSessions id)
  | revoke (token : String) :
      Effect crypto policies accounts (.revokeSession token)
        (Stmt.exec (.revokeSession (crypto.hashToken token) accounts.clock) accounts).2
  | groups (request : Request) (groups : Table String UserGroup UserGroup.id)
      (members : List (String × String)) :
      Effect crypto policies accounts request { accounts with groups, members }

variable {crypto : Crypto} {policies : Policies} {accounts : Accounts}

/-- A handler ends as the operation does. -/
theorem ends_answered {α : Type} {h : Operation α} {P : Accounts → Prop}
    (hends : Ends Stmt.exec h accounts (fun _ s => P s) fun _ s => P s) :
    Ends Stmt.exec (answered h) accounts (fun _ s => P s) fun _ s => P s :=
  Ends.bind (hends.mono (fun _ _ hs => ends_pure hs) fun _ _ hs => hs)

theorem ends_userById {id : String} {Q : Option AuthUser → Accounts → Prop}
    {E : String → Accounts → Prop}
    (hQ : Q ((accounts.users.find? id).map accounts.authUser) accounts) :
    Ends Stmt.exec (userById id) accounts Q E :=
  .of_serve_ok (serve_userById id accounts) hQ

/-- The row that an operation answers with after it is done. -/
theorem ends_reread {id error : String} {P : Accounts → Prop} (hdone : P accounts) :
    Ends Stmt.exec (do let user ← userById id; required error user) accounts (fun _ s => P s)
      fun _ s => P s := by
  refine Ends.bind (ends_userById ?_)
  exact ends_required (fun _ _ => hdone) fun _ => hdone

theorem ends_hashPassword {password salt : String} {Q : String → Accounts → Prop}
    {E : String → Accounts → Prop} (hok : ∀ passwordHash, Q passwordHash accounts)
    (herror : E "failed to hash password" accounts) :
    Ends Stmt.exec (hashPassword crypto password salt) accounts Q E :=
  ends_required (fun passwordHash _ => hok passwordHash) fun _ => herror

theorem exec_insertFirstUser (user : User) (accounts : Accounts) :
    (Stmt.exec (.insertFirstUser user) accounts).2
      = if accounts.users.rows.isEmpty then (accounts.insertUser user).2 else accounts := by
  by_cases hempty : accounts.users.rows.isEmpty = true
  · rw [if_pos hempty]
    exact congrArg Prod.snd (if_pos hempty)
  · rw [if_neg hempty]
    exact congrArg Prod.snd (if_neg hempty)

theorem ends_setupInitialAdmin {username password id salt : String} {policy : PasswordPolicy}
    {P : Accounts → Prop} (hsame : P accounts)
    (hadded : ∀ user : User, user.enabled = true → P (accounts.insertUser user).2) :
    Ends Stmt.exec (setupInitialAdmin crypto username password policy id salt) accounts
      (fun _ s => P s) fun _ s => P s := by
  unfold setupInitialAdmin
  refine Ends.bind (ends_checked (fun _ _ => ?_) fun _ _ => hsame)
  refine Ends.bind (ends_checked (fun _ _ => ?_) fun _ _ => hsame)
  refine Ends.bind (ends_query ?_)
  refine Ends.bind (ends_hashPassword (fun passwordHash => ?_) hsame)
  refine Ends.bind (ends_execute ?_)
  have hdone : ∀ user : User, user.enabled = true →
      P (Stmt.exec (.insertFirstUser user) accounts).2 := by
    intro user henabled
    rw [exec_insertFirstUser]
    split
    · exact hadded user henabled
    · exact hsame
  refine Ends.bind (ends_rejectIf (fun _ => ?_) fun _ => hdone _ rfl)
  exact ends_reread (hdone _ rfl)

theorem ends_createUserWithPolicy {request : UserCreateRequest} {policy : PasswordPolicy}
    {id salt : String} {P : Accounts → Prop} (hsame : P accounts)
    (hadded : ∀ user : User, user.enabled = true → P (accounts.insertUser user).2) :
    Ends Stmt.exec (createUserWithPolicy crypto request policy id salt) accounts
      (fun _ s => P s) fun _ s => P s := by
  unfold createUserWithPolicy
  refine Ends.bind (ends_checked (fun _ _ => ?_) fun _ _ => hsame)
  refine Ends.bind (ends_checked (fun _ _ => ?_) fun _ _ => hsame)
  refine Ends.bind (ends_checked (fun _ _ => ?_) fun _ _ => hsame)
  refine Ends.bind (ends_query ?_)
  refine Ends.bind (ends_hashPassword (fun passwordHash => ?_) hsame)
  refine Ends.bind (ends_execute ?_)
  refine Ends.bind (ends_inserted (fun _ => ?_) fun _ => hadded _ rfl)
  exact ends_reread (hadded _ rfl)

/-- The guard on the last administrator changes nothing, and lets a demotion pass only where there is
another one. -/
theorem ends_keepLastAdmin {id role : String} {existing : AuthUser} {enabled : Bool}
    {P : Accounts → Prop} {Q : Unit → Accounts → Prop}
    (hpass : ((existing.role = "admin" && (!enabled || role ≠ "admin")) = true →
      accounts.otherAdmins id ≠ 0) → Q () accounts) (hsame : P accounts) :
    Ends Stmt.exec (keepLastAdmin id existing role enabled) accounts Q fun _ s => P s := by
  unfold keepLastAdmin
  by_cases hdemotes : (existing.role = "admin" && (!enabled || role ≠ "admin")) = true
  · rw [if_pos hdemotes]
    refine Ends.bind (ends_query ?_)
    exact ends_rejectIf (fun hsome => hpass fun _ => of_decide_eq_false hsome) fun _ => hsame
  · rw [if_neg hdemotes]
    exact ends_pure (hpass fun h => absurd h hdemotes)

/-- The `UPDATE` of an administrator, with a password or without. -/
theorem ends_writeUserUpdate {id role salt : String} {password : Option String} {enabled : Bool}
    {now : Int} {P : Accounts → Prop} {Q : Unit → Accounts → Prop} (hsame : P accounts)
    (hwritten : ∀ (write : User → User) (hid : ∀ user, (write user).id = user.id),
      (∀ user, (write user).role = role) → (∀ user, (write user).enabled = enabled) →
      Q () (accounts.writeUser id write hid)) :
    Ends Stmt.exec (writeUserUpdate crypto id password role enabled now salt) accounts Q
      fun _ s => P s := by
  cases password with
  | none =>
      exact ends_execute (hwritten (·.setAccess role enabled now) (setAccess_id role enabled now)
        (fun _ => rfl) fun _ => rfl)
  | some password =>
      refine Ends.bind (ends_hashPassword (fun passwordHash => ?_) hsame)
      exact ends_execute (hwritten (·.setAccessAndPassword passwordHash role enabled now)
        (setAccessAndPassword_id passwordHash role enabled now) (fun _ => rfl) fun _ => rfl)

theorem ends_updateUserWithPolicy {id salt : String} {request : UserUpdateRequest}
    {policy : PasswordPolicy} {P : Accounts → Prop} (hsame : P accounts)
    (hwritten : ∀ row (write : User → User) (hid : ∀ user, (write user).id = user.id),
      accounts.users.find? id = some row →
      (∀ user, (write user).role = request.role.getD row.role) →
      (∀ user, (write user).enabled = request.enabled.getD row.enabled) →
      (DemotesAdmin row request = true → accounts.otherAdmins id ≠ 0) →
      P (if request.enabled.getD row.enabled then accounts.writeUser id write hid
        else (accounts.writeUser id write hid).endSessions id)) :
    Ends Stmt.exec (updateUserWithPolicy crypto id request policy salt) accounts
      (fun _ s => P s) fun _ s => P s := by
  unfold updateUserWithPolicy
  refine Ends.bind (ends_checked (fun _ _ => ?_) fun _ _ => hsame)
  refine Ends.bind (ends_userById ?_)
  refine Ends.bind (ends_required (fun existing hexisting => ?_) fun _ => hsame)
  obtain ⟨row, hrow, rfl⟩ := Option.map_eq_some_iff.mp hexisting
  refine Ends.bind (ends_keepLastAdmin (fun hguard => ?_) hsame)
  refine Ends.bind (ends_query ?_)
  refine Ends.bind (ends_writeUserUpdate hsame fun write hid hrole henabled => ?_)
  have hdone := hwritten row write hid hrow hrole henabled hguard
  have hkept : (accounts.authUser row).enabled = row.enabled := rfl
  rw [hkept]
  cases hnext : request.enabled.getD row.enabled with
  | true =>
      rw [hnext, if_pos rfl] at hdone
      exact ends_reread hdone
  | false =>
      rw [hnext, if_neg Bool.false_ne_true] at hdone
      refine Ends.bind (ends_execute ?_)
      exact ends_reread hdone

theorem ends_loginUser {username password sessionId token : String} {sessionPolicy : SessionPolicy}
    {passwordPolicy : PasswordPolicy} {P : Accounts → Prop} (hsame : P accounts)
    (hlogin : ∀ row ∈ accounts.users.rows, row.enabled = true →
      P (accounts.insertSession
        { id := sessionId
          userId := row.id
          tokenHash := crypto.hashToken token
          createdAt := accounts.clock
          lastSeenAt := accounts.clock
          expiresAt := accounts.clock + sessionPolicy.ttlSecs }).2) :
    Ends Stmt.exec (loginUser crypto username password sessionPolicy passwordPolicy sessionId token)
      accounts (fun _ s => P s) fun _ s => P s := by
  unfold loginUser
  refine Ends.bind (ends_query ?_)
  split
  · exact ends_pure hsame
  · rename_i row hfound
    by_cases hrefused : (!row.enabled || !crypto.verifyPassword password row.passwordHash) = true
    · rw [if_pos hrefused]
      exact ends_pure hsame
    · rw [if_neg hrefused]
      have henabled : row.enabled = true := by
        simp only [Bool.or_eq_true, not_or] at hrefused
        simpa using hrefused.1
      have hdone := hlogin row (List.mem_of_find?_eq_some hfound) henabled
      refine Ends.bind (ends_query ?_)
      by_cases hexpired : passwordExpired row passwordPolicy accounts.clock = true
      · rw [if_pos hexpired]
        exact ends_pure hsame
      · rw [if_neg hexpired]
        refine Ends.bind (.of_serve_ok (serve_enrichEffectiveRole row accounts) ?_)
        refine Ends.bind (ends_query ?_)
        refine Ends.bind (ends_execute ?_)
        refine Ends.bind (ends_inserted (fun _ => ?_) fun _ => hdone)
        exact ends_pure hdone

/-- How `authenticate_session` ends: without a valid session nothing happens, an idle one is revoked,
and any other is accepted. -/
theorem ends_authenticateSession {token : String} {policy : SessionPolicy}
    {Q : Option AuthUser → Accounts → Prop} {E : String → Accounts → Prop}
    (hnone : accounts.validSession (crypto.hashToken token) accounts.clock = none → Q none accounts)
    (hidle : ∀ session row,
      accounts.validSession (crypto.hashToken token) accounts.clock = some (session, row) →
      idleTooLong session policy accounts.clock = true →
      Q none (Stmt.exec (.revokeSession (crypto.hashToken token) accounts.clock) accounts).2)
    (hseen : ∀ session row,
      accounts.validSession (crypto.hashToken token) accounts.clock = some (session, row) →
      idleTooLong session policy accounts.clock = false →
      Q (some (accounts.authUser row))
        (Stmt.exec (.touchSession (crypto.hashToken token) accounts.clock) accounts).2) :
    Ends Stmt.exec (authenticateSession crypto token policy) accounts Q E := by
  unfold authenticateSession
  refine Ends.bind (ends_query ?_)
  refine Ends.bind (ends_query ?_)
  cases hvalid : accounts.validSession (crypto.hashToken token) accounts.clock with
  | none => exact ends_pure (hnone hvalid)
  | some found =>
      obtain ⟨session, row⟩ := found
      cases hlong : idleTooLong session policy accounts.clock with
      | true =>
          simp only [hlong, if_true]
          refine Ends.bind (ends_execute ?_)
          exact ends_pure (hidle session row hvalid hlong)
      | false =>
          simp only [hlong, if_false, Bool.false_eq_true]
          refine Ends.bind (ends_execute ?_)
          refine Ends.bind (.of_serve_ok (serve_enrichEffectiveRole row _) ?_)
          exact ends_pure (hseen session row hvalid hlong)

theorem ends_resetUserPassword {username password salt : String} {policy : PasswordPolicy}
    {P : Accounts → Prop} (hsame : P accounts)
    (hwritten : ∀ id passwordHash, P ((accounts.writeUser id
      (·.setPassword passwordHash policy.forceChangeAfterReset accounts.clock)
      (setPassword_id passwordHash policy.forceChangeAfterReset accounts.clock)).endSessions id)) :
    Ends Stmt.exec (resetUserPassword crypto username password policy salt) accounts
      (fun _ s => P s) fun _ s => P s := by
  unfold resetUserPassword
  refine Ends.bind (ends_checked (fun _ _ => ?_) fun _ _ => hsame)
  refine Ends.bind (ends_query ?_)
  refine Ends.bind (ends_required (fun user _ => ?_) fun _ => hsame)
  refine Ends.bind (ends_query ?_)
  refine Ends.bind (ends_hashPassword (fun passwordHash => ?_) hsame)
  have hdone := hwritten user.id passwordHash
  refine Ends.bind (ends_execute ?_)
  refine Ends.bind (ends_execute ?_)
  exact ends_reread hdone

theorem ends_changeUserPassword {userId currentPassword newPassword salt : String}
    {policy : PasswordPolicy} {P : Accounts → Prop} (hsame : P accounts)
    (hwritten : ∀ passwordHash, P ((accounts.writeUser userId
      (·.setPassword passwordHash false accounts.clock)
      (setPassword_id passwordHash false accounts.clock)).endSessions userId)) :
    Ends Stmt.exec (changeUserPassword crypto userId currentPassword newPassword policy salt)
      accounts (fun _ s => P s) fun _ s => P s := by
  unfold changeUserPassword
  refine Ends.bind (ends_checked (fun _ _ => ?_) fun _ _ => hsame)
  refine Ends.bind (ends_query ?_)
  refine Ends.bind (ends_required (fun user _ => ?_) fun _ => hsame)
  refine Ends.bind (ends_rejectIf (fun _ => ?_) fun _ => hsame)
  refine Ends.bind (ends_query ?_)
  refine Ends.bind (ends_hashPassword (fun passwordHash => ?_) hsame)
  refine Ends.bind (ends_execute ?_)
  exact ends_execute (hwritten passwordHash)

theorem ends_revokeSession {token : String} {P : Accounts → Prop}
    (hrevoked : P (Stmt.exec (.revokeSession (crypto.hashToken token) accounts.clock) accounts).2) :
    Ends Stmt.exec (revokeSession crypto token) accounts (fun _ s => P s) fun _ s => P s := by
  unfold revokeSession
  refine Ends.bind (ends_query ?_)
  exact ends_execute hrevoked

/-! ### Groups -/

/-- The statements that read, or write groups and their members only. -/
def Stmt.AboutGroups : Stmt → Prop
  | select _ | insertGroup _ | updateGroup .. | replaceMembers .. | deleteGroup _ => True
  | _ => False

/-- Groups and members apart, the tables are the same. -/
def SameUsers (accounts accounts' : Accounts) : Prop :=
  ∃ groups members, accounts' = { accounts with groups, members }

theorem SameUsers.refl (accounts : Accounts) : SameUsers accounts accounts :=
  ⟨accounts.groups, accounts.members, rfl⟩

theorem SameUsers.trans {first second third : Accounts} (h : SameUsers first second)
    (h' : SameUsers second third) : SameUsers first third := by
  obtain ⟨groups, members, rfl⟩ := h
  obtain ⟨groups', members', rfl⟩ := h'
  exact ⟨groups', members', rfl⟩

theorem SameUsers.sessions {accounts accounts' : Accounts} (h : SameUsers accounts accounts') :
    accounts'.sessions = accounts.sessions := by
  obtain ⟨groups, members, rfl⟩ := h
  rfl

theorem SameUsers.users {accounts accounts' : Accounts} (h : SameUsers accounts accounts') :
    accounts'.users = accounts.users := by
  obtain ⟨groups, members, rfl⟩ := h
  rfl

theorem exec_aboutGroups (stmt : Stmt) (accounts : Accounts) (hstmt : stmt.AboutGroups) :
    SameUsers accounts (stmt.exec accounts).2 := by
  cases stmt with
  | select query => exact .refl accounts
  | insertGroup group =>
      change SameUsers accounts (accounts.insertGroup group).2
      unfold Accounts.insertGroup
      split
      · exact .refl accounts
      · split
        · exact .refl accounts
        · exact ⟨_, _, rfl⟩
  | updateGroup id name role enabled now =>
      rw [Stmt.exec]
      split
      · exact .refl accounts
      · exact ⟨_, _, rfl⟩
  | replaceMembers groupId userIds =>
      rw [Stmt.exec]
      split
      · exact .refl accounts
      · exact ⟨_, _, rfl⟩
  | deleteGroup id => exact ⟨_, _, rfl⟩
  | _ => cases hstmt

theorem only_query {β : Type} (ok : Stmt → Prop) (hselect : ∀ {β : Type} (q : Accounts → β),
    ok (.select q)) (q : Accounts → β) : Only ok (query q) :=
  only_perform (hselect q)

theorem only_inserted (ok : Stmt → Prop) (accepted : Bool) : Only ok (inserted accepted) := by
  cases accepted <;> trivial

theorem only_userById (ok : Stmt → Prop) (hselect : ∀ {β : Type} (q : Accounts → β), ok (.select q))
    (id : String) : Only ok (userById id) := by
  refine only_bind (only_query ok hselect _) fun row => ?_
  cases row with
  | none => exact only_pure _
  | some row =>
      refine only_bind ?_ fun _ => only_pure _
      exact only_bind (only_query ok hselect _) fun _ => only_pure _

theorem only_answered {α : Type} {ok : Stmt → Prop} {h : Operation α} (hh : Only ok h) :
    Only ok (answered h) :=
  only_bind hh fun _ => only_pure _

section AboutGroups

variable {id groupId : String}

private theorem groups_select {β : Type} (q : Accounts → β) : (Stmt.select q).AboutGroups := trivial

theorem createUserGroup_only (request : UserGroupCreateRequest) :
    Only Stmt.AboutGroups (createUserGroup request id) := by
  unfold createUserGroup
  refine only_bind (only_checked _) fun _ => only_bind (only_checked _) fun _ => ?_
  refine only_bind (only_query _ groups_select _) fun _ => ?_
  refine only_bind (only_perform trivial) fun _ => only_bind (only_inserted _ _) fun _ => ?_
  exact only_bind (only_query _ groups_select _) fun _ => only_required _ _

theorem updateUserGroup_only (request : UserGroupUpdateRequest) :
    Only Stmt.AboutGroups (updateUserGroup id request) := by
  unfold updateUserGroup
  refine only_bind (only_query _ groups_select _) fun _ => only_bind (only_required _ _) fun _ => ?_
  refine only_bind (only_checked _) fun _ => only_bind (only_checked _) fun _ => ?_
  refine only_bind (only_query _ groups_select _) fun _ => ?_
  refine only_bind (only_perform trivial) fun _ => only_bind (only_inserted _ _) fun _ => ?_
  exact only_bind (only_query _ groups_select _) fun _ => only_required _ _

theorem checkMembers_only (userIds : List String) :
    Only Stmt.AboutGroups (checkMembers userIds) := by
  induction userIds with
  | nil => exact only_pure _
  | cons userId rest ih =>
      unfold checkMembers
      refine only_bind (only_userById _ groups_select _) fun _ => ?_
      exact only_bind (only_rejectIf _ _) fun _ => ih

theorem replaceUserGroupMembers_only (userIds : List String) :
    Only Stmt.AboutGroups (replaceUserGroupMembers groupId userIds) := by
  unfold replaceUserGroupMembers
  refine only_bind (only_query _ groups_select _) fun _ => only_bind (only_rejectIf _ _) fun _ => ?_
  refine only_bind (checkMembers_only _) fun _ => only_bind (only_perform trivial) fun _ => ?_
  refine only_bind (only_inserted _ _) fun _ => ?_
  exact only_bind (only_query _ groups_select _) fun _ => only_required _ _

theorem deleteUserGroup_only : Only Stmt.AboutGroups (deleteUserGroup groupId) := by
  unfold deleteUserGroup
  refine only_bind (only_query _ groups_select _) fun _ => only_bind (only_rejectIf _ _) fun _ => ?_
  exact only_bind (only_perform trivial) fun _ => only_rejectIf _ _

end AboutGroups

/-! ### Every operation -/

theorem effect_of_ends {α : Type} {request : Request} {h : Operation α}
    (hends : Ends Stmt.exec h accounts (fun _ s => Effect crypto policies accounts request s)
      fun _ s => Effect crypto policies accounts request s) :
    Effect crypto policies accounts request (serve Stmt.exec (answered h) accounts).2 :=
  (ends_answered hends).state

theorem effect_of_only {α : Type} {request : Request} {h : Operation α}
    (honly : Only Stmt.AboutGroups h) :
    Effect crypto policies accounts request (serve Stmt.exec (answered h) accounts).2 := by
  obtain ⟨groups, members, hsame⟩ :=
    (only_answered honly).respects SameUsers.refl (fun _ _ _ => SameUsers.trans) exec_aboutGroups
      accounts
  rw [hsame]
  exact .groups request groups members

theorem handler_effect (crypto : Crypto) (policies : Policies) (request : Request)
    (accounts : Accounts) :
    Effect crypto policies accounts request
      (serve Stmt.exec (request.handler crypto policies) accounts).2 := by
  cases request with
  | setupInitialAdmin username password id salt =>
      rw [Request.handler]
      exact effect_of_ends (ends_setupInitialAdmin (.nothing _) (.addUser _))
  | createUser request id salt =>
      rw [Request.handler]
      exact effect_of_ends (ends_createUserWithPolicy (.nothing _) (.addUser _))
  | updateUser id request salt =>
      rw [Request.handler]
      exact effect_of_ends (ends_updateUserWithPolicy (.nothing _) (.updateUser id request salt))
  | loginUser username password sessionId sessionToken =>
      rw [Request.handler]
      exact effect_of_ends
        (ends_loginUser (.nothing _) (.login username password sessionId sessionToken))
  | authenticateSession sessionToken =>
      rw [Request.handler]
      exact effect_of_ends (ends_authenticateSession (fun _ => .nothing _)
        (fun _ _ _ _ => .idle sessionToken) fun _ _ _ _ => .seen sessionToken)
  | resetUserPassword username password policy salt =>
      rw [Request.handler]
      refine effect_of_ends (ends_resetUserPassword (.nothing _) fun id passwordHash => ?_)
      exact .setPassword _ id passwordHash _ fun _ _ _ h => by cases h
  | changeUserPassword userId currentPassword newPassword salt =>
      rw [Request.handler]
      refine effect_of_ends (ends_changeUserPassword (.nothing _) fun passwordHash => ?_)
      exact .setPassword _ userId passwordHash _ fun _ _ _ h => by cases h
  | revokeSession sessionToken =>
      rw [Request.handler]
      refine effect_of_ends (ends_revokeSession ?_)
      exact .revoke sessionToken
  | createUserGroup request id =>
      rw [Request.handler]
      exact effect_of_only (createUserGroup_only request)
  | updateUserGroup id request =>
      rw [Request.handler]
      exact effect_of_only (updateUserGroup_only request)
  | replaceUserGroupMembers groupId userIds =>
      rw [Request.handler]
      exact effect_of_only (replaceUserGroupMembers_only userIds)
  | deleteUserGroup groupId =>
      rw [Request.handler]
      exact effect_of_only deleteUserGroup_only

/-! ### What becomes of a session -/

/-- The same session later: still its user's, with its token and its expiry, and revoked if it was. -/
structure UserSession.Continues (session session' : UserSession) : Prop where
  tokenHash : session'.tokenHash = session.tokenHash
  userId : session'.userId = session.userId
  expiresAt : session'.expiresAt = session.expiresAt
  revoked : session.revokedAt.isSome = true → session'.revokedAt.isSome = true

theorem UserSession.Continues.refl (session : UserSession) : session.Continues session :=
  ⟨rfl, rfl, rfl, fun hrevoked => hrevoked⟩

theorem UserSession.Continues.trans {first second third : UserSession} (h : first.Continues second)
    (h' : second.Continues third) : first.Continues third :=
  ⟨h'.tokenHash.trans h.tokenHash, h'.userId.trans h.userId, h'.expiresAt.trans h.expiresAt,
    fun hrevoked => h'.revoked (h.revoked hrevoked)⟩

theorem revoke_continues (session : UserSession) (now : Int) :
    session.Continues (session.revoke now) :=
  ⟨rfl, rfl, rfl, fun _ => rfl⟩

theorem seen_continues (session : UserSession) (now : Int) : session.Continues (session.seen now) :=
  ⟨rfl, rfl, rfl, fun hrevoked => hrevoked⟩

/-- The sessions of `accounts'` are those of `accounts`, later. -/
structure SameSessions (accounts accounts' : Accounts) : Prop where
  continued : ∀ session ∈ accounts.sessions.rows, ∃ session' ∈ accounts'.sessions.rows,
    session.Continues session'
  hashes : accounts'.sessions.rows.map (·.tokenHash) = accounts.sessions.rows.map (·.tokenHash)
  comesFrom : ∀ session' ∈ accounts'.sessions.rows, ∃ session ∈ accounts.sessions.rows,
    session.Continues session'

theorem SameSessions.of_eq {accounts accounts' : Accounts}
    (hsame : accounts'.sessions = accounts.sessions) : SameSessions accounts accounts' := by
  constructor
  · intro session hsession
    exact ⟨session, hsame ▸ hsession, .refl session⟩
  · rw [hsame]
  · intro session hsession
    exact ⟨session, hsame ▸ hsession, .refl session⟩

theorem SameSessions.trans {first second third : Accounts} (h : SameSessions first second)
    (h' : SameSessions second third) : SameSessions first third := by
  constructor
  · intro session hsession
    obtain ⟨between, hbetween, hcontinues⟩ := h.continued session hsession
    obtain ⟨session', hsession', hcontinues'⟩ := h'.continued between hbetween
    exact ⟨session', hsession', hcontinues.trans hcontinues'⟩
  · exact h'.hashes.trans h.hashes
  · intro session' hsession'
    obtain ⟨between, hbetween, hcontinues'⟩ := h'.comesFrom session' hsession'
    obtain ⟨session, hsession, hcontinues⟩ := h.comesFrom between hbetween
    exact ⟨session, hsession, hcontinues.trans hcontinues'⟩

/-- The `UPDATE`s of sessions. -/
theorem sameSessions_updateWhere {p : UserSession → Bool} {f : UserSession → UserSession}
    {hf : ∀ session, (f session).id = session.id}
    (hcontinues : ∀ session : UserSession, session.Continues (f session)) (accounts : Accounts) :
    SameSessions accounts { accounts with sessions := accounts.sessions.updateWhere p f hf } := by
  have hwritten : ∀ session : UserSession,
      session.Continues (if p session then f session else session) := by
    intro session
    split
    · exact hcontinues session
    · exact .refl session
  constructor
  · intro session hsession
    refine ⟨if p session then f session else session, ?_, hwritten session⟩
    exact List.mem_map.mpr ⟨session, hsession, rfl⟩
  · unfold Table.updateWhere
    rw [List.map_map]
    exact List.map_congr_left fun session _ => (hwritten session).tokenHash
  · intro session' hsession'
    obtain ⟨session, hsession, rfl⟩ := List.mem_map.mp hsession'
    exact ⟨session, hsession, hwritten session⟩

/-- A statement keeps the sessions, or opens one whose token hash is new and whose user exists. -/
theorem exec_sessions (stmt : Stmt) (accounts : Accounts) :
    SameSessions accounts (stmt.exec accounts).2
      ∨ ∃ session, stmt = .insertSession session
        ∧ (accounts.users.find? session.userId).isSome = true
        ∧ (∀ other ∈ accounts.sessions.rows, other.tokenHash ≠ session.tokenHash)
        ∧ (stmt.exec accounts).2.users = accounts.users
        ∧ (stmt.exec accounts).2.sessions.rows = accounts.sessions.rows ++ [session] := by
  cases stmt with
  | insertFirstUser user =>
      refine Or.inl (.of_eq ?_)
      rw [exec_insertFirstUser]
      split
      · unfold Accounts.insertUser
        split
        · rfl
        · split <;> rfl
      · rfl
  | insertUser user =>
      refine Or.inl (.of_eq ?_)
      change (accounts.insertUser user).2.sessions = accounts.sessions
      unfold Accounts.insertUser
      split
      · rfl
      · split <;> rfl
  | insertSession session =>
      change SameSessions accounts (accounts.insertSession session).2 ∨ ∃ session', _ ∧ _ ∧ _
        ∧ (accounts.insertSession session).2.users = accounts.users
        ∧ (accounts.insertSession session).2.sessions.rows = accounts.sessions.rows ++ [session']
      unfold Accounts.insertSession
      split
      · exact Or.inl (.of_eq rfl)
      · rename_i hallowed
        split
        · exact Or.inl (.of_eq rfl)
        · rename_i sessions hinsert
          simp only [Bool.or_eq_true, List.any_eq_true, decide_eq_true_eq, not_or, not_exists,
            not_and] at hallowed
          obtain ⟨huser, hnew⟩ := hallowed
          refine Or.inr ⟨session, rfl, ?_, hnew, rfl, Table.insert?_rows hinsert⟩
          simpa [Option.isSome_iff_ne_none] using huser
  | revokeUserSessions userId now =>
      exact Or.inl (sameSessions_updateWhere (revoke_continues · now) accounts)
  | revokeSession tokenHash now =>
      exact Or.inl (sameSessions_updateWhere (revoke_continues · now) accounts)
  | touchSession tokenHash now =>
      exact Or.inl (sameSessions_updateWhere (seen_continues · now) accounts)
  | insertGroup group =>
      exact Or.inl (.of_eq (exec_aboutGroups (.insertGroup group) accounts trivial).sessions)
  | updateGroup id name role enabled now =>
      have hsame := exec_aboutGroups (.updateGroup id name role enabled now) accounts trivial
      exact Or.inl (.of_eq hsame.sessions)
  | replaceMembers groupId userIds =>
      have hsame := exec_aboutGroups (.replaceMembers groupId userIds) accounts trivial
      exact Or.inl (.of_eq hsame.sessions)
  | _ => exact Or.inl (.of_eq rfl)

theorem endSessions_users (accounts : Accounts) (userId : String) :
    (accounts.endSessions userId).users = accounts.users := rfl

theorem endSessions_same (accounts : Accounts) (userId : String) :
    SameSessions accounts (accounts.endSessions userId) :=
  sameSessions_updateWhere (revoke_continues · accounts.clock) accounts

theorem writeUser_endSessions_same (accounts : Accounts) (id : String) (write : User → User)
    (hid : ∀ user, (write user).id = user.id) :
    SameSessions accounts ((accounts.writeUser id write hid).endSessions id) := by
  have hwrite : SameSessions accounts (accounts.writeUser id write hid) := .of_eq rfl
  exact hwrite.trans (endSessions_same (accounts.writeUser id write hid) id)

/-- The user has no open session any more. -/
theorem revoked_of_endSessions {userId : String} {session : UserSession}
    (hsession : session ∈ (accounts.endSessions userId).sessions.rows)
    (huser : session.userId = userId) : session.revokedAt.isSome = true := by
  obtain ⟨before, -, hwritten⟩ := List.mem_map.mp hsession
  by_cases hended : (before.userId = userId && before.revokedAt.isNone) = true
  · rw [← hwritten, if_pos hended]
    rfl
  · rw [if_neg hended] at hwritten
    subst hwritten
    simp only [huser, decide_true, Bool.true_and, Bool.not_eq_true, Option.isNone_eq_false_iff]
      at hended
    exact hended

theorem find?_insertUser {user row : User} {id : String} (hrow : accounts.users.find? id = some row) :
    (accounts.insertUser user).2.users.find? id = some row := by
  unfold Accounts.insertUser
  split
  · exact hrow
  · split
    · exact hrow
    · rename_i users hinsert
      have hne : id ≠ user.id := by
        rintro rfl
        rw [Table.insert?_fresh hinsert] at hrow
        cases hrow
      exact (Table.find?_insert? hinsert id).trans ((if_neg hne).trans hrow)

theorem insertUser_sessions (user : User) (accounts : Accounts) :
    (accounts.insertUser user).2.sessions = accounts.sessions := by
  unfold Accounts.insertUser
  split
  · rfl
  · split <;> rfl

/-- No two sessions share a token hash, every session has a user, its token was issued, and it is
revoked if the user is disabled. -/
structure SessionsSound (crypto : Crypto) (accounts : Accounts) : Prop where
  unique : (accounts.sessions.rows.map (·.tokenHash)).Nodup
  owned : ∀ session ∈ accounts.sessions.rows, ∃ user,
    accounts.users.find? session.userId = some user
      ∧ (user.enabled = false → session.revokedAt.isSome = true)
  issued : ∀ session ∈ accounts.sessions.rows, ∃ token, crypto.hashToken token = session.tokenHash

/-- An operation that opens no session only has to look after the users that it disables. -/
theorem SessionsSound.of_same {accounts' : Accounts} (hsound : SessionsSound crypto accounts)
    (hsame : SameSessions accounts accounts')
    (husers : ∀ session' ∈ accounts'.sessions.rows, ∀ user,
      accounts.users.find? session'.userId = some user → ∃ user',
        accounts'.users.find? session'.userId = some user'
          ∧ (user'.enabled = false → user.enabled = false ∨ session'.revokedAt.isSome = true)) :
    SessionsSound crypto accounts' := by
  constructor
  · rw [hsame.hashes]
    exact hsound.unique
  · intro session' hsession'
    obtain ⟨session, hsession, hcontinues⟩ := hsame.comesFrom session' hsession'
    obtain ⟨user, huser, hdisabled⟩ := hsound.owned session hsession
    rw [← hcontinues.userId] at huser
    obtain ⟨user', huser', henabled'⟩ := husers session' hsession' user huser
    refine ⟨user', huser', fun hoff => ?_⟩
    obtain hoff | hrevoked := henabled' hoff
    · exact hcontinues.revoked (hdisabled hoff)
    · exact hrevoked
  · intro session' hsession'
    obtain ⟨session, hsession, hcontinues⟩ := hsame.comesFrom session' hsession'
    obtain ⟨token, htoken⟩ := hsound.issued session hsession
    exact ⟨token, htoken.trans hcontinues.tokenHash.symm⟩

/-- Where the users are the same too, there is nothing to look after. -/
theorem SessionsSound.of_same_users {accounts' : Accounts} (hsound : SessionsSound crypto accounts)
    (hsame : SameSessions accounts accounts') (husers : accounts'.users = accounts.users) :
    SessionsSound crypto accounts' := by
  refine hsound.of_same hsame fun session' _ user huser => ⟨user, ?_, Or.inl⟩
  rw [husers]
  exact huser

/-- A session that an enabled user has opened. -/
theorem SessionsSound.of_login {accounts' : Accounts} {session : UserSession} {user : User}
    (hsound : SessionsSound crypto accounts)
    (hrows : accounts'.sessions.rows = accounts.sessions.rows ++ [session])
    (husers : accounts'.users = accounts.users)
    (hnew : ∀ other ∈ accounts.sessions.rows, other.tokenHash ≠ session.tokenHash)
    (huser : accounts.users.find? session.userId = some user) (henabled : user.enabled = true)
    (htoken : ∃ token, crypto.hashToken token = session.tokenHash) :
    SessionsSound crypto accounts' := by
  constructor
  · rw [hrows, List.map_append]
    refine List.Nodup.append hsound.unique (List.nodup_singleton _) ?_
    intro tokenHash hold hlast
    obtain ⟨other, hother, rfl⟩ := List.mem_map.mp hold
    exact hnew other hother (List.mem_singleton.mp hlast)
  · intro other hother
    rw [husers]
    rw [hrows] at hother
    obtain hold | hlast := List.mem_append.mp hother
    · exact hsound.owned other hold
    · obtain rfl := List.mem_singleton.mp hlast
      exact ⟨user, huser, fun hoff => absurd (henabled.symm.trans hoff) Bool.noConfusion⟩
  · intro other hother
    rw [hrows] at hother
    obtain hold | hlast := List.mem_append.mp hother
    · exact hsound.issued other hold
    · obtain rfl := List.mem_singleton.mp hlast
      exact htoken

theorem insertSession_users (session : UserSession) (accounts : Accounts) :
    (accounts.insertSession session).2.users = accounts.users := by
  unfold Accounts.insertSession
  split
  · rfl
  · split <;> rfl

theorem find?_writeUser {id : String} {write : User → User}
    {hid : ∀ user, (write user).id = user.id} (userId : String) :
    (accounts.writeUser id write hid).users.find? userId
      = if userId = id then (accounts.users.find? userId).map write
        else accounts.users.find? userId :=
  Table.find?_update accounts.users id write hid userId

theorem effect_sound {request : Request} {accounts' : Accounts}
    (heffect : Effect crypto policies accounts request accounts')
    (hsound : SessionsSound crypto accounts) : SessionsSound crypto accounts' := by
  cases heffect with
  | nothing => exact hsound
  | addUser _ user henabled =>
      refine hsound.of_same (.of_eq (insertUser_sessions user accounts)) ?_
      intro session _ user huser
      exact ⟨user, find?_insertUser huser, Or.inl⟩
  | updateUser id request salt row write hid hrow hrole henabled hguard =>
      cases hnext : request.enabled.getD row.enabled with
      | true =>
          rw [if_pos rfl]
          refine hsound.of_same (.of_eq rfl) fun session _ user huser => ?_
          rw [find?_writeUser, huser]
          split
          · refine ⟨write user, rfl, fun hoff => ?_⟩
            rw [henabled user, hnext] at hoff
            cases hoff
          · exact ⟨user, rfl, Or.inl⟩
      | false =>
          rw [if_neg Bool.false_ne_true]
          refine hsound.of_same (writeUser_endSessions_same accounts id write hid) ?_
          intro session hsession user huser
          rw [endSessions_users, find?_writeUser, huser]
          split
          · rename_i hmine
            exact ⟨write user, rfl, fun _ => Or.inr (revoked_of_endSessions hsession hmine)⟩
          · exact ⟨user, rfl, Or.inl⟩
  | login username password sessionId token row hrow henabled =>
      obtain hsame | ⟨session, hstmt, -, hnew, husers, hrows⟩ := exec_sessions (.insertSession
        { id := sessionId
          userId := row.id
          tokenHash := crypto.hashToken token
          createdAt := accounts.clock
          lastSeenAt := accounts.clock
          expiresAt := accounts.clock + policies.session.ttlSecs }) accounts
      · refine hsound.of_same_users hsame ?_
        exact insertSession_users _ accounts
      · cases hstmt
        exact hsound.of_login hrows husers hnew (Table.find?_of_mem hrow) henabled ⟨token, rfl⟩
  | idle token => exact hsound.of_same_users (sameSessions_updateWhere (revoke_continues · _) _) rfl
  | seen token => exact hsound.of_same_users (sameSessions_updateWhere (seen_continues · _) _) rfl
  | setPassword _ id passwordHash mustChangePassword hother =>
      refine hsound.of_same (writeUser_endSessions_same accounts id _ _) ?_
      intro session hsession user huser
      rw [endSessions_users, find?_writeUser, huser]
      split
      · exact ⟨user.setPassword passwordHash mustChangePassword accounts.clock, rfl, Or.inl⟩
      · exact ⟨user, rfl, Or.inl⟩
  | revoke token => exact hsound.of_same_users (sameSessions_updateWhere (revoke_continues · _) _) rfl
  | groups _ groups members => exact hsound.of_same_users (.of_eq rfl) rfl

theorem exec_continued (stmt : Stmt) (accounts : Accounts) :
    ∀ session ∈ accounts.sessions.rows, ∃ session' ∈ (stmt.exec accounts).2.sessions.rows,
      session.Continues session' := by
  obtain hsame | ⟨opened, -, -, -, -, hrows⟩ := exec_sessions stmt accounts
  · exact hsame.continued
  · intro session hsession
    rw [hrows]
    exact ⟨session, List.mem_append_left _ hsession, .refl session⟩

theorem effect_clock {request : Request} {accounts' : Accounts}
    (heffect : Effect crypto policies accounts request accounts') :
    accounts'.clock = accounts.clock := by
  cases heffect with
  | addUser _ user henabled =>
      unfold Accounts.insertUser
      split
      · rfl
      · split <;> rfl
  | updateUser id request salt row write hid hrow hrole henabled hguard => split <;> rfl
  | login username password sessionId token row hrow henabled =>
      unfold Accounts.insertSession
      split
      · rfl
      · split <;> rfl
  | _ => rfl

/-- The session as it is after an event. -/
theorem perform_continued (crypto : Crypto) (policies : Policies) (accounts : Accounts)
    (event : Event) :
    ∀ session ∈ accounts.sessions.rows,
      ∃ session' ∈ (event.perform crypto policies accounts).sessions.rows,
        session.Continues session' := by
  cases event with
  | tick now => exact fun session hsession => ⟨session, hsession, .refl session⟩
  | serve request =>
      refine (only_true (request.handler crypto policies)).respects
        (R := fun s s' : Accounts => ∀ session ∈ s.sessions.rows,
          ∃ session' ∈ s'.sessions.rows, session.Continues session') ?_ ?_ ?_ accounts
      · exact fun s session hsession => ⟨session, hsession, .refl session⟩
      · intro s t u hst htu session hsession
        obtain ⟨between, hbetween, hcontinues⟩ := hst session hsession
        obtain ⟨session', hsession', hcontinues'⟩ := htu between hbetween
        exact ⟨session', hsession', hcontinues.trans hcontinues'⟩
      · exact fun stmt s _ => exec_continued stmt s

theorem perform_sound {event : Event} (hsound : SessionsSound crypto accounts) :
    SessionsSound crypto (event.perform crypto policies accounts) := by
  cases event with
  | tick now => exact hsound.of_same_users (.of_eq rfl) rfl
  | serve request => exact effect_sound (handler_effect crypto policies request accounts) hsound

/-- No session was ever opened. -/
theorem sound_start (clock : Int) : SessionsSound crypto { clock } := by
  constructor
  · exact List.nodup_nil
  all_goals
    intro session hsession
    cases hsession

theorem run_sound (crypto : Crypto) (policies : Policies) (clock : Int) (events : List Event) :
    SessionsSound crypto (run (Event.perform crypto policies) { clock } events) :=
  run_invariant (fun _ _ hsound _ => perform_sound hsound) (sound_start clock)
    (along_of_forall (fun _ _ => trivial) _ _ : Along _ (fun _ _ => True) _ _)

/-! ### Sessions that are over -/

/-- The session is revoked or has expired. -/
def UserSession.Over (session : UserSession) (now : Int) : Prop :=
  session.revokedAt.isSome = true ∨ session.expiresAt ≤ now

theorem UserSession.Over.later {session session' : UserSession} {now now' : Int}
    (hover : session.Over now) (hcontinues : session.Continues session') (hlater : now ≤ now') :
    session'.Over now' := by
  obtain hrevoked | hexpired := hover
  · exact Or.inl (hcontinues.revoked hrevoked)
  · right
    rw [hcontinues.expiresAt]
    exact hexpired.trans hlater

/-- Two sessions of one token are one. -/
theorem SessionsSound.session_eq (hsound : SessionsSound crypto accounts)
    {session other : UserSession} (hsession : session ∈ accounts.sessions.rows)
    (hother : other ∈ accounts.sessions.rows) (htoken : other.tokenHash = session.tokenHash) :
    other = session :=
  List.inj_on_of_nodup_map hsound.unique hother hsession htoken

theorem validSession_some {tokenHash : String} {now : Int} {session : UserSession} {user : User}
    (hvalid : accounts.validSession tokenHash now = some (session, user)) :
    session ∈ accounts.sessions.rows ∧ session.tokenHash = tokenHash
      ∧ session.revokedAt.isNone = true ∧ now < session.expiresAt
      ∧ accounts.users.find? session.userId = some user ∧ user.enabled = true := by
  have hmem := List.mem_of_head? hvalid
  obtain ⟨candidate, hcandidate, hfound⟩ := List.mem_filterMap.mp hmem
  by_cases hopen : (candidate.tokenHash = tokenHash && candidate.revokedAt.isNone
      && candidate.expiresAt > now) = true
  · rw [if_pos hopen] at hfound
    obtain ⟨row, hrow, hpair⟩ := Option.map_eq_some_iff.mp hfound
    cases hpair
    simp only [Bool.and_eq_true, decide_eq_true_eq] at hopen
    obtain ⟨⟨htoken, hrevoked⟩, hexpires⟩ := hopen
    obtain ⟨huser, henabled⟩ := Option.filter_eq_some_iff.mp hrow
    exact ⟨hcandidate, htoken, hrevoked, hexpires, huser, henabled⟩
  · rw [if_neg hopen] at hfound
    cases hfound

/-- The session of a token is found as long as it is open, and its user enabled. -/
theorem SessionsSound.validSession_eq (hsound : SessionsSound crypto accounts)
    {session : UserSession} {user : User} {now : Int} (hsession : session ∈ accounts.sessions.rows)
    (hover : ¬ session.Over now) (huser : accounts.users.find? session.userId = some user)
    (henabled : user.enabled = true) :
    accounts.validSession session.tokenHash now = some (session, user) := by
  unfold UserSession.Over at hover
  rw [not_or, Option.not_isSome_iff_eq_none, not_le] at hover
  have hmem : (session, user) ∈ accounts.sessions.rows.filterMap fun candidate =>
      if candidate.tokenHash = session.tokenHash && candidate.revokedAt.isNone
          && candidate.expiresAt > now then
        ((accounts.users.find? candidate.userId).filter (·.enabled)).map fun user => (candidate, user)
      else none := by
    refine List.mem_filterMap.mpr ⟨session, hsession, ?_⟩
    have hopen : (session.tokenHash = session.tokenHash && session.revokedAt.isNone
        && session.expiresAt > now) = true := by
      simp [hover.1, hover.2]
    rw [if_pos hopen, huser]
    exact Option.map_eq_some_iff.mpr ⟨user, Option.filter_eq_some_iff.mpr ⟨rfl, henabled⟩, rfl⟩
  cases hvalid : accounts.validSession session.tokenHash now with
  | none =>
      rw [List.head?_eq_none_iff.mp hvalid] at hmem
      cases hmem
  | some found =>
      obtain ⟨other, otherUser⟩ := found
      obtain ⟨hother, htoken, -, -, hotherUser, -⟩ := validSession_some hvalid
      obtain rfl := hsound.session_eq hsession hother htoken
      rw [huser] at hotherUser
      rw [Option.some.inj hotherUser]

theorem SessionsSound.validSession_none (hsound : SessionsSound crypto accounts)
    {session : UserSession} {now : Int} (hsession : session ∈ accounts.sessions.rows)
    (hover : session.Over now) : accounts.validSession session.tokenHash now = none := by
  rw [Option.eq_none_iff_forall_ne_some]
  rintro ⟨other, user⟩ hvalid
  obtain ⟨hother, htoken, hrevoked, hexpires, -, -⟩ := validSession_some hvalid
  obtain rfl := hsound.session_eq hsession hother htoken
  obtain hover | hover := hover
  · rw [← Option.not_isSome, hover] at hrevoked
    cases hrevoked
  · omega

/-- `authenticate_session` rejects a token exactly when it has no valid session, or an idle one. -/
theorem authenticated_none_iff (token : String) (accounts : Accounts) :
    authenticated crypto policies token accounts = .ok none
      ↔ ∀ session user,
        accounts.validSession (crypto.hashToken token) accounts.clock = some (session, user) →
        idleTooLong session policies.session accounts.clock = true := by
  have hends : Ends Stmt.exec (authenticateSession crypto token policies.session) accounts
      (fun answer _ => answer = none ↔ ∀ session user,
        accounts.validSession (crypto.hashToken token) accounts.clock = some (session, user) →
        idleTooLong session policies.session accounts.clock = true) fun _ _ => False := by
    refine ends_authenticateSession (fun hnone => ?_) (fun session user hvalid hidle => ?_)
      fun session user hvalid hseen => ?_
    · rw [hnone]
      exact ⟨fun _ _ _ h => (by cases h), fun _ => rfl⟩
    · refine ⟨fun _ session' user' hvalid' => ?_, fun _ => rfl⟩
      rw [hvalid] at hvalid'
      cases hvalid'
      exact hidle
    · refine ⟨fun h => (by cases h), fun hall => ?_⟩
      have hidle := hall session user hvalid
      rw [hseen] at hidle
      cases hidle
  obtain ⟨answer, hanswer, hiff⟩ := hends.result
  unfold authenticated
  rw [hanswer, ← hiff]
  constructor
  · intro h
    exact Except.ok.inj h
  · intro h
    rw [h]

theorem SessionsSound.rejects (hsound : SessionsSound crypto accounts) {session : UserSession}
    {token : String} (hsession : session ∈ accounts.sessions.rows)
    (htoken : session.tokenHash = crypto.hashToken token) (hover : session.Over accounts.clock) :
    authenticated crypto policies token accounts = .ok none := by
  refine (authenticated_none_iff token accounts).mpr fun other user hvalid => ?_
  rw [← htoken, hsound.validSession_none hsession hover] at hvalid
  cases hvalid

/-- A session whose token has just been rejected is over. -/
theorem SessionsSound.over_of_rejected (hsound : SessionsSound crypto accounts)
    {session : UserSession} {token : String} (hsession : session ∈ accounts.sessions.rows)
    (htoken : session.tokenHash = crypto.hashToken token)
    (hrejected : authenticated crypto policies token accounts = .ok none) :
    ∃ session' ∈ ((Event.serve (.authenticateSession token)).perform crypto policies
        accounts).sessions.rows,
      session.Continues session' ∧ session'.Over accounts.clock := by
  by_cases hover : session.Over accounts.clock
  · obtain ⟨session', hsession', hcontinues⟩ :=
      perform_continued crypto policies accounts (.serve (.authenticateSession token)) session hsession
    exact ⟨session', hsession', hcontinues, hover.later hcontinues le_rfl⟩
  · -- It is open, so that its user is enabled, and the idle rule alone is left to reject it.
    obtain ⟨user, huser, hdisabled⟩ := hsound.owned session hsession
    have henabled : user.enabled = true := by
      by_contra hoff
      exact hover (Or.inl (hdisabled (Bool.not_eq_true _ ▸ hoff)))
    have hvalid := hsound.validSession_eq hsession hover huser henabled
    rw [htoken] at hvalid
    have hidle := (authenticated_none_iff token accounts).mp hrejected session user hvalid
    have hends : Ends Stmt.exec (answered (authenticateSession crypto token policies.session))
        accounts (fun _ s => s = (Stmt.exec (.revokeSession (crypto.hashToken token) accounts.clock)
          accounts).2) fun _ s => s = (Stmt.exec
            (.revokeSession (crypto.hashToken token) accounts.clock) accounts).2 := by
      refine ends_answered (ends_authenticateSession (fun hnone => ?_) (fun _ _ _ _ => rfl)
        fun other otherUser hother hseen => ?_)
      · rw [hvalid] at hnone
        cases hnone
      · rw [hvalid] at hother
        cases hother
        rw [hidle] at hseen
        cases hseen
    have hstate := hends.state
    refine ⟨session.revoke accounts.clock, ?_, revoke_continues session _, Or.inl rfl⟩
    change session.revoke accounts.clock ∈ (serve Stmt.exec
      (answered (authenticateSession crypto token policies.session)) accounts).2.sessions.rows
    rw [hstate]
    exact List.mem_map.mpr ⟨session, hsession, if_pos (decide_eq_true htoken)⟩

/-- The wall clock does not go back. -/
def Event.Forward (accounts : Accounts) : Event → Prop
  | serve _ => True
  | tick now => accounts.clock ≤ now

theorem perform_clock_le (crypto : Crypto) (policies : Policies) {event : Event}
    (hforward : event.Forward accounts) :
    accounts.clock ≤ (event.perform crypto policies accounts).clock := by
  cases event with
  | serve request => exact (effect_clock (handler_effect crypto policies request accounts)).ge
  | tick now => exact hforward

/-- What is over remains over, as long as the clock does not go back. -/
theorem over_along {session : UserSession} {later : List Event}
    (hforward : Along (Event.perform crypto policies) (fun s e => e.Forward s) accounts later)
    (hsession : session ∈ accounts.sessions.rows) (hover : session.Over accounts.clock) :
    ∃ session' ∈ (run (Event.perform crypto policies) accounts later).sessions.rows,
      session.Continues session'
        ∧ session'.Over (run (Event.perform crypto policies) accounts later).clock := by
  induction later generalizing accounts session with
  | nil => exact ⟨session, hsession, .refl session, hover⟩
  | cons event later ih =>
      obtain ⟨next, hnext, hcontinues⟩ := perform_continued crypto policies accounts event session hsession
      have hnextOver := hover.later hcontinues (perform_clock_le crypto policies hforward.1)
      obtain ⟨session', hsession', hcontinues', hover'⟩ := ih hforward.2 hnext hnextOver
      exact ⟨session', hsession', hcontinues.trans hcontinues', hover'⟩

/-- Once `authenticate_session` has rejected a token that was issued, it rejects it in every later
state. -/
theorem rejected_stays_rejected (clock : Int) (events later : List Event) (token : String)
    (hforward : Along (Event.perform crypto policies) (fun s e => e.Forward s)
      (run (Event.perform crypto policies) { clock }
        (events ++ [.serve (.authenticateSession token)])) later)
    (hissued : ∃ session ∈ (run (Event.perform crypto policies) { clock } events).sessions.rows,
      session.tokenHash = crypto.hashToken token)
    (hrejected : authenticated crypto policies token
      (run (Event.perform crypto policies) { clock } events) = .ok none) :
    authenticated crypto policies token (run (Event.perform crypto policies) { clock }
      (events ++ .serve (.authenticateSession token) :: later)) = .ok none := by
  obtain ⟨session, hsession, htoken⟩ := hissued
  have hsound := run_sound crypto policies clock events
  obtain ⟨next, hnext, hcontinues, hover⟩ :=
    hsound.over_of_rejected hsession htoken hrejected
  rw [run_append, run_cons, run_nil] at hforward
  have hclock := effect_clock (handler_effect crypto policies
    (.authenticateSession token) (run (Event.perform crypto policies) { clock } events))
  have hnextOver := hover.later (.refl next) hclock.ge
  obtain ⟨last, hlast, hcontinues', hlastOver⟩ := over_along hforward hnext hnextOver
  have hlastSound := run_sound crypto policies clock
    (events ++ .serve (.authenticateSession token) :: later)
  rw [run_append, run_cons] at hlastSound ⊢
  have hlastToken : last.tokenHash = crypto.hashToken token :=
    (hcontinues'.tokenHash.trans hcontinues.tokenHash).trans htoken
  exact hlastSound.rejects hlast hlastToken hlastOver

/-- Cryptography in the clear: the hash of a password shows it after its salt. -/
def plainCrypto : Crypto where
  hashToken token := "#" ++ token
  hashPassword password salt := some (salt ++ "$" ++ password)
  verifyPassword password expectedHash := Text.afterLast "$" expectedHash = some password

/-- The first administrator signs in. -/
def signedIn : List Event :=
  [.serve (.setupInitialAdmin "admin" "administrator" "u" "a"),
    .serve (.loginUser "admin" "administrator" "s" "t")]

def firstAdmin : User :=
  { id := "u"
    username := "admin"
    passwordHash := "a$administrator"
    role := "admin"
    passwordChangedAt := 0
    createdAt := 0
    updatedAt := 0 }

def firstSession : UserSession :=
  { id := "s"
    userId := "u"
    tokenHash := "#t"
    createdAt := 0
    lastSeenAt := 0
    expiresAt := 43200 }

theorem signedIn_sessions :
    (run (Event.perform plainCrypto {}) { clock := 0 } signedIn).sessions.rows = [firstSession] :=
  rfl

/-- The session expires. -/
def expired : List Event := signedIn ++ [.tick 50000]

theorem expired_clock : (run (Event.perform plainCrypto {}) { clock := 0 } expired).clock = 50000 := by
  unfold expired
  rw [run_append]
  rfl

theorem expired_sessions :
    (run (Event.perform plainCrypto {}) { clock := 0 } expired).sessions.rows = [firstSession] := by
  unfold expired
  rw [run_append]
  exact signedIn_sessions

/-- A new password does not bring the expired session of the administrator back. -/
theorem rejected_stays_rejected_at_expiry :
    authenticated plainCrypto {} "t" (run (Event.perform plainCrypto {}) { clock := 0 }
      (expired ++ .serve (.authenticateSession "t")
        :: [.serve (.updateUser "u" { password := some "another-password" } "b")])) = .ok none := by
  have hsession : firstSession ∈
      (run (Event.perform plainCrypto {}) { clock := 0 } expired).sessions.rows := by
    rw [expired_sessions]
    exact List.mem_singleton.mpr rfl
  have hover : firstSession.Over
      (run (Event.perform plainCrypto {}) { clock := 0 } expired).clock := by
    rw [expired_clock]
    right
    decide
  exact @rejected_stays_rejected plainCrypto {} 0 expired
    [.serve (.updateUser "u" { password := some "another-password" } "b")] "t" ⟨trivial, trivial⟩
    ⟨firstSession, hsession, rfl⟩ ((run_sound plainCrypto {} 0 expired).rejects hsession rfl hover)

/-! ### Sessions from before a change of the password -/

/-- An administrator's update that leaves the user enabled touches no session. -/
def KeepsSessions (request : Request) (id : String) (row : User) : Prop :=
  ∃ update salt, request = .updateUser id update salt ∧ update.enabled.getD row.enabled = true

/-- After a change of the password the sessions of the user are all revoked, unless an update kept
them. -/
theorem effect_password {request : Request} {accounts' : Accounts} {id : String} {row row' : User}
    (heffect : Effect crypto policies accounts request accounts')
    (hbefore : accounts.users.find? id = some row) (hafter : accounts'.users.find? id = some row')
    (hchanged : row'.passwordHash ≠ row.passwordHash) :
    (¬ KeepsSessions request id row
        ∧ ∀ session' ∈ accounts'.sessions.rows, session'.userId = id →
          session'.revokedAt.isSome = true)
      ∨ KeepsSessions request id row ∧ accounts'.sessions = accounts.sessions
        ∧ row'.enabled = true := by
  have hkept : accounts'.users.find? id ≠ accounts.users.find? id := by
    intro hsame
    rw [hafter, hbefore] at hsame
    cases hsame
    exact hchanged rfl
  cases heffect with
  | addUser _ user henabled =>
      rw [find?_insertUser hbefore, hbefore] at hkept
      exact absurd rfl hkept
  | updateUser id' update salt row₁ write hid hrow hrole henabled hguard =>
      by_cases hmine : id = id'
      · subst hmine
        obtain rfl := Option.some.inj (hbefore.symm.trans hrow)
        cases hnext : update.enabled.getD row.enabled with
        | true =>
            rw [hnext, if_pos rfl, find?_writeUser, if_pos rfl, hrow] at hafter
            obtain rfl := Option.some.inj hafter
            rw [if_pos rfl]
            exact Or.inr ⟨⟨update, salt, rfl, hnext⟩, rfl, (henabled row).trans hnext⟩
        | false =>
            rw [if_neg Bool.false_ne_true]
            refine Or.inl ⟨?_, fun session' hsession' => revoked_of_endSessions hsession'⟩
            rintro ⟨update', salt', hrequest, henabled'⟩
            cases hrequest
            rw [hnext] at henabled'
            cases henabled'
      · refine absurd ?_ hkept
        split
        · rw [find?_writeUser, if_neg hmine]
        · rw [endSessions_users, find?_writeUser, if_neg hmine]
  | login username password sessionId token _ hrow henabled =>
      rw [insertSession_users] at hkept
      exact absurd rfl hkept
  | setPassword _ id' passwordHash mustChangePassword hother =>
      by_cases hmine : id = id'
      · subst hmine
        refine Or.inl ⟨?_, fun session' hsession' => revoked_of_endSessions hsession'⟩
        rintro ⟨update, salt, hrequest, -⟩
        exact hother _ update salt hrequest
      · rw [endSessions_users, find?_writeUser, if_neg hmine] at hkept
        exact absurd rfl hkept
  | _ => exact absurd rfl hkept

/-- A revoked session is rejected in every later state, whatever the clock does. -/
theorem revoked_along {session : UserSession} {token : String} (later : List Event)
    (hsound : SessionsSound crypto accounts) (hsession : session ∈ accounts.sessions.rows)
    (htoken : session.tokenHash = crypto.hashToken token)
    (hrevoked : session.revokedAt.isSome = true) :
    authenticated crypto policies token (run (Event.perform crypto policies) accounts later)
      = .ok none := by
  induction later generalizing accounts session with
  | nil => exact hsound.rejects hsession htoken (Or.inl hrevoked)
  | cons event later ih =>
      obtain ⟨next, hnext, hcontinues⟩ :=
        perform_continued crypto policies accounts event session hsession
      exact ih (perform_sound hsound) hnext (hcontinues.tokenHash.trans htoken)
        (hcontinues.revoked hrevoked)

/-- There is a time at which an open session is accepted. -/
theorem accepted_at (session : UserSession) (policy : SessionPolicy) :
    ∃ now, now < session.expiresAt ∧ idleTooLong session policy now = false := by
  unfold idleTooLong
  cases policy.idleTimeoutSecs with
  | none =>
      refine ⟨session.expiresAt - 1, ?_, rfl⟩
      omega
  | some idle =>
      refine ⟨min (session.expiresAt - 1) (session.lastSeenAt + idle), ?_, ?_⟩
      · omega
      · simp only [Option.any_some, decide_eq_false_iff_not]
        omega

/-- After a request that changed the password of a user, no token that was issued to him before is
accepted in any later state, if and only if the request is not an update that leaves him enabled, or
none of his sessions was open. -/
theorem old_sessions_end_iff (crypto : Crypto) (policies : Policies) (clock : Int)
    (events : List Event) (request : Request) {id : String} {row row' : User}
    (hbefore : (run (Event.perform crypto policies) { clock } events).users.find? id = some row)
    (hafter : (run (Event.perform crypto policies) { clock }
      (events ++ [.serve request])).users.find? id = some row')
    (hchanged : row'.passwordHash ≠ row.passwordHash) :
    (∀ session ∈ (run (Event.perform crypto policies) { clock } events).sessions.rows,
        session.userId = id → ∀ token, crypto.hashToken token = session.tokenHash →
          ∀ later, authenticated crypto policies token (run (Event.perform crypto policies)
            { clock } (events ++ .serve request :: later)) = .ok none)
      ↔ (∀ update salt, request = .updateUser id update salt →
            update.enabled.getD row.enabled = false)
          ∨ ∀ session ∈ (run (Event.perform crypto policies) { clock } events).sessions.rows,
            session.userId = id → session.revokedAt.isSome = true := by
  have hsound := run_sound crypto policies clock events
  simp only [run_append, run_cons, run_nil] at hafter ⊢
  generalize run (Event.perform crypto policies) { clock } events = before at hbefore hafter hsound ⊢
  have hnextSound : SessionsSound crypto ((Event.serve request).perform crypto policies before) :=
    perform_sound hsound
  have hpassword := effect_password (handler_effect crypto policies request before) hbefore hafter
    hchanged
  constructor
  · intro hrejected
    by_cases hkeeps : KeepsSessions request id row
    · right
      intro session hsession huser
      by_contra hopen
      obtain ⟨hnot, -⟩ | ⟨-, hsame, henabled⟩ := hpassword
      · exact hnot hkeeps
      -- The session is open after the request too, and a time is left at which it is accepted.
      obtain ⟨token, htoken⟩ := hsound.issued session hsession
      obtain ⟨now, hexpires, hidle⟩ := accepted_at session policies.session
      have hlast := hrejected session hsession huser token htoken [.tick now]
      have hover : ¬ session.Over now := by
        rintro (hrevoked | hexpired)
        · exact hopen hrevoked
        · omega
      have hlastSound := @perform_sound crypto policies _ (.tick now) hnextSound
      have hstill : session ∈ ((Event.serve request).perform crypto policies before).sessions.rows := by
        change session ∈ (serve Stmt.exec (request.handler crypto policies) before).2.sessions.rows
        rw [hsame]
        exact hsession
      have hvalid := hlastSound.validSession_eq hstill hover (huser ▸ hafter) henabled
      rw [← htoken] at hvalid
      have hlong := (authenticated_none_iff token _).mp hlast session row' hvalid
      exact absurd (hidle.symm.trans hlong) Bool.false_ne_true
    · left
      intro update salt hrequest
      by_contra henabled
      exact hkeeps ⟨update, salt, hrequest, Bool.not_eq_false _ ▸ henabled⟩
  · rintro hcond session hsession huser token htoken later
    obtain ⟨next, hnext, hcontinues⟩ :=
      perform_continued crypto policies before (.serve request) session hsession
    have hrevoked : next.revokedAt.isSome = true := by
      obtain hupdate | hall := hcond
      · obtain ⟨-, hall⟩ | ⟨⟨update, salt, hrequest, henabled⟩, -⟩ := hpassword
        · exact hall next hnext (hcontinues.userId.trans huser)
        · rw [hupdate update salt hrequest] at henabled
          cases henabled
      · exact hcontinues.revoked (hall session hsession huser)
    exact revoked_along later hnextSound hnext (hcontinues.tokenHash.trans htoken.symm) hrevoked

/-- The administrator sets his own password through the user administration, and his session from
before goes on. -/
theorem session_survives_update :
    (((run (Event.perform plainCrypto {}) { clock := 0 } signedIn).users.find? "u").map
        (·.passwordHash) = some "a$administrator"
      ∧ ((run (Event.perform plainCrypto {}) { clock := 0 } (signedIn ++
        [.serve (.updateUser "u" { password := some "another-password" } "b")])).users.find? "u").map
          (·.passwordHash) = some "b$another-password")
    ∧ ¬ ∀ session ∈ (run (Event.perform plainCrypto {}) { clock := 0 } signedIn).sessions.rows,
      session.userId = "u" → ∀ token, plainCrypto.hashToken token = session.tokenHash →
        ∀ later, authenticated plainCrypto {} token (run (Event.perform plainCrypto {})
          { clock := 0 } (signedIn ++
            .serve (.updateUser "u" { password := some "another-password" } "b") :: later))
          = .ok none := by
  refine ⟨⟨rfl, rfl⟩, fun hall => ?_⟩
  have hrejected := hall firstSession (signedIn_sessions ▸ List.mem_singleton.mpr rfl) rfl "t" rfl []
  cases hrejected

theorem old_sessions_end_at_change :
    (∀ session ∈ (run (Event.perform plainCrypto {}) { clock := 0 } signedIn).sessions.rows,
        session.userId = "u" → ∀ token, plainCrypto.hashToken token = session.tokenHash →
          ∀ later, authenticated plainCrypto {} token (run (Event.perform plainCrypto {})
            { clock := 0 } (signedIn ++ .serve
              (.changeUserPassword "u" "administrator" "another-password" "b") :: later)) = .ok none)
      ↔ (∀ update salt, Request.changeUserPassword "u" "administrator" "another-password" "b"
            = .updateUser "u" update salt → update.enabled.getD true = false)
          ∨ ∀ session ∈ (run (Event.perform plainCrypto {}) { clock := 0 } signedIn).sessions.rows,
            session.userId = "u" → session.revokedAt.isSome = true :=
  @old_sessions_end_iff plainCrypto {} 0 signedIn
    (.changeUserPassword "u" "administrator" "another-password" "b") "u" firstAdmin
    (firstAdmin.setPassword "b$another-password" false 0) rfl rfl (by decide)

end LightAI.Users
