import LightAI.Base.Fallible
import LightAI.Base.Table
import LightAI.Base.Text

/-!
# Users, groups and sessions

The tables of the control plane's accounts, the statements on them and the operations of the repository.
Neither users nor sessions are ever deleted. What the operations take from random numbers (ids, salts,
tokens) comes with the request.
-/

namespace LightAI.Users

structure User where
  id : String
  username : String
  passwordHash : String
  role : String
  enabled : Bool := true
  passwordChangedAt : Int
  mustChangePassword : Bool := false
  createdAt : Int
  updatedAt : Int
  deriving DecidableEq

structure UserSession where
  id : String
  userId : String
  tokenHash : String
  createdAt : Int
  lastSeenAt : Int
  expiresAt : Int
  revokedAt : Option Int := none
  deriving DecidableEq

structure UserGroup where
  id : String
  name : String
  role : String
  enabled : Bool := true
  createdAt : Int
  updatedAt : Int
  deriving DecidableEq

/-- The tables, and the wall clock that `now_unix_secs` reads. -/
structure Accounts where
  clock : Int
  users : Table String User User.id := .empty
  sessions : Table String UserSession UserSession.id := .empty
  groups : Table String UserGroup UserGroup.id := .empty
  /-- The rows of `user_group_members`: a group and a user. -/
  members : List (String × String) := []

/-- The functions of `auth` that rest on third-party cryptography. -/
structure Crypto where
  hashToken : String → String
  hashPassword (password salt : String) : Option String
  verifyPassword (password expectedHash : String) : Bool

structure PasswordPolicy where
  minLength : Nat := 12
  complexityRequired : Bool := false
  expiresDays : Option Int := none
  forceChangeAfterReset : Bool := true

structure SessionPolicy where
  ttlSecs : Int := 12 * 60 * 60
  idleTimeoutSecs : Option Int := some (2 * 60 * 60)

/-! ### What the statements write -/

def User.setAccess (user : User) (role : String) (enabled : Bool) (now : Int) : User :=
  { user with role, enabled, updatedAt := now }

/-- The `UPDATE` of an administrator that sets a password too. -/
def User.setAccessAndPassword (user : User) (passwordHash role : String) (enabled : Bool)
    (now : Int) : User :=
  { user with
    passwordHash
    role
    enabled
    passwordChangedAt := now
    mustChangePassword := true
    updatedAt := now }

def User.setPassword (user : User) (passwordHash : String) (mustChangePassword : Bool) (now : Int) :
    User :=
  { user with passwordHash, passwordChangedAt := now, mustChangePassword, updatedAt := now }

def UserSession.revoke (session : UserSession) (now : Int) : UserSession :=
  { session with revokedAt := some now }

def UserSession.seen (session : UserSession) (now : Int) : UserSession :=
  { session with lastSeenAt := now }

def UserGroup.set (group : UserGroup) (name role : String) (enabled : Bool) (now : Int) :
    UserGroup :=
  { group with name, role, enabled, updatedAt := now }

/-! ### Statements -/

inductive Stmt : Type 1 where
  | select {β : Type} (query : Accounts → β)
  /-- The transaction of `setup_initial_admin`: the count and the `INSERT`. -/
  | insertFirstUser (user : User)
  | insertUser (user : User)
  | updateUserAccess (id role : String) (enabled : Bool) (now : Int)
  | updateUserAccessAndPassword (id passwordHash role : String) (enabled : Bool) (now : Int)
  | updateUserPassword (id passwordHash : String) (mustChangePassword : Bool) (now : Int)
  | insertSession (session : UserSession)
  /-- `WHERE user_id = ? AND revoked_at IS NULL` -/
  | revokeUserSessions (userId : String) (now : Int)
  | revokeSession (tokenHash : String) (now : Int)
  | touchSession (tokenHash : String) (now : Int)
  | insertGroup (group : UserGroup)
  | updateGroup (id name role : String) (enabled : Bool) (now : Int)
  /-- The transaction of `replace_user_group_members`. -/
  | replaceMembers (groupId : String) (userIds : List String)
  | deleteGroup (id : String)

/-- What a statement returns: of an `INSERT`, whether no constraint refused it; of a `DELETE`, whether
there was a row. -/
def Stmt.Answer : Stmt → Type
  | @select β _ => β
  | insertFirstUser _ | insertUser _ | insertSession _ | insertGroup _ | replaceMembers .. => Bool
  | updateGroup .. | deleteGroup _ => Bool
  | _ => Unit

/-- The `INSERT` of a user, whose name is unique. -/
def Accounts.insertUser (accounts : Accounts) (user : User) : Bool × Accounts :=
  if accounts.users.rows.any (·.username = user.username) then (false, accounts)
  else match accounts.users.insert? user with
    | none => (false, accounts)
    | some users => (true, { accounts with users })

/-- The `INSERT` of a session, whose token hash is unique and whose user exists. -/
def Accounts.insertSession (accounts : Accounts) (session : UserSession) : Bool × Accounts :=
  if (accounts.users.find? session.userId).isNone
      || accounts.sessions.rows.any (·.tokenHash = session.tokenHash) then (false, accounts)
  else match accounts.sessions.insert? session with
    | none => (false, accounts)
    | some sessions => (true, { accounts with sessions })

def Accounts.insertGroup (accounts : Accounts) (group : UserGroup) : Bool × Accounts :=
  if accounts.groups.rows.any (·.name = group.name) then (false, accounts)
  else match accounts.groups.insert? group with
    | none => (false, accounts)
    | some groups => (true, { accounts with groups })

theorem setAccess_id (role : String) (enabled : Bool) (now : Int) (user : User) :
    (user.setAccess role enabled now).id = user.id := rfl

theorem setAccessAndPassword_id (passwordHash role : String) (enabled : Bool) (now : Int)
    (user : User) : (user.setAccessAndPassword passwordHash role enabled now).id = user.id := rfl

theorem setPassword_id (passwordHash : String) (mustChangePassword : Bool) (now : Int)
    (user : User) : (user.setPassword passwordHash mustChangePassword now).id = user.id := rfl

theorem revoke_id (now : Int) (session : UserSession) : (session.revoke now).id = session.id := rfl

theorem seen_id (now : Int) (session : UserSession) : (session.seen now).id = session.id := rfl

theorem set_id (name role : String) (enabled : Bool) (now : Int) (group : UserGroup) :
    (group.set name role enabled now).id = group.id := rfl

def Stmt.exec : (stmt : Stmt) → Accounts → stmt.Answer × Accounts
  | select query, accounts => (query accounts, accounts)
  | insertFirstUser user, accounts =>
      if accounts.users.rows.isEmpty then accounts.insertUser user else (false, accounts)
  | insertUser user, accounts => accounts.insertUser user
  | updateUserAccess id role enabled now, accounts =>
      ((), { accounts with
        users := accounts.users.update id (·.setAccess role enabled now)
          (setAccess_id role enabled now) })
  | updateUserAccessAndPassword id passwordHash role enabled now, accounts =>
      ((), { accounts with
        users := accounts.users.update id (·.setAccessAndPassword passwordHash role enabled now)
          (setAccessAndPassword_id passwordHash role enabled now) })
  | updateUserPassword id passwordHash mustChangePassword now, accounts =>
      ((), { accounts with
        users := accounts.users.update id (·.setPassword passwordHash mustChangePassword now)
          (setPassword_id passwordHash mustChangePassword now) })
  | insertSession session, accounts => accounts.insertSession session
  | revokeUserSessions userId now, accounts =>
      ((), { accounts with
        sessions := accounts.sessions.updateWhere
          (fun session => session.userId = userId && session.revokedAt.isNone) (·.revoke now)
          (revoke_id now) })
  | revokeSession tokenHash now, accounts =>
      ((), { accounts with
        sessions := accounts.sessions.updateWhere (fun session => session.tokenHash = tokenHash)
          (·.revoke now) (revoke_id now) })
  | touchSession tokenHash now, accounts =>
      ((), { accounts with
        sessions := accounts.sessions.updateWhere (fun session => session.tokenHash = tokenHash)
          (·.seen now) (seen_id now) })
  | insertGroup group, accounts => accounts.insertGroup group
  | updateGroup id name role enabled now, accounts =>
      if accounts.groups.rows.any fun group => group.id ≠ id && group.name = name then
        (false, accounts)
      else
        (true, { accounts with
          groups := accounts.groups.update id (·.set name role enabled now)
            (set_id name role enabled now) })
  | replaceMembers groupId userIds, accounts =>
      if (accounts.groups.find? groupId).isNone && !userIds.isEmpty
          || userIds.any fun userId => (accounts.users.find? userId).isNone then (false, accounts)
      else
        (true, { accounts with
          members := accounts.members.filter (·.1 ≠ groupId) ++ userIds.map fun userId =>
            (groupId, userId) })
  | deleteGroup id, accounts =>
      ((accounts.groups.find? id).isSome,
        { accounts with
          groups := accounts.groups.delete id
          members := accounts.members.filter (·.1 ≠ id) })

/-! ### Operations -/

/-- An error of `anyhow`, which is its text. -/
abbrev Operation (α : Type) := Fallible String Stmt Stmt.Answer α

open Fallible

def execute (stmt : Stmt) : Operation stmt.Answer := perform stmt

def query {β : Type} (q : Accounts → β) : Operation β := execute (.select q)

def nowUnixSecs : Operation Int := query Accounts.clock

/-- `?` on an `INSERT`. -/
def inserted (accepted : Bool) : Operation Unit :=
  if accepted then pure () else throw "UNIQUE constraint failed"

section Ends

variable {α : Type} {accounts : Accounts} {E : String → Accounts → Prop}

theorem ends_execute {stmt : Stmt} {Q : stmt.Answer → Accounts → Prop}
    (hQ : Q (stmt.exec accounts).1 (stmt.exec accounts).2) :
    Ends Stmt.exec (execute stmt) accounts Q E :=
  ends_perform hQ

theorem ends_query {q : Accounts → α} {Q : α → Accounts → Prop} (hQ : Q (q accounts) accounts) :
    Ends Stmt.exec (query q) accounts Q E :=
  @ends_execute accounts E (.select q) Q hQ

theorem ends_inserted {accepted : Bool} {Q : Unit → Accounts → Prop}
    (hok : accepted = true → Q () accounts)
    (hrefused : accepted = false → E "UNIQUE constraint failed" accounts) :
    Ends Stmt.exec (inserted accepted) accounts Q E := by
  cases accepted with
  | true => exact ends_pure (hok rfl)
  | false => exact ends_throw (hrefused rfl)

end Ends

def validateUsername (username : String) : Except String Unit :=
  let username := Text.trim username
  if username.utf8ByteSize < 3 || username.utf8ByteSize > 64 then
    .error "username must be 3-64 characters"
  else if !username.toList.all fun ch => ch.isAlphanum || ch = '-' || ch = '_' || ch = '.' then
    .error "username may only contain letters, numbers, '.', '-' and '_'"
  else .ok ()

def validateGroupName (name : String) : Except String Unit :=
  let name := Text.trim name
  if name.utf8ByteSize < 2 || name.utf8ByteSize > 80 then
    .error "group name must be 2-80 characters"
  else if name.toList.any Text.isControl then
    .error "group name must not contain control characters"
  else .ok ()

def validatePassword (password : String) (policy : PasswordPolicy) : Except String Unit :=
  if password.utf8ByteSize < policy.minLength then
    .error "password does not meet the configured password policy"
  else if policy.complexityRequired && !(password.toList.any Char.isLower
      && password.toList.any Char.isUpper && password.toList.any Char.isDigit) then
    .error "password does not meet the configured password policy"
  else .ok ()

def validateRole (role : String) : Except String Unit :=
  if role ∈ ["admin", "operator", "viewer"] then .ok ()
  else .error "role must be admin, operator or viewer"

def hashPassword (crypto : Crypto) (password salt : String) : Operation String :=
  required "failed to hash password" (crypto.hashPassword password salt)

/-! ### Roles -/

structure AuthUser where
  id : String
  username : String
  role : String
  effectiveRole : String
  enabled : Bool
  mustChangePassword : Bool

def roleRank : String → Nat
  | "admin" => 3
  | "operator" => 2
  | "viewer" => 1
  | _ => 0

/-- The loop of `enrich_effective_role` over the roles of the enabled groups. -/
def effectiveRole (role : String) (groupRoles : List String) : String :=
  groupRoles.foldl (fun effective role => if roleRank role > roleRank effective then role
    else effective) role

/-- The roles of the enabled groups of a user. -/
def Accounts.groupRoles (accounts : Accounts) (userId : String) : List String :=
  (accounts.members.filter (·.2 = userId)).filterMap fun member =>
    ((accounts.groups.find? member.1).filter (·.enabled)).map (·.role)

def userFromRow (user : User) : AuthUser :=
  { id := user.id
    username := user.username
    role := user.role
    effectiveRole := user.role
    enabled := user.enabled
    mustChangePassword := user.mustChangePassword }

def enrichEffectiveRole (user : AuthUser) : Operation AuthUser := do
  let groupRoles ← query (·.groupRoles user.id)
  pure { user with effectiveRole := effectiveRole user.role groupRoles }

def userById (id : String) : Operation (Option AuthUser) := do
  match ← query (·.users.find? id) with
  | none => pure none
  | some user => do
      let user ← enrichEffectiveRole (userFromRow user)
      pure (some user)

/-! ### Users -/

def setupInitialAdmin (crypto : Crypto) (username password : String) (policy : PasswordPolicy)
    (id salt : String) : Operation AuthUser := do
  checked (validateUsername username)
  checked (validatePassword password policy)
  let now ← nowUnixSecs
  let passwordHash ← hashPassword crypto password salt
  let accepted ← execute (.insertFirstUser
    { id
      username := Text.trim username
      passwordHash
      role := "admin"
      passwordChangedAt := now
      createdAt := now
      updatedAt := now })
  rejectIf (!accepted) "setup already completed"
  let user ← userById id
  required "created admin not found" user

structure UserCreateRequest where
  username : String
  password : String
  role : String

def createUserWithPolicy (crypto : Crypto) (request : UserCreateRequest) (policy : PasswordPolicy)
    (id salt : String) : Operation AuthUser := do
  checked (validateUsername request.username)
  checked (validatePassword request.password policy)
  checked (validateRole request.role)
  let now ← nowUnixSecs
  let passwordHash ← hashPassword crypto request.password salt
  inserted (← execute (.insertUser
    { id
      username := Text.trim request.username
      passwordHash
      role := request.role
      passwordChangedAt := now
      createdAt := now
      updatedAt := now }))
  let user ← userById id
  required "created user not found" user

structure UserUpdateRequest where
  role : Option String := none
  enabled : Option Bool := none
  password : Option String := none

def validateUserUpdate (request : UserUpdateRequest) (policy : PasswordPolicy) :
    Except String Unit := do
  match request.role with
  | none => pure ()
  | some role => validateRole role
  match request.password with
  | none => pure ()
  | some password => validatePassword password policy

/-- The other users that are enabled administrators. -/
def Accounts.otherAdmins (accounts : Accounts) (id : String) : Nat :=
  (accounts.users.rows.filter fun user =>
    user.id ≠ id && user.role = "admin" && user.enabled).length

/-- The guard of `update_user_with_policy` that keeps the last enabled administrator. -/
def keepLastAdmin (id : String) (existing : AuthUser) (role : String) (enabled : Bool) :
    Operation Unit :=
  if existing.role = "admin" && (!enabled || role ≠ "admin") then do
    let otherAdmins ← query (·.otherAdmins id)
    rejectIf (otherAdmins = 0) "cannot disable or demote the last enabled admin"
  else pure ()

/-- The `UPDATE` of `update_user_with_policy`, of which there are two. -/
def writeUserUpdate (crypto : Crypto) (id : String) (password : Option String) (role : String)
    (enabled : Bool) (now : Int) (salt : String) : Operation Unit :=
  match password with
  | none => execute (.updateUserAccess id role enabled now)
  | some password => do
      let passwordHash ← hashPassword crypto password salt
      execute (.updateUserAccessAndPassword id passwordHash role enabled now)

def updateUserWithPolicy (crypto : Crypto) (id : String) (request : UserUpdateRequest)
    (policy : PasswordPolicy) (salt : String) : Operation AuthUser := do
  checked (validateUserUpdate request policy)
  let existing ← userById id
  let existing ← required "user not found" existing
  let role := request.role.getD existing.role
  let enabled := request.enabled.getD existing.enabled
  keepLastAdmin id existing role enabled
  let now ← nowUnixSecs
  writeUserUpdate crypto id request.password role enabled now salt
  if enabled then pure () else execute (.revokeUserSessions id now)
  let user ← userById id
  required "updated user not found" user

/-! ### Sessions -/

/-- The password of a user is older than the policy allows. -/
def passwordExpired (user : User) (policy : PasswordPolicy) (now : Int) : Bool :=
  policy.expiresDays.any fun days =>
    user.passwordChangedAt > 0 && now - user.passwordChangedAt > days * 86400

def loginUser (crypto : Crypto) (username password : String) (sessionPolicy : SessionPolicy)
    (passwordPolicy : PasswordPolicy) (sessionId sessionToken : String) :
    Operation (Option (AuthUser × String)) := do
  match ← query (·.users.rows.find? fun user => user.username = Text.trim username) with
  | none => pure none
  | some row =>
      if !row.enabled || !crypto.verifyPassword password row.passwordHash then pure none
      else do
        let now ← nowUnixSecs
        if passwordExpired row passwordPolicy now then pure none
        else do
          let user ← enrichEffectiveRole (userFromRow row)
          let now ← nowUnixSecs
          inserted (← execute (.insertSession
            { id := sessionId
              userId := user.id
              tokenHash := crypto.hashToken sessionToken
              createdAt := now
              lastSeenAt := now
              expiresAt := now + sessionPolicy.ttlSecs }))
          pure (some (user, sessionToken))

/-- The row that `authenticate_session` selects: a session that is not revoked and has not expired, with
its user, who is enabled. -/
def Accounts.validSession (accounts : Accounts) (tokenHash : String) (now : Int) :
    Option (UserSession × User) :=
  (accounts.sessions.rows.filterMap fun session =>
    if session.tokenHash = tokenHash && session.revokedAt.isNone && session.expiresAt > now then
      ((accounts.users.find? session.userId).filter (·.enabled)).map fun user => (session, user)
    else none).head?

/-- The session has not been used for longer than the policy allows. -/
def idleTooLong (session : UserSession) (policy : SessionPolicy) (now : Int) : Bool :=
  policy.idleTimeoutSecs.any fun idle => now - session.lastSeenAt > idle

def authenticateSession (crypto : Crypto) (sessionToken : String) (policy : SessionPolicy) :
    Operation (Option AuthUser) := do
  let sessionHash := crypto.hashToken sessionToken
  let now ← nowUnixSecs
  match ← query (·.validSession sessionHash now) with
  | none => pure none
  | some (session, row) =>
      if idleTooLong session policy now then do
        execute (.revokeSession sessionHash now)
        pure none
      else do
        execute (.touchSession sessionHash now)
        let user ← enrichEffectiveRole (userFromRow row)
        pure (some user)

def resetUserPassword (crypto : Crypto) (username password : String) (policy : PasswordPolicy)
    (salt : String) : Operation AuthUser := do
  checked (validatePassword password policy)
  let user ← query (·.users.rows.find? fun user => user.username = Text.trim username)
  let user ← required "user not found" user
  let now ← nowUnixSecs
  let passwordHash ← hashPassword crypto password salt
  execute (.updateUserPassword user.id passwordHash policy.forceChangeAfterReset now)
  execute (.revokeUserSessions user.id now)
  let updated ← userById user.id
  required "updated user not found" updated

def changeUserPassword (crypto : Crypto) (userId currentPassword newPassword : String)
    (policy : PasswordPolicy) (salt : String) : Operation Unit := do
  checked (validatePassword newPassword policy)
  let user ← query fun accounts => (accounts.users.find? userId).filter (·.enabled)
  let user ← required "user not found" user
  rejectIf (!crypto.verifyPassword currentPassword user.passwordHash)
    "current password is incorrect"
  let now ← nowUnixSecs
  let passwordHash ← hashPassword crypto newPassword salt
  execute (.updateUserPassword userId passwordHash false now)
  execute (.revokeUserSessions userId now)

def revokeSession (crypto : Crypto) (sessionToken : String) : Operation Unit := do
  let now ← nowUnixSecs
  execute (.revokeSession (crypto.hashToken sessionToken) now)

/-! ### Groups -/

structure UserGroupCreateRequest where
  name : String
  role : String

def userGroupById (id : String) : Operation (Option UserGroup) := query (·.groups.find? id)

def createUserGroup (request : UserGroupCreateRequest) (id : String) : Operation UserGroup := do
  checked (validateGroupName request.name)
  checked (validateRole request.role)
  let now ← nowUnixSecs
  inserted (← execute (.insertGroup
    { id, name := Text.trim request.name, role := request.role, createdAt := now, updatedAt := now }))
  let group ← userGroupById id
  required "created group not found" group

structure UserGroupUpdateRequest where
  name : Option String := none
  role : Option String := none
  enabled : Option Bool := none

def updateUserGroup (id : String) (request : UserGroupUpdateRequest) : Operation UserGroup := do
  let existing ← userGroupById id
  let existing ← required "group not found" existing
  let name := request.name.getD existing.name
  checked (validateGroupName name)
  let role := request.role.getD existing.role
  checked (validateRole role)
  let enabled := request.enabled.getD existing.enabled
  let now ← nowUnixSecs
  inserted (← execute (.updateGroup id (Text.trim name) role enabled now))
  let group ← userGroupById id
  required "updated group not found" group

/-- The loop of `replace_user_group_members` that checks each user once. -/
def checkMembers : List String → Operation Unit
  | [] => pure ()
  | userId :: userIds => do
      let user ← userById userId
      rejectIf user.isNone "user not found"
      checkMembers userIds

def replaceUserGroupMembers (groupId : String) (userIds : List String) : Operation UserGroup := do
  let existing ← userGroupById groupId
  rejectIf existing.isNone "group not found"
  checkMembers userIds.dedup
  inserted (← execute (.replaceMembers groupId userIds.dedup))
  let group ← userGroupById groupId
  required "updated group not found" group

def deleteUserGroup (groupId : String) : Operation Unit := do
  let memberCount ← query fun accounts => (accounts.members.filter (·.1 = groupId)).length
  rejectIf (memberCount > 0) "group has members; remove members before deleting"
  let found ← execute (.deleteGroup groupId)
  rejectIf (!found) "group not found"

/-! ### Requests -/

/-- The operations of the repository on accounts. -/
inductive Request where
  | setupInitialAdmin (username password id salt : String)
  | createUser (request : UserCreateRequest) (id salt : String)
  | updateUser (id : String) (request : UserUpdateRequest) (salt : String)
  | loginUser (username password sessionId sessionToken : String)
  | authenticateSession (sessionToken : String)
  | resetUserPassword (username password : String) (policy : PasswordPolicy) (salt : String)
  | changeUserPassword (userId currentPassword newPassword salt : String)
  | revokeSession (sessionToken : String)
  | createUserGroup (request : UserGroupCreateRequest) (id : String)
  | updateUserGroup (id : String) (request : UserGroupUpdateRequest)
  | replaceUserGroupMembers (groupId : String) (userIds : List String)
  | deleteUserGroup (groupId : String)

/-- The policies that the server is configured with. -/
structure Policies where
  password : PasswordPolicy := {}
  session : SessionPolicy := {}

/-- An operation whose answer is not looked at. -/
def answered {α : Type} (h : Operation α) : Operation Unit := do
  let _ ← h
  pure ()

def Request.handler (crypto : Crypto) (policies : Policies) : Request → Operation Unit
  | setupInitialAdmin username password id salt =>
      answered (Users.setupInitialAdmin crypto username password policies.password id salt)
  | createUser request id salt =>
      answered (createUserWithPolicy crypto request policies.password id salt)
  | updateUser id request salt =>
      answered (updateUserWithPolicy crypto id request policies.password salt)
  | loginUser username password sessionId sessionToken =>
      answered (Users.loginUser crypto username password policies.session policies.password
        sessionId sessionToken)
  | authenticateSession sessionToken =>
      answered (Users.authenticateSession crypto sessionToken policies.session)
  | resetUserPassword username password policy salt =>
      answered (Users.resetUserPassword crypto username password policy salt)
  | changeUserPassword userId currentPassword newPassword salt =>
      answered (Users.changeUserPassword crypto userId currentPassword newPassword
        policies.password salt)
  | revokeSession sessionToken => answered (Users.revokeSession crypto sessionToken)
  | createUserGroup request id => answered (Users.createUserGroup request id)
  | updateUserGroup id request => answered (Users.updateUserGroup id request)
  | replaceUserGroupMembers groupId userIds =>
      answered (Users.replaceUserGroupMembers groupId userIds)
  | deleteUserGroup groupId => answered (Users.deleteUserGroup groupId)

end LightAI.Users
