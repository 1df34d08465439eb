import LightAI.Base.Trace
import LightAI.Server.Sessions

/-!
# Where an accepted session comes from

A token is accepted for nobody but the user who has signed in for it: the login found an enabled user of
that name, checked the password against the stored hash and did not find it expired. Nothing has ended the
session since. That is stated of every event between the login and now: no logout of the token, no new
password but by an update that leaves the user enabled, no state in which he was disabled, and no
rejection of the token other than for its age.
-/

namespace LightAI.Users

open Fallible Trace

/-- What `login_user` demands of a row before it opens a session. -/
structure SignsIn (crypto : Crypto) (policies : Policies) (accounts : Accounts)
    (username password : String) (row : User) : Prop where
  listed : row ∈ accounts.users.rows
  username : row.username = Text.trim username
  enabled : row.enabled = true
  verified : crypto.verifyPassword password row.passwordHash = true
  unexpired : passwordExpired row policies.password accounts.clock = false

/-- The session that a login opens. -/
def openedSession (crypto : Crypto) (policies : Policies) (accounts : Accounts) (row : User)
    (sessionId token : String) : UserSession :=
  { id := sessionId
    userId := row.id
    tokenHash := crypto.hashToken token
    createdAt := accounts.clock
    lastSeenAt := accounts.clock
    expiresAt := accounts.clock + policies.session.ttlSecs }

/-- An event that leaves an open session open. -/
structure LeavesOpen (crypto : Crypto) (policies : Policies) (session : UserSession)
    (accounts : Accounts) (event : Event) : Prop where
  enabled : ∃ row, accounts.users.find? session.userId = some row ∧ row.enabled = true
  loggedOut : ∀ token, event = .serve (.revokeSession token) →
    crypto.hashToken token ≠ session.tokenHash
  password : ∀ row row', accounts.users.find? session.userId = some row →
    (event.perform crypto policies accounts).users.find? session.userId = some row' →
    row'.passwordHash ≠ row.passwordHash →
    ∃ update salt, event = .serve (.updateUser session.userId update salt)
      ∧ update.enabled.getD row.enabled = true
  rejected : ∀ token, event = .serve (.authenticateSession token) →
    crypto.hashToken token = session.tokenHash →
    authenticated crypto policies token accounts = .ok none → session.expiresAt ≤ accounts.clock

section Origin

variable {crypto : Crypto} {policies : Policies} {accounts : Accounts}

/-! ### One event -/

/-- A login does nothing, or opens a session of a user who signs in. -/
theorem ends_loginUser_signsIn {username password sessionId token : String} {P : Accounts → Prop}
    (hsame : P accounts)
    (hopens : ∀ row, SignsIn crypto policies accounts username password row →
      P (accounts.insertSession (openedSession crypto policies accounts row sessionId token)).2) :
    Ends Stmt.exec
      (loginUser crypto username password policies.session policies.password sessionId token)
      accounts (fun _ s => P s) fun _ s => P s := by
  unfold loginUser
  refine Ends.bind (ends_query ?_)
  cases hfound : accounts.users.rows.find? fun user => user.username = Text.trim username with
  | none => exact ends_pure hsame
  | some row =>
      have hrow : row ∈ accounts.users.rows := List.mem_of_find?_eq_some hfound
      have hname : row.username = Text.trim username := by
        simpa using List.find?_some hfound
      by_cases hrefused : (!row.enabled || !crypto.verifyPassword password row.passwordHash) = true
      · simp only [hrefused, if_true]
        exact ends_pure hsame
      simp only [hrefused, if_false, Bool.false_eq_true]
      have hpassed : row.enabled = true ∧ crypto.verifyPassword password row.passwordHash = true := by
        simpa using hrefused
      refine Ends.bind (ends_query ?_)
      by_cases hexpired : passwordExpired row policies.password accounts.clock = true
      · rw [if_pos hexpired]
        exact ends_pure hsame
      rw [if_neg hexpired]
      have hunexpired : passwordExpired row policies.password accounts.clock = false := by
        simpa using hexpired
      have hdone := hopens row ⟨hrow, hname, hpassed.1, hpassed.2, hunexpired⟩
      refine Ends.bind (.of_serve_ok (serve_enrichEffectiveRole row accounts) ?_)
      refine Ends.bind (ends_query ?_)
      refine Ends.bind (ends_execute ?_)
      refine Ends.bind (ends_inserted (fun _ => ?_) fun _ => hdone)
      exact ends_pure hdone

/-- The sessions after an `INSERT` are those from before, and the one inserted. -/
theorem mem_insertSession {session session' : UserSession}
    (hsession : session' ∈ (accounts.insertSession session).2.sessions.rows) :
    session' ∈ accounts.sessions.rows ∨ session' = session := by
  unfold Accounts.insertSession at hsession
  split at hsession
  · exact Or.inl hsession
  · split at hsession
    · exact Or.inl hsession
    · rename_i sessions hinsert
      rw [Table.insert?_rows hinsert, List.mem_append, List.mem_singleton] at hsession
      exact hsession

/-- An operation other than a login opens no session. -/
theorem effect_comesFrom {request : Request} {accounts' : Accounts}
    (heffect : Effect crypto policies accounts request accounts')
    (hlogin : ∀ username password sessionId token,
      request ≠ .loginUser username password sessionId token) :
    SameSessions accounts accounts' := by
  cases heffect with
  | nothing => exact .of_eq rfl
  | addUser _ user henabled => exact .of_eq (insertUser_sessions user accounts)
  | updateUser id update salt row write hid hrow hrole henabled hguard =>
      split
      · exact .of_eq rfl
      · exact writeUser_endSessions_same accounts id write hid
  | login username password sessionId token row hrow henabled => exact absurd rfl (hlogin _ _ _ _)
  | idle token => exact sameSessions_updateWhere (revoke_continues · _) _
  | seen token => exact sameSessions_updateWhere (seen_continues · _) _
  | setPassword _ id passwordHash mustChangePassword hother =>
      exact writeUser_endSessions_same accounts id _ _
  | revoke token => exact sameSessions_updateWhere (revoke_continues · _) _
  | groups _ groups members => exact .of_eq rfl

/-- A session after an event was there before, or the event is the login that opens it. -/
theorem perform_origin {event : Event} {session' : UserSession}
    (hsession : session' ∈ (event.perform crypto policies accounts).sessions.rows) :
    (∃ session ∈ accounts.sessions.rows, session.Continues session')
      ∨ ∃ username password sessionId token row,
        event = .serve (.loginUser username password sessionId token)
          ∧ SignsIn crypto policies accounts username password row
          ∧ session' = openedSession crypto policies accounts row sessionId token := by
  cases event with
  | tick now => exact Or.inl ⟨session', hsession, .refl session'⟩
  | serve request =>
      by_cases hlogin : ∃ username password sessionId token,
          request = .loginUser username password sessionId token
      · obtain ⟨username, password, sessionId, token, rfl⟩ := hlogin
        have hends := ends_answered (@ends_loginUser_signsIn crypto policies accounts username password
          sessionId token (fun s => ∀ session' ∈ s.sessions.rows, session' ∈ accounts.sessions.rows
            ∨ ∃ row, SignsIn crypto policies accounts username password row
              ∧ session' = openedSession crypto policies accounts row sessionId token)
          (fun _ hold => Or.inl hold) ?_)
        · obtain hold | ⟨row, hsigns, hopened⟩ := hends.state session' hsession
          · exact Or.inl ⟨session', hold, .refl session'⟩
          · exact Or.inr ⟨username, password, sessionId, token, row, rfl, hsigns, hopened⟩
        · intro row hsigns other hother
          obtain hold | hnew := mem_insertSession hother
          · exact Or.inl hold
          · exact Or.inr ⟨row, hsigns, hnew⟩
      · have hsame := effect_comesFrom (handler_effect crypto policies request accounts)
          fun username password sessionId token heq => hlogin ⟨username, password, sessionId, token, heq⟩
        exact Or.inl (hsame.comesFrom session' hsession)

/-- A logout revokes the session of its token. -/
theorem revoked_of_logout {token : String} {session' : UserSession}
    (hsession : session' ∈ ((Event.serve (.revokeSession token)).perform crypto policies
      accounts).sessions.rows)
    (htoken : crypto.hashToken token = session'.tokenHash) : session'.revokedAt.isSome = true := by
  have hends : Ends Stmt.exec (answered (revokeSession crypto token)) accounts
      (fun _ s => ∀ session' ∈ s.sessions.rows, crypto.hashToken token = session'.tokenHash →
        session'.revokedAt.isSome = true)
      fun _ s => ∀ session' ∈ s.sessions.rows, crypto.hashToken token = session'.tokenHash →
        session'.revokedAt.isSome = true := by
    refine ends_answered (ends_revokeSession ?_)
    intro session' hsession' htoken'
    obtain ⟨session, -, rfl⟩ := List.mem_map.mp hsession'
    by_cases hmine : session.tokenHash = crypto.hashToken token
    · rw [if_pos (decide_eq_true hmine)]
      rfl
    · rw [if_neg fun h => hmine (of_decide_eq_true h)] at htoken'
      exact absurd htoken'.symm hmine
  exact hends.state session' hsession htoken

/-- An event after which the session is still open has left it open. -/
theorem leavesOpen_of_open {event : Event} {session session' : UserSession}
    (hsound : SessionsSound crypto accounts) (hsession : session ∈ accounts.sessions.rows)
    (hafter : session' ∈ (event.perform crypto policies accounts).sessions.rows)
    (hcontinues : session.Continues session') (hopen : session'.revokedAt = none) :
    LeavesOpen crypto policies session' accounts event := by
  have hnotRevoked : session'.revokedAt.isSome ≠ true := by
    rw [hopen]
    exact Bool.false_ne_true
  constructor
  · obtain ⟨row, hrow, hdisabled⟩ := hsound.owned session hsession
    refine ⟨row, hcontinues.userId ▸ hrow, ?_⟩
    by_contra hoff
    exact hnotRevoked (hcontinues.revoked (hdisabled (Bool.not_eq_true _ ▸ hoff)))
  · rintro token rfl htoken
    exact hnotRevoked (revoked_of_logout hafter htoken)
  · intro row row' hrow hrow' hchanged
    cases event with
    | tick now =>
        have hsame : row = row' := Option.some.inj (hrow.symm.trans hrow')
        exact absurd (hsame ▸ rfl) hchanged
    | serve request =>
        obtain ⟨-, hall⟩ | ⟨⟨update, salt, hrequest, henabled⟩, -⟩ :=
          effect_password (handler_effect crypto policies request accounts) hrow hrow' hchanged
        · exact absurd (hall session' hafter rfl) hnotRevoked
        · exact ⟨update, salt, congrArg Event.serve hrequest, henabled⟩
  · rintro token rfl htoken hrejected
    have hmine : session.tokenHash = crypto.hashToken token :=
      hcontinues.tokenHash.symm.trans htoken.symm
    obtain ⟨other, hother, hother', hover⟩ := hsound.over_of_rejected hsession hmine hrejected
    have hnext : SessionsSound crypto
        ((Event.serve (.authenticateSession token)).perform crypto policies accounts) :=
      perform_sound hsound
    have heq : other = session' :=
      hnext.session_eq hafter hother (hother'.tokenHash.trans hcontinues.tokenHash.symm)
    rw [heq] at hover
    obtain hrevoked | hexpired := hover
    · exact absurd hrevoked hnotRevoked
    · exact hexpired

/-! ### A run -/

/-- The session was opened by a login of the run, and every event since has left it open. -/
def Origin (crypto : Crypto) (policies : Policies) (start : Accounts) (events : List Event)
    (session : UserSession) : Prop :=
  ∃ pre username password sessionId token row post,
    events = pre ++ .serve (.loginUser username password sessionId token) :: post
      ∧ SignsIn crypto policies (run (Event.perform crypto policies) start pre) username password row
      ∧ (openedSession crypto policies (run (Event.perform crypto policies) start pre) row sessionId
          token).Continues session
      ∧ Along (Event.perform crypto policies) (LeavesOpen crypto policies session)
          (run (Event.perform crypto policies) start
            (pre ++ [.serve (.loginUser username password sessionId token)])) post

/-- What leaves a session open leaves it open under the later row too. -/
theorem LeavesOpen.continues {session session' : UserSession} {event : Event}
    (hleaves : LeavesOpen crypto policies session accounts event)
    (hcontinues : session.Continues session') :
    LeavesOpen crypto policies session' accounts event := by
  obtain ⟨henabled, hloggedOut, hpassword, hrejected⟩ := hleaves
  constructor
  · rw [hcontinues.userId]
    exact henabled
  · rw [hcontinues.tokenHash]
    exact hloggedOut
  · rw [hcontinues.userId]
    exact hpassword
  · rw [hcontinues.tokenHash, hcontinues.expiresAt]
    exact hrejected

/-- Every open session has its login. -/
theorem run_origin (crypto : Crypto) (policies : Policies) (clock : Int) (events : List Event) :
    ∀ session ∈ (run (Event.perform crypto policies) { clock } events).sessions.rows,
      session.revokedAt = none → Origin crypto policies { clock } events session := by
  induction events using List.reverseRecOn with
  | nil =>
      intro session hsession
      cases hsession
  | append_singleton events event ih =>
      intro session' hsession' hopen
      rw [run_append, run_cons, run_nil] at hsession'
      have hsound := run_sound crypto policies clock events
      obtain ⟨session, hsession, hcontinues⟩ | ⟨username, password, sessionId, token, row, rfl,
        hsigns, hopened⟩ := perform_origin hsession'
      · -- It was open before the event too, and has its login from there.
        have hwasOpen : session.revokedAt = none := by
          by_contra hrevoked
          have hsome := hcontinues.revoked (Option.isSome_iff_ne_none.mpr hrevoked)
          rw [hopen] at hsome
          cases hsome
        obtain ⟨pre, username, password, sessionId, token, row, post, rfl, hsigns, hlogin, halong⟩ :=
          ih session hsession hwasOpen
        have hleaves := leavesOpen_of_open hsound hsession hsession' hcontinues hopen
        refine ⟨pre, username, password, sessionId, token, row, post ++ [event], ?_, hsigns,
          hlogin.trans hcontinues, ?_⟩
        · rw [List.append_assoc, List.cons_append]
        · rw [along_append, along_cons]
          refine ⟨halong.mono fun s e h => h.continues hcontinues, ?_, trivial⟩
          rw [← run_append, List.append_assoc, List.singleton_append]
          exact hleaves
      · refine ⟨events, username, password, sessionId, token, row, [], rfl, hsigns, ?_, trivial⟩
        rw [hopened]
        exact .refl _

/-- What `authenticate_session` accepts is an open session, and it answers with its user. -/
theorem validSession_of_authenticated {token : String} {user : AuthUser}
    (haccepted : authenticated crypto policies token accounts = .ok (some user)) :
    ∃ session row,
      accounts.validSession (crypto.hashToken token) accounts.clock = some (session, row)
        ∧ user = accounts.authUser row := by
  have hends : Ends Stmt.exec (authenticateSession crypto token policies.session) accounts
      (fun answer _ => ∀ user, answer = some user → ∃ session row,
        accounts.validSession (crypto.hashToken token) accounts.clock = some (session, row)
          ∧ user = accounts.authUser row) fun _ _ => False := by
    refine ends_authenticateSession (fun _ user h => ?_) (fun _ _ _ _ user h => ?_)
      fun session row hvalid _ user h => ?_
    · cases h
    · cases h
    · exact ⟨session, row, hvalid, (Option.some.inj h).symm⟩
  obtain ⟨answer, hanswer, hfound⟩ := hends.result
  unfold authenticated at haccepted
  rw [hanswer] at haccepted
  exact hfound user (Except.ok.inj haccepted)

/-- A token that is accepted in a reachable state was opened by a login of the user it is accepted for,
with his password, and has been left open by every event since. -/
theorem accepted_session_origin (crypto : Crypto) (policies : Policies) (clock : Int)
    (events : List Event) (token : String) (user : AuthUser)
    (haccepted : authenticated crypto policies token
      (run (Event.perform crypto policies) { clock } events) = .ok (some user)) :
    ∃ pre username password sessionId issued row post session,
      events = pre ++ .serve (.loginUser username password sessionId issued) :: post
        ∧ SignsIn crypto policies (run (Event.perform crypto policies) { clock } pre) username password
            row
        ∧ row.id = user.id
        ∧ crypto.hashToken issued = crypto.hashToken token
        ∧ (openedSession crypto policies (run (Event.perform crypto policies) { clock } pre) row
            sessionId issued).Continues session
        ∧ (run (Event.perform crypto policies) { clock } events).clock < session.expiresAt
        ∧ Along (Event.perform crypto policies) (LeavesOpen crypto policies session)
            (run (Event.perform crypto policies) { clock }
              (pre ++ [.serve (.loginUser username password sessionId issued)])) post := by
  obtain ⟨session, found, hvalid, rfl⟩ := validSession_of_authenticated haccepted
  obtain ⟨hsession, htoken, hopen, hexpires, hfound, -⟩ := validSession_some hvalid
  have hrevoked : session.revokedAt = none := Option.isNone_iff_eq_none.mp hopen
  obtain ⟨pre, username, password, sessionId, issued, row, post, hsplit, hsigns, hlogin, halong⟩ :=
    run_origin crypto policies clock events session hsession hrevoked
  refine ⟨pre, username, password, sessionId, issued, row, post, session, hsplit, hsigns, ?_, ?_,
    hlogin, hexpires, halong⟩
  · calc row.id = session.userId := hlogin.userId.symm
      _ = found.id := (Table.find?_key hfound).symm
  · calc crypto.hashToken issued = session.tokenHash := hlogin.tokenHash.symm
      _ = crypto.hashToken token := htoken

/-- The first administrator is accepted with the token of his login. -/
theorem accepted_session_origin_signedIn :
    ∃ pre username password sessionId issued row post session,
      signedIn = pre ++ .serve (.loginUser username password sessionId issued) :: post
        ∧ SignsIn plainCrypto {} (run (Event.perform plainCrypto {}) { clock := 0 } pre) username
            password row
        ∧ row.id = "u"
        ∧ plainCrypto.hashToken issued = plainCrypto.hashToken "t"
        ∧ (openedSession plainCrypto {} (run (Event.perform plainCrypto {}) { clock := 0 } pre) row
            sessionId issued).Continues session
        ∧ (run (Event.perform plainCrypto {}) { clock := 0 } signedIn).clock < session.expiresAt
        ∧ Along (Event.perform plainCrypto {}) (LeavesOpen plainCrypto {} session)
            (run (Event.perform plainCrypto {}) { clock := 0 }
              (pre ++ [.serve (.loginUser username password sessionId issued)])) post :=
  accepted_session_origin plainCrypto {} 0 signedIn "t"
    { id := "u", username := "admin", role := "admin", effectiveRole := "admin",
      enabled := true, mustChangePassword := false } rfl

end Origin

end LightAI.Users
