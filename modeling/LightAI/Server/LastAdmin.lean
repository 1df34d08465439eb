import LightAI.Base.Interleaving
import LightAI.Server.Sessions

/-!
# The last administrator

`update_user_with_policy` counts the other enabled administrators in one statement and takes the role
or the access away in a later one. Requests that are served one at a time always leave an enabled
administrator; two that are served together may not.
-/

namespace LightAI.Users

open Fallible Interleaving Trace

/-- The statements of requests under way in any order, while the wall clock moves. -/
def accountsServer (crypto : Crypto) (policies : Policies) :
    System Request Int Stmt Stmt.Answer Accounts (Except String Unit) where
  handle request := (request.handler crypto policies).run
  exec := Stmt.exec
  act now accounts := { accounts with clock := now }

def User.IsAdmin (user : User) : Prop := user.role = "admin" ∧ user.enabled = true

instance (user : User) : Decidable user.IsAdmin := by
  unfold User.IsAdmin
  infer_instance

/-- Some enabled user has the role of an administrator himself. -/
def HasAdmin (accounts : Accounts) : Prop := ∃ user ∈ accounts.users.rows, user.IsAdmin

instance (accounts : Accounts) : Decidable (HasAdmin accounts) := by
  unfold HasAdmin
  infer_instance

theorem otherAdmins_ne_zero {accounts : Accounts} {id : String} :
    accounts.otherAdmins id ≠ 0 ↔ ∃ user ∈ accounts.users.rows, user.id ≠ id ∧ user.IsAdmin := by
  unfold Accounts.otherAdmins User.IsAdmin
  rw [Nat.ne_zero_iff_zero_lt, List.length_pos_iff_exists_mem]
  simp only [List.mem_filter, ne_eq, decide_not, Bool.and_eq_true, Bool.not_eq_true',
    decide_eq_false_iff_not, decide_eq_true_eq, and_assoc]

/-! ### What a statement does to the administrators -/

/-- The user from whom a statement takes the role or the access of an administrator. -/
def Stmt.demotes : Stmt → Option String
  | updateUserAccess id role enabled _ | updateUserAccessAndPassword id _ role enabled _ =>
      if role = "admin" && enabled then none else some id
  | _ => none

/-- If the statement demotes an administrator, the guard of `update_user_with_policy` would let it pass
at this moment. -/
def GuardHolds (accounts : Accounts) (stmt : Stmt) : Prop :=
  ∀ id, stmt.demotes = some id → (∃ user, accounts.users.find? id = some user ∧ user.IsAdmin) →
    accounts.otherAdmins id ≠ 0

theorem hasAdmin_of_users {accounts accounts' : Accounts} (hsame : accounts'.users = accounts.users) :
    HasAdmin accounts' ↔ HasAdmin accounts := by
  unfold HasAdmin
  rw [hsame]

theorem hasAdmin_insertUser {accounts : Accounts} (user : User) (hadmin : HasAdmin accounts) :
    HasAdmin (accounts.insertUser user).2 := by
  obtain ⟨admin, hrow, hrole⟩ := hadmin
  have hfound := @find?_insertUser accounts user admin admin.id (Table.find?_of_mem hrow)
  exact ⟨admin, Table.find?_mem hfound, hrole⟩

/-- After an `UPDATE` of one user there is an administrator exactly if he is one now, or another is. -/
theorem hasAdmin_writeUser {accounts : Accounts} {id : String} {write : User → User}
    {hid : ∀ user, (write user).id = user.id} :
    HasAdmin (accounts.writeUser id write hid)
      ↔ (∃ user, accounts.users.find? id = some user ∧ (write user).IsAdmin)
        ∨ ∃ user ∈ accounts.users.rows, user.id ≠ id ∧ user.IsAdmin := by
  unfold HasAdmin Accounts.writeUser Table.update
  simp only [Table.mem_updateWhere]
  constructor
  · rintro ⟨_, ⟨user, hrow, rfl⟩, hadmin⟩
    by_cases hmine : user.id = id
    · rw [if_pos (decide_eq_true hmine)] at hadmin
      exact Or.inl ⟨user, hmine ▸ Table.find?_of_mem hrow, hadmin⟩
    · rw [if_neg fun h => hmine (of_decide_eq_true h)] at hadmin
      exact Or.inr ⟨user, hrow, hmine, hadmin⟩
  · rintro (⟨user, hfind, hadmin⟩ | ⟨user, hrow, hother, hadmin⟩)
    · have hmine : user.id = id := Table.find?_key hfind
      exact ⟨write user, ⟨user, Table.find?_mem hfind, (if_pos (decide_eq_true hmine)).symm⟩, hadmin⟩
    · have hkept : ¬ decide (user.id = id) = true := fun h => hother (of_decide_eq_true h)
      exact ⟨user, ⟨user, hrow, (if_neg hkept).symm⟩, hadmin⟩

/-- An `UPDATE` that sets the role and the access of a user keeps an administrator exactly if it leaves
him one, or he was none, or another one is counted. -/
theorem hasAdmin_setAccess {accounts : Accounts} {id role : String} {enabled : Bool}
    (write : User → User) (hid : ∀ user, (write user).id = user.id)
    (hrole : ∀ user, (write user).role = role) (henabled : ∀ user, (write user).enabled = enabled)
    (hadmin : HasAdmin accounts) :
    HasAdmin (accounts.writeUser id write hid)
      ↔ ∀ demoted, (if role = "admin" && enabled then none else some id) = some demoted →
        (∃ user, accounts.users.find? demoted = some user ∧ user.IsAdmin) →
          accounts.otherAdmins demoted ≠ 0 := by
  rw [hasAdmin_writeUser]
  by_cases hkeeps : (role = "admin" && enabled) = true
  · rw [if_pos hkeeps]
    obtain ⟨hname, hopen⟩ := Bool.and_eq_true_iff.mp hkeeps
    have hnext : ∀ user, (write user).IsAdmin := fun user =>
      ⟨(hrole user).trans (of_decide_eq_true hname), (henabled user).trans hopen⟩
    refine ⟨fun _ demoted hdemoted => (by cases hdemoted), fun _ => ?_⟩
    obtain ⟨admin, hrow, hisAdmin⟩ := hadmin
    by_cases hmine : admin.id = id
    · exact Or.inl ⟨admin, hmine ▸ Table.find?_of_mem hrow, hnext admin⟩
    · exact Or.inr ⟨admin, hrow, hmine, hisAdmin⟩
  · rw [if_neg hkeeps]
    have hnext : ∀ user, ¬ (write user).IsAdmin := by
      rintro user ⟨hname, hopen⟩
      rw [hrole] at hname
      rw [henabled] at hopen
      exact hkeeps (Bool.and_eq_true_iff.mpr ⟨decide_eq_true hname, hopen⟩)
    constructor
    · rintro (⟨user, -, hisAdmin⟩ | hother) demoted hdemoted -
      · exact absurd hisAdmin (hnext user)
      · cases hdemoted
        exact otherAdmins_ne_zero.mpr hother
    · intro hguard
      right
      obtain ⟨admin, hrow, hisAdmin⟩ := hadmin
      by_cases hmine : admin.id = id
      · exact otherAdmins_ne_zero.mp
          (hguard id rfl ⟨admin, hmine ▸ Table.find?_of_mem hrow, hisAdmin⟩)
      · exact ⟨admin, hrow, hmine, hisAdmin⟩

/-- A statement leaves an administrator exactly if the guard would let it pass. -/
theorem hasAdmin_exec {accounts : Accounts} (stmt : Stmt) (hadmin : HasAdmin accounts) :
    HasAdmin (stmt.exec accounts).2 ↔ GuardHolds accounts stmt := by
  have hpasses : ∀ stmt : Stmt, stmt.demotes = none → GuardHolds accounts stmt := by
    intro stmt hnone id hdemotes
    rw [hnone] at hdemotes
    cases hdemotes
  cases stmt with
  | updateUserAccess id role enabled now =>
      exact hasAdmin_setAccess (·.setAccess role enabled now) (setAccess_id role enabled now)
        (fun _ => rfl) (fun _ => rfl) hadmin
  | updateUserAccessAndPassword id passwordHash role enabled now =>
      exact hasAdmin_setAccess (·.setAccessAndPassword passwordHash role enabled now)
        (setAccessAndPassword_id passwordHash role enabled now) (fun _ => rfl) (fun _ => rfl) hadmin
  | updateUserPassword id passwordHash mustChangePassword now =>
      refine iff_of_true (hasAdmin_writeUser.mpr ?_) (hpasses _ rfl)
      obtain ⟨admin, hrow, hisAdmin⟩ := hadmin
      by_cases hmine : admin.id = id
      · exact Or.inl ⟨admin, hmine ▸ Table.find?_of_mem hrow, hisAdmin⟩
      · exact Or.inr ⟨admin, hrow, hmine, hisAdmin⟩
  | insertFirstUser user =>
      refine iff_of_true ?_ (hpasses _ rfl)
      rw [exec_insertFirstUser]
      split
      · exact hasAdmin_insertUser user hadmin
      · exact hadmin
  | insertUser user => exact iff_of_true (hasAdmin_insertUser user hadmin) (hpasses _ rfl)
  | insertSession session =>
      refine iff_of_true ((hasAdmin_of_users ?_).mpr hadmin) (hpasses _ rfl)
      exact insertSession_users session accounts
  | insertGroup group =>
      have hsame := exec_aboutGroups (.insertGroup group) accounts trivial
      exact iff_of_true ((hasAdmin_of_users hsame.users).mpr hadmin) (hpasses _ rfl)
  | updateGroup id name role enabled now =>
      have hsame := exec_aboutGroups (.updateGroup id name role enabled now) accounts trivial
      exact iff_of_true ((hasAdmin_of_users hsame.users).mpr hadmin) (hpasses _ rfl)
  | replaceMembers groupId userIds =>
      have hsame := exec_aboutGroups (.replaceMembers groupId userIds) accounts trivial
      exact iff_of_true ((hasAdmin_of_users hsame.users).mpr hadmin) (hpasses _ rfl)
  | _ => exact iff_of_true hadmin (hpasses _ rfl)

/-! ### Requests one at a time -/

/-- Served alone, every request leaves an administrator: what the guard has counted is still there when
the `UPDATE` is made. -/
theorem hasAdmin_serve {crypto : Crypto} {policies : Policies} {accounts : Accounts}
    (request : Request) (hadmin : HasAdmin accounts) :
    HasAdmin (serve Stmt.exec (request.handler crypto policies) accounts).2 := by
  have heffect := handler_effect crypto policies request accounts
  generalize (serve Stmt.exec (request.handler crypto policies) accounts).2 = accounts' at heffect ⊢
  cases heffect with
  | nothing => exact hadmin
  | addUser _ user henabled => exact hasAdmin_insertUser user hadmin
  | updateUser id update salt row write hid hrow hrole henabled hguard =>
      have hwritten : HasAdmin (accounts.writeUser id write hid) := by
        refine (hasAdmin_setAccess write hid hrole henabled hadmin).mpr ?_
        rintro demoted hdemoted ⟨user, huser, hisAdmin⟩
        split at hdemoted
        · cases hdemoted
        · rename_i hkeeps
          cases hdemoted
          obtain rfl := Option.some.inj (huser.symm.trans hrow)
          refine hguard ?_
          unfold DemotesAdmin
          rw [Bool.and_eq_true, not_and_or, hisAdmin.1] at hkeeps
          rw [hisAdmin.1]
          obtain hname | hclosed := hkeeps
          · have hother : update.role.getD "admin" ≠ "admin" := fun h => hname (decide_eq_true h)
            simp [hother]
          · simp [hclosed]
      split
      · exact hwritten
      · exact (hasAdmin_of_users (endSessions_users _ id)).mpr hwritten
  | login username password sessionId token row hrow henabled =>
      exact (hasAdmin_of_users (insertSession_users _ accounts)).mpr hadmin
  | setPassword _ id passwordHash mustChangePassword hother =>
      exact (hasAdmin_exec (.updateUserPassword id passwordHash mustChangePassword accounts.clock)
        hadmin).mpr fun _ hdemotes => by cases hdemotes
  | _ => exact (hasAdmin_of_users rfl).mpr hadmin

/-! ### Requests together -/

/-- In every run from a state with an administrator there always is one, if and only if every `UPDATE`
that demotes one is made while the count of the guard is still not zero. -/
theorem always_hasAdmin_iff {crypto : Crypto} {policies : Policies}
    (c : Config Request Stmt Stmt.Answer Accounts (Except String Unit))
    (events : List (Interleaving.Event Request Int)) (hadmin : HasAdmin c.shared) :
    Always (accountsServer crypto policies).apply (fun c => HasAdmin c.shared) c events
      ↔ Along (accountsServer crypto policies).apply
        (fun c e => ∀ t stmt, System.performed c e = some (t, stmt) → GuardHolds c.shared stmt)
        c events := by
  have htrue : ∀ c e, (fun _ : Config Request Stmt Stmt.Answer Accounts (Except String Unit) => True) c →
      (fun _ => True) ((accountsServer crypto policies).apply c e) := fun _ _ _ => trivial
  refine always_iff_along htrue ?_ trivial hadmin
  intro c e _ hadmin
  obtain ⟨t, stmt, hperf, hshared⟩ | ⟨hnone, now, hshared⟩ | ⟨hnone, hshared⟩ :=
    System.apply_shared (M := accountsServer crypto policies) c e
  · rw [hshared]
    refine (hasAdmin_exec stmt hadmin).trans ⟨fun hguard t' stmt' hperf' => ?_, fun hall => ?_⟩
    · rw [hperf] at hperf'
      cases hperf'
      exact hguard
    · exact hall t stmt hperf
  · rw [hshared]
    refine iff_of_true hadmin fun t stmt hperf => ?_
    rw [hnone] at hperf
    cases hperf
  · rw [hshared]
    refine iff_of_true hadmin fun t stmt hperf => ?_
    rw [hnone] at hperf
    cases hperf

def secondAdmin : User := { firstAdmin with id := "v", username := "second" }

def twoAdmins : Accounts := { clock := 0, users := ⟨[firstAdmin, secondAdmin], by decide⟩ }

/-- Each of two administrators is disabled by the other. Both counts are made before either `UPDATE`. -/
def crossing : List (Interleaving.Event Request Int) :=
  [.spawn (.updateUser "u" { enabled := some false } "a"),
    .spawn (.updateUser "v" { enabled := some false } "b"),
    .step 0, .step 0, .step 0, .step 0, .step 1, .step 1, .step 1, .step 1, .step 0, .step 1]

theorem no_admin_after_crossing :
    HasAdmin twoAdmins ∧ ¬ Always (accountsServer plainCrypto {}).apply
      (fun c => HasAdmin c.shared) { shared := twoAdmins } crossing := by
  refine ⟨by decide, fun halways => ?_⟩
  have hlast := halways crossing [] (List.append_nil crossing).symm
  revert hlast
  change ¬ HasAdmin ((accountsServer plainCrypto {}).run { shared := twoAdmins } crossing).shared
  decide

theorem always_hasAdmin_at_two :
    Always (accountsServer plainCrypto {}).apply (fun c => HasAdmin c.shared)
        { shared := twoAdmins } crossing
      ↔ Along (accountsServer plainCrypto {}).apply
        (fun c e => ∀ t stmt, System.performed c e = some (t, stmt) → GuardHolds c.shared stmt)
        { shared := twoAdmins } crossing :=
  always_hasAdmin_iff { shared := twoAdmins } crossing (by decide)

end LightAI.Users
