import LightAI.Base.Noting
import LightAI.Base.Trace
import LightAI.Agent.Ollama

/-!
# The address of a daemon that is used again

A daemon is registered under its runtime environment, without the address that it was spawned with. Whether
the address that a call returns is the daemon's is seen from notes: which URLs have answered, and with which
address each registered daemon was spawned. A call returns an address that is neither only where a daemon is
registered that was spawned with another one.
-/

namespace LightAI.Agent

/-! ### Notes -/

/-- What is remembered of the operations of the agent. -/
structure DaemonNotes where
  /-- The URLs at which `/api/tags` has answered. -/
  answered : List String := []
  /-- The `OLLAMA_HOST` of the daemon that was spawned last. -/
  spawned : String := ""
  /-- The `OLLAMA_HOST` of each registered daemon. -/
  address : String → Option String := fun _ => none

def noteCall (moment : Moment) (c : Call) (notes : DaemonNotes) : DaemonNotes :=
  match c with
  | .apiTagsReachable url =>
      if moment.answer (.apiTagsReachable url) then { notes with answered := url :: notes.answered }
      else notes
  | .spawnDaemon _ vars => { notes with spawned := (vars.lookup "OLLAMA_HOST").getD "" }
  | _ => notes

def note (env : Nat → Moment) (op : Op) (w : World) (notes : DaemonNotes) : DaemonNotes :=
  match op with
  | .insertDaemon runtimeEnvId _ =>
      { notes with address := Function.update notes.address runtimeEnvId (some notes.spawned) }
  | .removeDaemon runtimeEnvId =>
      { notes with address := Function.update notes.address runtimeEnvId none }
  | .call c => noteCall (env w.now) c notes
  | _ => notes

abbrev Noted := World × DaemonNotes

def runNoted {α : Type} (env : Nat → Moment) (program : Async α) (s : Noted) : α × Noted :=
  program.run (Program.noting (Op.exec env) (note env)) s

section Noted

variable {env : Nat → Moment} {α β : Type}

theorem runNoted_bind (program : Async α) (f : α → Async β) (s : Noted) :
    runNoted env (program >>= f) s
      = runNoted env (f (runNoted env program s).1) (runNoted env program s).2 :=
  Program.run_bind _ program f s

theorem runNoted_await_bind (c : Call) (f : c.Answer → Async α) (s : Noted) :
    runNoted env (await c >>= f) s
      = runNoted env (f ((env s.1.now).answer c)) (s.1.tick, noteCall (env s.1.now) c s.2) := rfl

theorem runNoted_perform_bind (op : Op) (f : op.Answer → Async α) (s : Noted) :
    runNoted env (perform op >>= f) s
      = runNoted env (f (op.exec env s.1).1) ((op.exec env s.1).2, note env op s.1 s.2) := rfl

end Noted

/-! ### What is noted of a daemon that is used -/

/-- The host and port of a configuration, as `OLLAMA_HOST` has them. -/
def OllamaRuntimeConfig.hostPort (cfg : OllamaRuntimeConfig) : String :=
  cfg.host ++ ":" ++ toString cfg.port

theorem OllamaRuntimeConfig.apiBase_eq (cfg : OllamaRuntimeConfig) :
    cfg.apiBase = "http://" ++ cfg.hostPort := by
  apply String.toList_inj.mp
  simp only [apiBase, hostPort, String.toList_append, List.append_assoc]

theorem OllamaRuntimeConfig.apiBase_eq_iff (cfg : OllamaRuntimeConfig) (address : String) :
    cfg.apiBase = "http://" ++ address ↔ address = cfg.hostPort := by
  rw [cfg.apiBase_eq, ← String.toList_inj, String.toList_append, String.toList_append,
    List.append_cancel_left_eq, String.toList_inj]
  exact eq_comm

/-! ### A daemon that is started answers -/

/-- Whatever the program returns is at `url`, which has answered by then. -/
def Answers (env : Nat → Moment) (url : String) (program : Async (Except String EnsuredDaemon)) : Prop :=
  ∀ s daemon, (runNoted env program s).1 = .ok daemon →
    daemon.baseUrl = url ∧ url ∈ (runNoted env program s).2.2.answered

section Answers

variable {env : Nat → Moment} {url : String}

theorem answers_error (error : String) : Answers env url (pure (.error error)) := by
  intro s daemon hdaemon
  cases hdaemon

theorem Answers.await_bind {c : Call} {f : c.Answer → Async (Except String EnsuredDaemon)}
    (h : ∀ answer, Answers env url (f answer)) : Answers env url (await c >>= f) := by
  intro s daemon hdaemon
  rw [runNoted_await_bind] at hdaemon ⊢
  exact h _ _ daemon hdaemon

theorem awaitDaemon_answered (rounds : Nat) (s : Noted)
    (h : (runNoted env (awaitDaemon url rounds) s).1 = true) :
    url ∈ (runNoted env (awaitDaemon url rounds) s).2.2.answered := by
  induction rounds generalizing s with
  | zero => cases h
  | succ rounds ih =>
      rw [awaitDaemon, runNoted_await_bind] at h ⊢
      by_cases hanswer : (env s.1.now).answer (.apiTagsReachable url) = true
      · rw [if_pos hanswer]
        have hnoted : url ∈ (noteCall (env s.1.now) (.apiTagsReachable url) s.2).answered := by
          simp [noteCall, hanswer]
        exact hnoted
      · rw [if_neg hanswer] at h ⊢
        exact ih _ h

theorem adoptDaemon_answers (runtimeEnvId logDir logPath : String) (child : Child) :
    Answers env url (adoptDaemon runtimeEnvId logDir url logPath child) := by
  apply Answers.await_bind
  intro rounds s daemon hdaemon
  rw [runNoted_bind] at hdaemon ⊢
  by_cases hready : (runNoted env (awaitDaemon url rounds) s).1 = true
  · have hanswered := awaitDaemon_answered rounds s hready
    rw [if_pos hready, runNoted_perform_bind] at hdaemon ⊢
    rw [← Except.ok.inj hdaemon]
    exact ⟨rfl, hanswered⟩
  · rw [if_neg hready] at hdaemon
    cases hdaemon

theorem daemonNotSpawned_answers (runtimeEnvId logDir startErr : String) :
    Answers env url (daemonNotSpawned runtimeEnvId logDir url startErr) := by
  unfold daemonNotSpawned
  split
  · intro s daemon hdaemon
    rw [runNoted_await_bind] at hdaemon ⊢
    by_cases hanswer : (env s.1.now).answer (.apiTagsReachable url) = true
    · rw [if_pos hanswer, runNoted_await_bind] at hdaemon ⊢
      have hnoted : url ∈ (noteCall (env s.1.now) (.apiTagsReachable url) s.2).answered := by
        simp [noteCall, hanswer]
      cases hopened : (env s.1.tick.now).answer (.daemonLogPath logDir runtimeEnvId) with
      | error error =>
          rw [hopened] at hdaemon
          cases hdaemon
      | ok logPath =>
          rw [hopened] at hdaemon
          rw [← Except.ok.inj hdaemon]
          exact ⟨rfl, hnoted⟩
    · rw [if_neg hanswer] at hdaemon
      cases hdaemon
  · exact answers_error _

theorem launchDaemon_answers (runtimeEnvId binaryPath logDir : String) (cfg : OllamaRuntimeConfig) :
    Answers env cfg.apiBase (launchDaemon runtimeEnvId binaryPath logDir cfg) := by
  apply Answers.await_bind
  intro opened
  cases opened with
  | error error => exact answers_error error
  | ok logPath =>
      apply Answers.await_bind
      intro spawned
      cases spawned with
      | ok child => exact adoptDaemon_answers runtimeEnvId logDir logPath child
      | error startErr => exact daemonNotSpawned_answers runtimeEnvId logDir startErr

theorem startDaemon_answers (runtimeEnvId binaryPath logDir : String) (cfg : OllamaRuntimeConfig) :
    Answers env cfg.apiBase (startDaemon runtimeEnvId binaryPath logDir cfg) := by
  intro s daemon hdaemon
  exact launchDaemon_answers runtimeEnvId binaryPath logDir cfg _ daemon hdaemon

end Answers

/-! ### One call -/

/-- One call of `ensure_daemon`. -/
structure EnsureCall where
  runtimeEnvId : String
  binaryPath : String
  logDir : String
  cfg : OllamaRuntimeConfig

def EnsureCall.program (c : EnsureCall) : Async (Except String EnsuredDaemon) :=
  ensureDaemon c.runtimeEnvId c.binaryPath c.logDir c.cfg

/-- What a call does, with notes of its own about what answers. -/
def EnsureCall.exec (env : Nat → Moment) (c : EnsureCall) (s : Noted) :
    Except String EnsuredDaemon × Noted :=
  runNoted env c.program (s.1, { s.2 with answered := [] })

/-- Whatever the call returns has answered at its address during the call or is registered with it. -/
def AtItsAddress (env : Nat → Moment) (s : Noted) (c : EnsureCall) : Prop :=
  ∀ daemon, (c.exec env s).1 = .ok daemon →
    daemon.baseUrl ∈ (c.exec env s).2.2.answered ∨
      ∃ address, (c.exec env s).2.2.address c.runtimeEnvId = some address ∧
        daemon.baseUrl = "http://" ++ address

/-- Where the address of the configuration does not answer, a registered daemon that still runs was spawned
with it. -/
def SameAddress (env : Nat → Moment) (s : Noted) (c : EnsureCall) : Prop :=
  (env s.1.now).answer (.apiTagsReachable c.cfg.apiBase) = false →
    ∀ handle, s.1.daemons c.runtimeEnvId = some handle →
      (env (s.1.now + 2)).answer (.tryWait handle.child) = .ok none →
        s.2.address c.runtimeEnvId = some c.cfg.hostPort

section Call

variable {env : Nat → Moment} {s : Noted} {c : EnsureCall}

/-- The notes with which the programs of a call start. -/
def Noted.fresh (s : Noted) : Noted := (s.1, { s.2 with answered := [] })

theorem exec_of_reachable (h : (env s.1.now).answer (.apiTagsReachable c.cfg.apiBase) = true) :
    AtItsAddress env s c := by
  intro daemon hdaemon
  left
  unfold EnsureCall.exec EnsureCall.program ensureDaemon at hdaemon ⊢
  rw [runNoted_await_bind, if_pos h, runNoted_await_bind] at hdaemon ⊢
  have hnoted : c.cfg.apiBase
      ∈ (noteCall (env s.1.now) (.apiTagsReachable c.cfg.apiBase) s.fresh.2).answered := by
    simp [noteCall, h]
  rw [← Except.ok.inj hdaemon]
  exact hnoted

theorem liveDaemon_of_running {runtimeEnvId : String} {handle : DaemonHandle}
    (hhandle : s.1.daemons runtimeEnvId = some handle)
    (hwaited : (env (s.1.now + 1)).answer (.tryWait handle.child) = .ok none) :
    runNoted env (liveDaemon runtimeEnvId) s = (some handle, (s.1.tick.tick, s.2)) := by
  have hfound : (Op.exec env (.findDaemon runtimeEnvId) s.1).1 = some handle := hhandle
  rw [liveDaemon, runNoted_perform_bind, hfound]
  have hwaited' : (env s.1.tick.now).answer (.tryWait handle.child) = .ok none := hwaited
  have hnext : (Op.exec env (.findDaemon runtimeEnvId) s.1).2 = s.1.tick := rfl
  dsimp only
  rw [runNoted_await_bind, hnext, hwaited']
  rfl

/-- A daemon is found alive only as it is registered and still runs. -/
theorem liveDaemon_some {runtimeEnvId : String} {handle : DaemonHandle}
    (h : (runNoted env (liveDaemon runtimeEnvId) s).1 = some handle) :
    s.1.daemons runtimeEnvId = some handle ∧
      (env (s.1.now + 1)).answer (.tryWait handle.child) = .ok none := by
  have hfound : (Op.exec env (.findDaemon runtimeEnvId) s.1).1 = s.1.daemons runtimeEnvId := rfl
  rw [liveDaemon, runNoted_perform_bind, hfound] at h
  cases hhandle : s.1.daemons runtimeEnvId with
  | none =>
      rw [hhandle] at h
      cases h
  | some registered =>
      rw [hhandle] at h
      dsimp only at h
      rw [runNoted_await_bind] at h
      have hnext : (Op.exec env (.findDaemon runtimeEnvId) s.1).2.now = s.1.now + 1 := rfl
      rw [hnext] at h
      cases hwaited : (env (s.1.now + 1)).answer (.tryWait registered.child) with
      | error error =>
          rw [hwaited] at h
          cases h
      | ok status =>
          rw [hwaited] at h
          cases status with
          | some status => cases h
          | none =>
              have heq : registered = handle := Option.some.inj h
              rw [← heq]
              exact ⟨rfl, hwaited⟩

theorem exec_of_unreachable (h : (env s.1.now).answer (.apiTagsReachable c.cfg.apiBase) = false) :
    c.exec env s = runNoted env (liveDaemon c.runtimeEnvId >>= fun live =>
      match live with
      | some handle =>
          pure (.ok
            { baseUrl := c.cfg.apiBase, logPath := handle.logPath, action := "reused_existing_daemon" })
      | none => startDaemon c.runtimeEnvId c.binaryPath c.logDir c.cfg) (s.1.tick, s.fresh.2) := by
  unfold EnsureCall.exec EnsureCall.program ensureDaemon
  rw [runNoted_await_bind]
  have hnoted : noteCall (env s.1.now) (.apiTagsReachable c.cfg.apiBase) s.fresh.2 = s.fresh.2 := by
    simp [noteCall, h]
  have hunreachable : ¬(env s.1.now).answer (.apiTagsReachable c.cfg.apiBase) = true := by
    rw [h]
    exact Bool.false_ne_true
  dsimp only
  rw [if_neg hunreachable]
  exact congrArg (fun notes => runNoted env _ (s.1.tick, notes)) hnoted

/-- A call that uses a registered daemon returns the address of its configuration, whatever the daemon's is. -/
theorem exec_of_running {handle : DaemonHandle}
    (h : (env s.1.now).answer (.apiTagsReachable c.cfg.apiBase) = false)
    (hhandle : s.1.daemons c.runtimeEnvId = some handle)
    (hwaited : (env (s.1.now + 2)).answer (.tryWait handle.child) = .ok none) :
    c.exec env s
      = (.ok { baseUrl := c.cfg.apiBase, logPath := handle.logPath, action := "reused_existing_daemon" },
        (s.1.tick.tick.tick, s.fresh.2)) := by
  have hlive : runNoted env (liveDaemon c.runtimeEnvId) (s.1.tick, s.fresh.2)
      = (some handle, (s.1.tick.tick.tick, s.fresh.2)) := liveDaemon_of_running hhandle hwaited
  rw [exec_of_unreachable h, runNoted_bind, hlive]
  rfl

/-- A call that has to start a daemon returns only where the daemon answers. -/
theorem exec_of_started (h : (env s.1.now).answer (.apiTagsReachable c.cfg.apiBase) = false)
    (hlive : ∀ handle, s.1.daemons c.runtimeEnvId = some handle →
      (env (s.1.now + 2)).answer (.tryWait handle.child) ≠ .ok none) :
    AtItsAddress env s c := by
  have hnone : (runNoted env (liveDaemon c.runtimeEnvId) (s.1.tick, s.fresh.2)).1 = none := by
    by_contra hsome
    obtain ⟨handle, hhandle⟩ := Option.ne_none_iff_exists'.mp hsome
    obtain ⟨hregistered, hwaited⟩ := liveDaemon_some hhandle
    exact hlive handle hregistered hwaited
  intro daemon hdaemon
  left
  rw [exec_of_unreachable h, runNoted_bind, hnone] at hdaemon ⊢
  obtain ⟨hurl, hanswered⟩ := startDaemon_answers _ _ _ _ _ daemon hdaemon
  rw [hurl]
  exact hanswered

/-- A call keeps to the address exactly where it does not take up a daemon of another address. -/
theorem atItsAddress_iff (env : Nat → Moment) (s : Noted) (c : EnsureCall) :
    AtItsAddress env s c ↔ SameAddress env s c := by
  by_cases hreachable : (env s.1.now).answer (.apiTagsReachable c.cfg.apiBase) = true
  · have hsame : SameAddress env s c := by
      intro hunreachable
      rw [hreachable] at hunreachable
      cases hunreachable
    exact ⟨fun _ => hsame, fun _ => exec_of_reachable hreachable⟩
  rw [Bool.not_eq_true] at hreachable
  constructor
  · intro hat _ handle hhandle hwaited
    have hexec := exec_of_running hreachable hhandle hwaited
    unfold AtItsAddress at hat
    rw [hexec] at hat
    rcases hat _ rfl with hanswered | ⟨address, haddress, hurl⟩
    · exact absurd hanswered List.not_mem_nil
    · rw [← (c.cfg.apiBase_eq_iff address).mp hurl]
      exact haddress
  · intro hsame
    by_cases hlive : ∃ handle, s.1.daemons c.runtimeEnvId = some handle ∧
        (env (s.1.now + 2)).answer (.tryWait handle.child) = .ok none
    · obtain ⟨handle, hhandle, hwaited⟩ := hlive
      intro daemon hdaemon
      rw [exec_of_running hreachable hhandle hwaited] at hdaemon ⊢
      right
      refine ⟨c.cfg.hostPort, hsame hreachable handle hhandle hwaited, ?_⟩
      rw [← Except.ok.inj hdaemon]
      exact c.cfg.apiBase_eq
    · apply exec_of_started hreachable
      intro handle hhandle hwaited
      exact hlive ⟨handle, hhandle, hwaited⟩

end Call

/-! ### Every sequence of calls -/

/-- The agent after a call. -/
def EnsureCall.step (env : Nat → Moment) (s : Noted) (c : EnsureCall) : Noted := (c.exec env s).2

/-- A registered daemon was spawned with the host and port that its runtime environment is assigned. -/
def Registered (assigned : String → String) (s : Noted) : Prop :=
  ∀ runtimeEnvId handle, s.1.daemons runtimeEnvId = some handle →
    s.2.address runtimeEnvId = some (assigned runtimeEnvId)

section Registered

variable {env : Nat → Moment} {assigned : String → String} {runtimeEnvId : String}

/-- What a program leaves alone that only asks. -/
structure Kept (s t : Noted) : Prop where
  daemons : t.1.daemons = s.1.daemons
  address : t.2.address = s.2.address
  spawned : t.2.spawned = s.2.spawned

theorem Registered.of_kept {s t : Noted} (h : Registered assigned s) (hkept : Kept s t) :
    Registered assigned t := by
  intro id handle hhandle
  rw [hkept.daemons] at hhandle
  rw [hkept.address]
  exact h id handle hhandle

theorem kept_apiTagsReachable (env : Nat → Moment) (url : String) (s : Noted) :
    Kept s (s.1.tick, noteCall (env s.1.now) (.apiTagsReachable url) s.2) := by
  by_cases hanswer : (env s.1.now).answer (.apiTagsReachable url) = true
  · simp only [noteCall, if_pos hanswer]
    exact ⟨rfl, rfl, rfl⟩
  · simp only [noteCall, if_neg hanswer]
    exact ⟨rfl, rfl, rfl⟩

theorem kept_liveDaemon (s : Noted) : Kept s (runNoted env (liveDaemon runtimeEnvId) s).2 := by
  rw [liveDaemon, runNoted_perform_bind]
  split
  · exact ⟨rfl, rfl, rfl⟩
  · rw [runNoted_await_bind]
    split
    · exact ⟨rfl, rfl, rfl⟩
    · exact ⟨rfl, rfl, rfl⟩

theorem kept_awaitDaemon (env : Nat → Moment) (url : String) (rounds : Nat) (s : Noted) :
    Kept s (runNoted env (awaitDaemon url rounds) s).2 := by
  induction rounds generalizing s with
  | zero => exact ⟨rfl, rfl, rfl⟩
  | succ rounds ih =>
      have hasked := kept_apiTagsReachable env url s
      rw [awaitDaemon, runNoted_await_bind]
      split
      · exact hasked
      · have hrest := ih (s.1.tick, noteCall (env s.1.now) (.apiTagsReachable url) s.2)
        exact ⟨hrest.daemons.trans hasked.daemons, hrest.address.trans hasked.address,
          hrest.spawned.trans hasked.spawned⟩

theorem registered_insert {s : Noted} {handle : DaemonHandle} (h : Registered assigned s)
    (hspawned : s.2.spawned = assigned runtimeEnvId) :
    Registered assigned ((Op.exec env (.insertDaemon runtimeEnvId handle) s.1).2,
      note env (.insertDaemon runtimeEnvId handle) s.1 s.2) := by
  intro id found hfound
  have haddress : Function.update s.2.address runtimeEnvId (some s.2.spawned) id
      = some (assigned id) := by
    by_cases hid : id = runtimeEnvId
    · rw [hid, Function.update_self, hspawned]
    · have hold : s.1.daemons id = some found := by
        rw [← hfound]
        exact (Function.update_of_ne hid _ _).symm
      rw [Function.update_of_ne hid]
      exact h id found hold
  exact haddress

theorem registered_remove {s : Noted} (env : Nat → Moment) (runtimeEnvId : String)
    (h : Registered assigned s) :
    Registered assigned ((Op.exec env (.removeDaemon runtimeEnvId) s.1).2,
      note env (.removeDaemon runtimeEnvId) s.1 s.2) := by
  intro id found hfound
  have hupdated : Function.update s.1.daemons runtimeEnvId none id = some found := hfound
  have hid : id ≠ runtimeEnvId := by
    intro heq
    rw [heq, Function.update_self] at hupdated
    cases hupdated
  rw [Function.update_of_ne hid] at hupdated
  have haddress : Function.update s.2.address runtimeEnvId none id = some (assigned id) := by
    rw [Function.update_of_ne hid]
    exact h id found hupdated
  exact haddress

theorem registered_adoptDaemon {s : Noted} (logDir url logPath : String) (child : Child)
    (h : Registered assigned s) (hspawned : s.2.spawned = assigned runtimeEnvId) :
    Registered assigned (runNoted env (adoptDaemon runtimeEnvId logDir url logPath child) s).2 := by
  unfold adoptDaemon
  rw [runNoted_await_bind, runNoted_bind]
  have hkept := kept_awaitDaemon env url ((env s.1.now).answer .daemonRounds)
    (s.1.tick, noteCall (env s.1.now) .daemonRounds s.2)
  have hwaited := Registered.of_kept (s := (s.1.tick, noteCall (env s.1.now) .daemonRounds s.2)) h hkept
  split
  · exact registered_insert hwaited (hkept.spawned.trans hspawned)
  · exact hwaited

theorem registered_daemonNotSpawned {s : Noted} (logDir url startErr : String)
    (h : Registered assigned s) :
    Registered assigned (runNoted env (daemonNotSpawned runtimeEnvId logDir url startErr) s).2 := by
  have hasked := h.of_kept (kept_apiTagsReachable env url s)
  unfold daemonNotSpawned
  split
  · rw [runNoted_await_bind]
    split
    · rw [runNoted_await_bind]
      split
      · exact hasked
      · exact hasked
    · exact hasked
  · exact h

theorem registered_startDaemon {s : Noted} (binaryPath logDir : String) (cfg : OllamaRuntimeConfig)
    (h : Registered assigned s) (hassigned : cfg.hostPort = assigned runtimeEnvId) :
    Registered assigned (runNoted env (startDaemon runtimeEnvId binaryPath logDir cfg) s).2 := by
  have hremoved := registered_remove env runtimeEnvId h
  unfold startDaemon launchDaemon
  rw [runNoted_perform_bind, runNoted_await_bind]
  split
  · exact hremoved
  · rw [runNoted_await_bind]
    split
    · exact registered_adoptDaemon _ _ _ _ hremoved hassigned
    · exact registered_daemonNotSpawned _ _ _ hremoved

theorem registered_exec {s : Noted} {c : EnsureCall} (h : Registered assigned s)
    (hassigned : c.cfg.hostPort = assigned c.runtimeEnvId) :
    Registered assigned (c.step env s) := by
  unfold EnsureCall.step
  have hfresh : Registered assigned s.fresh := h
  by_cases hreachable : (env s.1.now).answer (.apiTagsReachable c.cfg.apiBase) = true
  · have hasked := hfresh.of_kept (kept_apiTagsReachable env c.cfg.apiBase s.fresh)
    unfold EnsureCall.exec EnsureCall.program ensureDaemon
    rw [runNoted_await_bind, if_pos hreachable, runNoted_await_bind]
    exact hasked
  · rw [exec_of_unreachable (Bool.eq_false_iff.mpr hreachable), runNoted_bind]
    have hlooked : Registered assigned
        (runNoted env (liveDaemon c.runtimeEnvId) (s.1.tick, s.fresh.2)).2 :=
      Registered.of_kept (s := (s.1.tick, s.fresh.2)) h (kept_liveDaemon _)
    split
    · exact hlooked
    · exact registered_startDaemon _ _ _ hlooked hassigned

end Registered

/-- Where each runtime environment has one host and port throughout, every returned address is the
daemon's. -/
theorem ensured_of_assigned (env : Nat → Moment) (assigned : String → String) (calls : List EnsureCall)
    (h : ∀ c ∈ calls, c.cfg.hostPort = assigned c.runtimeEnvId) :
    Trace.Along (EnsureCall.step env) (AtItsAddress env) ({}, {}) calls := by
  have hinit : Registered assigned ({}, {}) := by
    intro id handle hhandle
    cases hhandle
  generalize (({}, {}) : Noted) = s at hinit
  induction calls generalizing s with
  | nil => trivial
  | cons c calls ih =>
      have hc : c.cfg.hostPort = assigned c.runtimeEnvId := h c List.mem_cons_self
      constructor
      · apply (atItsAddress_iff env s c).mpr
        intro _ handle hhandle _
        rw [hc]
        exact hinit c.runtimeEnvId handle hhandle
      · apply ih
        · intro later hlater
          exact h later (List.mem_cons_of_mem c hlater)
        · exact registered_exec hinit hc

/-- In a sequence of calls every returned address is that of the daemon exactly where no call takes up, under
its runtime environment, a daemon that was spawned with another host and port. -/
theorem ensured_at_own_address_iff (env : Nat → Moment) (calls : List EnsureCall) :
    Trace.Along (EnsureCall.step env) (AtItsAddress env) ({}, {}) calls ↔
      Trace.Along (EnsureCall.step env) (SameAddress env) ({}, {}) calls :=
  Trace.Along.congr (Trace.along_of_forall (atItsAddress_iff env) _ _)

/-- A daemon that answers at port 11434 from its spawning on, and does not end. -/
def daemonOn11434 (now : Nat) : Moment :=
  { Moment.idle with
    answer := fun call =>
      match call with
      | .apiTagsReachable url => decide (0 < now ∧ url = "http://127.0.0.1:11434")
      | .daemonLogPath .. => .ok "logs/ollama-daemon-r.log"
      | .spawnDaemon .. => .ok { processId := 7, startTime := 1 }
      | .daemonRounds => 1
      | .tryWait _ => .ok none
      | other => other.failed }

def ensureAtPort (port : Nat) : EnsureCall :=
  { runtimeEnvId := "r", binaryPath := "ollama", logDir := "logs"
    cfg :=
      { host := "127.0.0.1", port, modelsDir := "", maxLoadedModels := 2, numParallel := 1
        maxQueue := 512, keepAlive := "30m", contextLength := 4096 } }

/-- When the port of a runtime environment is changed to 11435, the daemon at port 11434 is taken for the one
at the new port. -/
theorem changed_port_returned :
    ¬∀ (env : Nat → Moment) (calls : List EnsureCall),
      Trace.Along (EnsureCall.step env) (AtItsAddress env) ({}, {}) calls := by
  intro h
  have hsecond := (h daemonOn11434 [ensureAtPort 11434, ensureAtPort 11435]).2.1
  have hsame := (atItsAddress_iff _ _ _).mp hsecond (by decide) _ rfl rfl
  revert hsame
  decide

end LightAI.Agent
