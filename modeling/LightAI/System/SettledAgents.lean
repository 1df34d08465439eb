import LightAI.System.AgentReliance

/-!
# Agents that settle

Once a cycle of an agent meets no failure and no loss it ends with a heartbeat that the server has recorded
for the agent's node, however the cycles of the other agents interleave with it and whatever has gone wrong
before. From then on the agent never registers again, whatever is lost.
-/

namespace LightAI.SettledAgents

open Agent (RegistryEntry RuntimeConfig)
open Collectors (Bytes Host)
open Heartbeats (AgentState Ending HeartbeatAnswer RegisteredAgent heartbeatRequest)
open Nodes (HeartbeatRequest Node RegisterRequest TokenHash authenticateNode)
open Peers (Stands execAs)
open Server (AgentConfig)

/-! ### Cycles that stand -/

section Cycles

variable {ι : Type} [DecidableEq ι] {auth : TokenHash} {agents : ι → RegisterRequest}
  {files : ι → StateFile} {mode : Mode} {agent : ι} {sha256 : Bytes → String}

variable (auth agents files mode agent) in
/-- From where it is, the code keeps to what is allowed, and it ends as `post` says. -/
abbrev Keeps {α : Type} (post : Site ι → α → Prop) (done : List Op) (p : Conditions × Site ι)
    (code : Code α) : Prop :=
  code.Robust (execAs (exec auth agents agent)) (reliance auth agents files mode agent).rely
    (fun _ q op => (reliance auth agents files mode agent).allowed q.2 op)
    (fun _ q value => post q.2 value) done p

theorem keeps_ended {outcome : Option Ending} {done : List Op} {p : Conditions × Site ι}
    (hother : ∀ sampledAt, mode ≠ .kind sampledAt) :
    Keeps auth agents files mode agent (Ends auth agents mode agent) done p (pure outcome) :=
  ends_other hother outcome

theorem keeps_register (hagents : DistinctAgents agents) (hmode : mode ≠ .settled) {done : List Op}
    {p : Conditions × Site ι} :
    Keeps auth agents files mode agent (Admitted auth agents files mode agent) done p register := by
  refine Peers.robust_call fun conditions s hconditions hothers => ⟨hmode, ?_⟩
  obtain ⟨hfresh, hkind⟩ := hconditions
  cases harrives : conditions.arrives with
  | false =>
      rw [exec_register_lost harrives]
      refine admitted_none hothers.after fun sampledAt hmode => ?_
      rw [(hkind sampledAt hmode).2.1] at harrives
      cases harrives
  | true =>
      obtain ⟨nodeId, nodes, hregisters, hexec⟩ :=
        exec_register auth agent hagents hothers.after hfresh harrives
      rw [hexec]
      cases hreturns : conditions.returns with
      | false =>
          refine admitted_none hregisters.inv fun sampledAt hmode => ?_
          rw [(hkind sampledAt hmode).2.2.1] at hreturns
          cases hreturns
      | true =>
          refine Peers.robust_call fun conditions' t hconditions' hothers' => ?_
          have hown := hothers'.owned nodeId hregisters.mine
          refine ⟨⟨hmode, hown⟩, ?_⟩
          have hleaves := leaves_exec hagents hothers'.after hconditions'.1
            (show (reliance auth agents files mode agent).allowed t
              (.saveState { nodeId, agentToken := conditions.token }) from ⟨hmode, hown⟩)
          have hlost : conditions'.saved ≠ .stored → ∀ sampledAt, mode ≠ .kind sampledAt :=
            fun hsaved sampledAt hmode => hsaved (hconditions'.2 sampledAt hmode).2.2.2
          cases hsaved : conditions'.saved with
          | stored =>
              simp only [exec, hsaved] at hleaves ⊢
              refine ⟨hleaves.inv, fun _ _ => rfl, fun registered hsome => ?_, fun halone registered hsome => ?_⟩
              · rw [← Option.some.inj hsome]
                exact Function.update_self _ _ _
              · rw [← Option.some.inj hsome]
                have hsame := hothers'.same halone nodeId hregisters.mine
                exact (authenticateNode_congr hsame conditions.token).trans hregisters.accepted
          | refused =>
              simp only [exec, hsaved] at hleaves ⊢
              exact admitted_none hleaves.inv (hlost (by rw [hsaved]; exact Saved.noConfusion))
          | torn =>
              simp only [exec, hsaved] at hleaves ⊢
              exact admitted_none hleaves.inv (hlost (by rw [hsaved]; exact Saved.noConfusion))
          | unconfirmed =>
              simp only [exec, hsaved] at hleaves ⊢
              exact admitted_none hleaves.inv (hlost (by rw [hsaved]; exact Saved.noConfusion))

theorem keeps_afterHeartbeat (hagents : DistinctAgents agents) (hmode : mode ≠ .settled)
    (registered : Option AgentConfig) {request : HeartbeatRequest} {answer : HeartbeatAnswer}
    {done : List Op} {conditions : Conditions} {s : Site ι}
    (hanswer : ∀ sampledAt, mode = .kind sampledAt → request.sampledAt = sampledAt ∧
      (answer = .unauthorized ∨
        (∃ response, answer = .accepted response) ∧ LoggedIn auth agent s ∧ Heard agents agent sampledAt s)) :
    Keeps auth agents files mode agent (Ends auth agents mode agent) done (conditions, s)
      (afterHeartbeat registered request answer) := by
  cases answer with
  | accepted response =>
      intro sampledAt hkind
      obtain ⟨-, hrefused | ⟨-, hlogged, hheard⟩⟩ := hanswer sampledAt hkind
      · cases hrefused
      · exact ⟨rfl, hlogged, hheard⟩
  | failed =>
      intro sampledAt hkind
      obtain ⟨-, hrefused | ⟨⟨response, haccepted⟩, -⟩⟩ := hanswer sampledAt hkind
      · cases hrefused
      · cases haccepted
  | unauthorized =>
      refine Program.Robust.bind (keeps_register hagents hmode) fun done' q outcome hadmitted => ?_
      cases outcome with
      | none =>
          intro sampledAt hkind
          cases hadmitted.some_of_kind sampledAt hkind
      | some again =>
          refine Peers.robust_call fun conditions' t hconditions hothers => ?_
          have hholds := hothers.file.trans (hadmitted.holds again rfl)
          refine ⟨⟨hothers.after.owned agent again.state hholds, fun hsettled => absurd hsettled hmode⟩, ?_⟩
          by_cases hkind : ∃ sampledAt, mode = .kind sampledAt
          · obtain ⟨sampledAt, hkind⟩ := hkind
            have halone : mode ≠ .rough := by
              rw [hkind]
              exact Mode.noConfusion
            have haccepted := hothers.accepted halone (hadmitted.holds again rfl)
              (hadmitted.accepted halone again rfl)
            obtain ⟨-, harrives, hreturns, -⟩ := hconditions.2 sampledAt hkind
            have hheard := heard_of_accepted hagents hothers.after hholds haccepted
              (show { request with nodeId := again.state.nodeId }.nodeId = again.state.nodeId from rfl)
            rw [exec_heartbeat_accepted conditions' haccepted, harrives, hreturns]
            simp only [if_true]
            intro sampledAt' hkind'
            rw [← (hanswer sampledAt' hkind').1]
            exact ⟨rfl, hheard.1, hheard.2⟩
          · have hother : ∀ sampledAt, mode ≠ .kind sampledAt := fun sampledAt h => hkind ⟨sampledAt, h⟩
            generalize exec auth agents agent conditions' _ t = outcome
            obtain ⟨answer, t'⟩ := outcome
            cases answer with
            | accepted response => exact keeps_ended hother
            | failed => exact keeps_ended hother
            | unauthorized => exact keeps_ended hother

theorem keeps_usedRegistry (runtime : RuntimeConfig) (token : String) {state : AgentState} {done : List Op}
    {p : Conditions × Site ι} (h : Knows auth agents files mode agent state p.2) :
    Keeps auth agents files mode agent (fun s _ => Knows auth agents files mode agent state s) done p
      (usedRegistry runtime token) := by
  unfold usedRegistry
  split
  · rw [Program.perform_bind]
    refine @Peers.robust_call Conditions Op Op.Answer (Site ι) (List RegistryEntry) (exec auth agents agent)
      (reliance auth agents files mode agent)
      (fun s _ => Knows auth agents files mode agent state s) done p _ _ fun conditions s _ hothers => ?_
    exact ⟨trivial, h.moved hothers⟩
  · exact h

theorem keeps_report (hagents : DistinctAgents agents) {sample : Sample} {state : AgentState}
    (registered : Option AgentConfig) {done : List Op} {p : Conditions × Site ι}
    (hsampled : ∀ sampledAt, mode = .kind sampledAt → sample.sampledAt = sampledAt)
    (h : Knows auth agents files mode agent state p.2) :
    Keeps auth agents files mode agent (Ends auth agents mode agent) done p
      (report sha256 sample state registered) := by
  refine Program.Robust.bind (keeps_usedRegistry sample.runtime state.agentToken h)
    fun done' q registry hknows => ?_
  refine Peers.robust_call fun conditions s hconditions hothers => ?_
  have hhere := hknows.moved hothers
  refine ⟨⟨hhere.inv.owned agent state hhere.holds, hhere.accepted⟩, ?_⟩
  generalize hrequest : heartbeatRequest state.nodeId sample.sampledAt registry _ = request
  have hnode : request.nodeId = state.nodeId := by
    rw [← hrequest]
    rfl
  have htime : request.sampledAt = sample.sampledAt := by
    rw [← hrequest]
    rfl
  cases haccepted : authenticateNode auth s.nodes request.nodeId state.agentToken with
  | false =>
      have hunsettled : mode ≠ .settled := by
        intro hsettled
        rw [hnode, hhere.accepted hsettled] at haccepted
        cases haccepted
      rw [exec_heartbeat_refused conditions haccepted]
      refine keeps_afterHeartbeat hagents hunsettled registered fun sampledAt hkind => ?_
      obtain ⟨-, harrives, hreturns, -⟩ := hconditions.2 sampledAt hkind
      refine ⟨htime.trans (hsampled sampledAt hkind), Or.inl ?_⟩
      rw [harrives, hreturns]
      rfl
  | true =>
      rw [exec_heartbeat_accepted conditions haccepted]
      have hheard := heard_of_accepted hagents hhere.inv hhere.holds (hnode ▸ haccepted) hnode
      rw [htime] at hheard
      cases harrives : conditions.arrives with
      | false =>
          refine keeps_ended fun sampledAt hkind => ?_
          rw [(hconditions.2 sampledAt hkind).2.1] at harrives
          cases harrives
      | true =>
          cases hreturns : conditions.returns with
          | false =>
              refine keeps_ended fun sampledAt hkind => ?_
              rw [(hconditions.2 sampledAt hkind).2.2.1] at hreturns
              cases hreturns
          | true =>
              simp only [if_true]
              intro sampledAt hkind
              rw [hsampled sampledAt hkind] at hheard
              exact ⟨rfl, hheard.1, hheard.2⟩

theorem keeps_runOnce (hagents : DistinctAgents agents) {sample : Sample} {done : List Op}
    {conditions : Conditions} {s : Site ι}
    (hsample : ∀ sampledAt, mode = .kind sampledAt → sample.clientBuilt = true ∧
      sample.sampledAt = sampledAt ∧ s.files agent ≠ .unreadable)
    (hlogged : mode = .settled → LoggedIn auth agent s) :
    Keeps auth agents files mode agent (Ends auth agents mode agent) done (conditions, s)
      (runOnce sha256 sample) := by
  have hsampled : ∀ sampledAt, mode = .kind sampledAt → sample.sampledAt = sampledAt :=
    fun sampledAt hkind => (hsample sampledAt hkind).2.1
  unfold runOnce
  cases hbuilt : sample.clientBuilt with
  | false =>
      refine keeps_ended fun sampledAt hkind => ?_
      rw [(hsample sampledAt hkind).1] at hbuilt
      cases hbuilt
  | true =>
      refine Peers.robust_call fun conditions' t hconditions hothers => ⟨trivial, ?_⟩
      have hreadable : ∀ sampledAt, mode = .kind sampledAt → conditions'.readable = true :=
        fun sampledAt hkind => (hconditions.2 sampledAt hkind).1
      rw [exec_loadState_snd]
      cases hfile : t.files agent with
      | holds state =>
          rw [exec_loadState_holds hfile]
          cases hread : conditions'.readable with
          | false =>
              refine keeps_ended fun sampledAt hkind => ?_
              rw [hreadable sampledAt hkind] at hread
              cases hread
          | true =>
              refine keeps_report hagents none hsampled ⟨hothers.after, hfile, fun hsettled => ?_⟩
              have halone : mode ≠ .rough := by
                rw [hsettled]
                exact Mode.noConfusion
              obtain ⟨state', hholds, haccepted⟩ := hothers.loggedIn halone (hlogged hsettled)
              rw [hfile] at hholds
              rwa [StateFile.holds.inj hholds]
      | unreadable =>
          have hother : ∀ sampledAt, mode ≠ .kind sampledAt := fun sampledAt hkind =>
            (hsample sampledAt hkind).2.2 (hothers.file.symm.trans hfile)
          simp only [exec, hfile]
          exact keeps_ended hother
      | absent =>
          have hunsettled : mode ≠ .settled := by
            intro hsettled
            obtain ⟨state, hholds, -⟩ := hlogged hsettled
            rw [← hothers.file, hfile] at hholds
            cases hholds
          simp only [exec, hfile]
          cases hread : conditions'.readable with
          | false =>
              refine keeps_ended fun sampledAt hkind => ?_
              rw [hreadable sampledAt hkind] at hread
              cases hread
          | true =>
              change Keeps auth agents files mode agent (Ends auth agents mode agent) (Op.loadState :: done)
                (conditions', t) (afterLoad sha256 sample (some none))
              refine Program.Robust.bind (keeps_register hagents hunsettled) fun done' q outcome hadmitted => ?_
              cases outcome with
              | none =>
                  intro sampledAt hkind
                  cases hadmitted.some_of_kind sampledAt hkind
              | some registered =>
                  exact keeps_report hagents _ hsampled ⟨hadmitted.inv, hadmitted.holds registered rfl,
                    fun hsettled => absurd hsettled hunsettled⟩

/-! ### How long a cycle runs -/

theorem within_register : Peers.Within 2 register := by
  intro answer
  cases answer with
  | none => trivial
  | some response =>
      intro saved
      cases (show Bool from saved) with
      | false => trivial
      | true => trivial

theorem within_usedRegistry (runtime : RuntimeConfig) (token : String) :
    Peers.Within 1 (usedRegistry runtime token) := by
  unfold usedRegistry
  split
  · exact fun _ => trivial
  · trivial

theorem within_report (sample : Sample) (state : AgentState) (registered : Option AgentConfig) :
    Peers.Within 5 (report sha256 sample state registered) := by
  refine @Peers.Within.bind Op Op.Answer _ _ 1 4 _ _
    (within_usedRegistry sample.runtime state.agentToken) fun registry => ?_
  intro answer
  change Peers.Within 3 (afterHeartbeat registered _ answer)
  cases (show HeartbeatAnswer from answer) with
  | accepted response => trivial
  | failed => trivial
  | unauthorized =>
      refine @Peers.Within.bind Op Op.Answer _ _ 2 1 _ _ within_register fun again => ?_
      cases again with
      | none => trivial
      | some again =>
          intro answer
          cases (show HeartbeatAnswer from answer) with
          | accepted response => trivial
          | failed => trivial
          | unauthorized => trivial

theorem within_runOnce (sample : Sample) : Peers.Within 8 (runOnce sha256 sample) := by
  unfold runOnce
  split
  · intro loaded
    change Peers.Within 7 (afterLoad sha256 sample loaded)
    match loaded with
    | none => trivial
    | some (some state) => exact (within_report sample state none).mono (by decide)
    | some none =>
        refine @Peers.Within.bind Op Op.Answer _ _ 2 5 _ _ within_register fun registered => ?_
        cases registered with
        | none => trivial
        | some registered => exact within_report sample registered.state _
  · trivial

/-! ### Runs -/

theorem sound_fleet (hagents : DistinctAgents agents) (mode : ι → Mode) :
    Peers.Sound (fleet auth agents sha256) (Shared auth agents files mode)
      (fun agent => reliance auth agents files (mode agent) agent)
      (fun agent => Ends auth agents (mode agent) agent) (Permits files mode) where
  refl agent s h := .refl h.inv
  trans agent s t u h h' := h.trans h'
  stable agent s t outcome h hends := h.ends hends
  begin c agent sample h hok := by
    refine ⟨[], {}, keeps_runOnce hagents (fun sampledAt hkind => ?_) (h.settled agent)⟩
    exact absurd rfl (hok.kind agent sampledAt hkind).2
  conditions c agent conditions hok :=
    ⟨hok.fresh, fun sampledAt hkind => (hok.kind agent sampledAt hkind).1 rfl⟩
  step agent conditions op s h hconditions hallowed := by
    have hleaves := leaves_exec hagents h.inv hconditions.1 hallowed
    refine ⟨⟨hleaves.inv, fun other hsettled => ?_⟩, fun other hne => hleaves.others _ other hne⟩
    by_cases hsame : other = agent
    · subst hsame
      exact hleaves.settled hsettled (h.settled other hsettled)
    · refine (hleaves.others (mode other) other hsame).loggedIn ?_ (h.settled other hsettled)
      rw [hsettled]
      exact Mode.noConfusion
  env c action h hok := by
    obtain ⟨hinv, hothers⟩ := others_act auth hagents h.inv hok
    exact ⟨shared_of_others h hinv fun agent _ => hothers agent, hothers⟩

/-- Every cycle stands in the mode of its agent. -/
abbrev Standing (auth : TokenHash) (agents : ι → RegisterRequest) (files : ι → StateFile)
    (sha256 : Bytes → String) (mode : ι → Mode) (c : Fleet ι) : Prop :=
  Peers.AllStand (fleet auth agents sha256) (Shared auth agents files mode)
    (fun agent => reliance auth agents files (mode agent) agent)
    (fun agent => Ends auth agents (mode agent) agent) c

theorem standing_run (hagents : DistinctAgents agents) {mode : ι → Mode} {c : Fleet ι}
    {events : List (Event ι)}
    (h : Standing auth agents files sha256 mode c)
    (hok : Trace.Along (fleet auth agents sha256).apply (Permits files mode) c events) :
    Standing auth agents files sha256 mode ((fleet auth agents sha256).run c events) :=
  Trace.run_invariant (fun c e hstand hpermits =>
    Peers.allStand_apply (sound_fleet hagents mode) c e hstand hpermits) h hok

/-- Whatever happens, every cycle stands. -/
theorem standing_start (hagents : DistinctAgents agents) (clock : Int) {events : List (Event ι)}
    (hfresh : Trace.Along (fleet auth agents sha256).apply (FreshIds files) (start files clock) events) :
    Standing auth agents files sha256 (fun _ => .rough)
      ((fleet auth agents sha256).run (start files clock) events) := by
  have hempty : ∀ row : Node, row ∉ (start files clock).shared.nodes.nodes.rows :=
    fun row hrow => absurd hrow List.not_mem_nil
  have hinv : Inv agents files (start files clock).shared := by
    refine ⟨fun row hrow => absurd hrow (hempty row), fun row hrow => absurd hrow (hempty row),
      fun row hrow => absurd hrow (hempty row), fun agent state hholds => ⟨fun row hrow => ?_, fun _ => ?_⟩⟩
    · exact absurd (Table.find?_mem hrow) (hempty row)
    · exact ⟨agent, state, hholds, rfl⟩
  refine standing_run hagents ⟨⟨hinv, fun agent hsettled => by cases hsettled⟩, fun agent p hp => ?_⟩
    (hfresh.mono fun c e hfresh => ?_)
  · cases hp
  · exact ⟨hfresh, fun agent halone => absurd rfl halone, fun agent sampledAt hkind => by cases hkind⟩

/-- One agent in this mode, and anything for the others. -/
def only (agent : ι) (mode : Mode) : ι → Mode := Function.update (fun _ => .rough) agent mode

theorem only_eq {other : ι} {mode' : Mode} (hmode : only agent mode other = mode') (hrough : mode' ≠ .rough) :
    other = agent ∧ mode' = mode := by
  unfold only at hmode
  by_cases hsame : other = agent
  · subst hsame
    rw [Function.update_self] at hmode
    exact ⟨rfl, hmode.symm⟩
  · rw [Function.update_of_ne hsame] at hmode
    exact absurd hmode.symm hrough

/-- The others stand as they did, and the agent as its new mode asks. -/
theorem standing_only {c : Fleet ι}
    (h : Standing auth agents files sha256 (fun _ => .rough) c)
    {running : ι → Option (Code (Option Ending))}
    (hothers : ∀ other, other ≠ agent → running other = c.running other)
    (hlogged : mode = .settled → LoggedIn auth agent c.shared)
    (hstands : ∀ p, running agent = some p → Stands (exec auth agents agent)
      (reliance auth agents files mode agent) (Ends auth agents mode agent) c.shared p) :
    Standing auth agents files sha256 (only agent mode) { c with running } where
  shared :=
    { inv := h.shared.inv
      settled := fun other hsettled => by
        obtain ⟨rfl, hmode⟩ := only_eq hsettled Mode.noConfusion
        exact hlogged hmode.symm }
  parties other p hp := by
    dsimp only at hp ⊢
    unfold only
    by_cases hsame : other = agent
    · subst hsame
      rw [Function.update_self]
      exact hstands p hp
    · rw [Function.update_of_ne hsame]
      rw [hothers other hsame] at hp
      exact h.parties other p hp

/-- What a settled agent performs. -/
theorem unrefused {c : Fleet ι} {e : Event ι} (h : Standing auth agents files sha256 (only agent .settled) c)
    (hpermits : Permits files (only agent .settled) c e) : Unrefused auth agent c e := by
  rintro conditions op next rfl hrunning
  have hmode : only agent .settled agent = .settled := Function.update_self _ _ _
  have hstands := h.parties agent _ hrunning
  rw [hmode] at hstands
  have hsame : Others agents files .settled agent c.shared c.shared := .refl h.shared.inv
  have hmet : (reliance auth agents files .settled agent).conditions conditions c.shared :=
    ⟨hpermits.fresh, fun _ => Mode.noConfusion⟩
  have hallowed := (hstands.step hsame hmet).1
  constructor
  · rintro rfl
    exact hallowed rfl
  · rintro token request rfl
    exact hallowed.2 rfl

theorem permits_along {c : Fleet ι} {events : List (Event ι)}
    (hfresh : Trace.Along (fleet auth agents sha256).apply (FreshIds files) c events)
    (halone : ∀ e ∈ events, Alone agent e)
    (hkind : ∀ e ∈ events, ∀ sampledAt, mode = .kind sampledAt → Smooth agent e ∧ e.Leaves agent) :
    Trace.Along (fleet auth agents sha256).apply (Permits files (only agent mode)) c events := by
  rw [Trace.along_iff] at hfresh ⊢
  intro pre e post hsplit
  have hmem : e ∈ events := by
    rw [hsplit]
    exact List.mem_append_right _ (List.mem_cons_self ..)
  refine ⟨hfresh pre e post hsplit, fun other hrough => ?_, fun other sampledAt hmode => ?_⟩
  · obtain ⟨rfl, -⟩ := only_eq rfl hrough
    exact halone e hmem
  · obtain ⟨rfl, hsame⟩ := only_eq hmode Mode.noConfusion
    exact hkind e hmem sampledAt hsame.symm

end Cycles

/-! ### Settling -/

section Settling

variable {ι : Type} [DecidableEq ι]

def twoAgents (second : Bool) : RegisterRequest :=
  if second then { name := "node-b", hostname := "host-b" } else { name := "node-a", hostname := "host-a" }

theorem twoAgents_distinct : DistinctAgents twoAgents := ⟨by decide +kernel, by decide +kernel⟩

def oldFiles (second : Bool) : StateFile :=
  if second then .absent else .holds { nodeId := "node-0", agentToken := "token-0" }

def bareHost : Host where
  entries _ := none
  hasManifest _ := false
  manifest _ := .error ""
  isFile _ _ _ := false
  scanned _ _ _ := .error ""
  reread _ _ _ := .error ""
  run _ _ _ := none
  bytesOfMb _ := none

def sampleAt (sampledAt : Int) : Sample := { runtime := {}, host := bareHost, sampledAt }

def calm (token newId : String) : Conditions := { token, newId, retryId := newId }

def lostRegistration : List (Event Bool) :=
  [.begin false (sampleAt 100), .step false (calm "token-1" "node-1"), .step false (calm "token-1" "node-1"),
    .step false { calm "token-1" "node-1" with returns := false }]

def calmCycle : List (Event Bool) := List.replicate 8 (.step false (calm "token-2" "node-2"))

theorem fresh_oldFiles {s : Site Bool} {token newId : String} (hid : "node-0" ≠ newId)
    (hunknown : s.nodes.nodes.find? newId = none) (returns : Bool) :
    Conditions.Fresh oldFiles s { calm token newId with returns } := by
  have hunused : Unused oldFiles s newId := by
    refine ⟨hunknown, fun second state hholds => ?_⟩
    cases second with
    | true => cases hholds
    | false =>
        rw [← StateFile.holds.inj hholds]
        exact hid
  exact ⟨hunused, hunused⟩

theorem fresh_scenario : Trace.Along (fleet Nodes.plainTokens twoAgents fun _ => "").apply
    (FreshIds oldFiles) (start oldFiles 100)
    (lostRegistration ++ .begin false (sampleAt 115) :: calmCycle) := by
  refine ⟨trivial, ?_, ?_, ?_, trivial, ?_, ?_, ?_, ?_, ?_, ?_, ?_, ?_, trivial⟩
  all_goals exact fresh_oldFiles (by decide) (by rfl) _

/-- Between two cycles let the server accept the token in the agent's file. As long as nobody else registers
under its name, whatever is lost, whatever fails and whenever the agent is stopped, this stays so, the agent
never registers again and no heartbeat of it is refused. -/
theorem settled_for_good (auth : TokenHash) (agents : ι → RegisterRequest) (sha256 : Bytes → String)
    (hagents : DistinctAgents agents) (files : ι → StateFile) (clock : Int) (before after : List (Event ι))
    (agent : ι)
    (hfresh : Trace.Along (fleet auth agents sha256).apply (FreshIds files) (start files clock)
      (before ++ after))
    (hidle : ((fleet auth agents sha256).run (start files clock) before).busy agent = false)
    (hlogged : LoggedIn auth agent ((fleet auth agents sha256).run (start files clock) before).shared)
    (halone : ∀ e ∈ after, Alone agent e) :
    let c := (fleet auth agents sha256).run (start files clock) before
    Trace.Always (fleet auth agents sha256).apply (fun c => LoggedIn auth agent c.shared) c after ∧
      Trace.Along (fleet auth agents sha256).apply (Unrefused auth agent) c after := by
  intro c
  rw [Trace.along_append] at hfresh
  have hstanding := standing_start hagents clock hfresh.1
  have hafter : Trace.Along (fleet auth agents sha256).apply (FreshIds files) c after := hfresh.2
  have hstands : Standing auth agents files sha256 (only agent .settled) c := by
    refine standing_only hstanding (fun _ _ => rfl) (fun _ => hlogged) fun p hp => ?_
    obtain ⟨outcome, rfl⟩ := Peers.Config.ended_of_idle hidle hp
    exact ⟨[], {}, ends_other (fun _ => Mode.noConfusion) outcome⟩
  have hpermits : Trace.Along (fleet auth agents sha256).apply (Permits files (only agent .settled)) c after :=
    permits_along hafter halone fun _ _ _ => Mode.noConfusion
  constructor
  · rintro pre post rfl
    rw [Trace.along_append] at hpermits
    exact (standing_run hagents hstands hpermits.1).shared.settled agent (Function.update_self _ _ _)
  · rw [Trace.along_iff]
    rintro pre e post rfl
    rw [Trace.along_append, Trace.along_cons] at hpermits
    exact unrefused (standing_run hagents hstands hpermits.1) hpermits.2.1

/-! Its next heartbeat is answered in vain, it is stopped, and the other agent registers. -/

def lostHeartbeat : List (Event Bool) :=
  [.begin false (sampleAt 130), .step false (calm "token-3" "node-3"),
    .step false { calm "token-3" "node-3" with returns := false }, .stop false, .begin true (sampleAt 131),
    .step true (calm "token-3" "node-3"), .step true (calm "token-3" "node-3")]

theorem settled_for_good_lost :
    let c := (fleet Nodes.plainTokens twoAgents fun _ => "").run (start oldFiles 100)
      (lostRegistration ++ .begin false (sampleAt 115) :: calmCycle)
    Trace.Always (fleet Nodes.plainTokens twoAgents fun _ => "").apply
        (fun c => LoggedIn Nodes.plainTokens false c.shared) c lostHeartbeat ∧
      Trace.Along (fleet Nodes.plainTokens twoAgents fun _ => "").apply (Unrefused Nodes.plainTokens false) c
        lostHeartbeat := by
  refine settled_for_good Nodes.plainTokens twoAgents (fun _ => "") twoAgents_distinct oldFiles 100
    (lostRegistration ++ .begin false (sampleAt 115) :: calmCycle) lostHeartbeat false ?_ rfl ?_ ?_
  · rw [Trace.along_append]
    refine ⟨fresh_scenario, trivial, ?_, ?_, trivial, trivial, ?_, ?_, trivial⟩
    all_goals exact fresh_oldFiles (by decide) (by rfl) _
  · exact ⟨{ nodeId := "node-1", agentToken := "token-2" }, rfl, rfl⟩
  · intro e he
    simp only [lostHeartbeat, List.mem_cons, List.not_mem_nil, or_false] at he
    obtain rfl | rfl | rfl | rfl | rfl | rfl | rfl := he
    all_goals trivial

end Settling

end LightAI.SettledAgents
