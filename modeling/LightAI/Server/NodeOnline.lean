import LightAI.Base.Trace
import LightAI.Base.Upsert
import LightAI.Server.Nodes

/-!
# Online means recently heard

A node counts as online while its last heartbeat is not too old. The time that is compared with the
server's clock is the one that the agent has put into the heartbeat, by its own clock.
-/

namespace LightAI.Nodes

/-- The accepted heartbeats, each with the server's time at which it came. -/
def receive (auth : TokenHash) (db : NodesDb) (e : Event) (received : List (String × Int)) :
    List (String × Int) :=
  match e with
  | .heartbeat token request =>
      if Accepted auth db token request then received ++ [(request.nodeId, db.clock)] else received
  | _ => received

def heardStep (auth : TokenHash) : NodesDb × List (String × Int) → Event → NodesDb × List (String × Int) :=
  Trace.withHistory (step auth) (receive auth)

/-- A heartbeat of the node came within the threshold before `now`. -/
def HeardRecently (received : List (String × Int)) (now : Int) (nodeId : String) : Prop :=
  ∃ time, (nodeId, time) ∈ received ∧ time ≤ now ∧ now - time ≤ onlineThresholdSecs

/-- Of what is shown at `now`: a node that is online has been heard recently, and no age overflows. -/
structure OnlineSound (db : NodesDb) (received : List (String × Int)) (now : Int) : Prop where
  nodeOnline : ∀ nodeId, nodeOnline { db with clock := now } nodeId = true →
    HeardRecently received now nodeId
  listed : ∀ row ∈ db.nodes.rows, listedStatus now row = "online" → HeardRecently received now row.id
  age : ∀ row ∈ db.nodes.rows, ∀ lastSeen, row.lastHeartbeatAt = some lastSeen →
    ¬ AgeOverflows now lastSeen

/-- At every later time, should nothing more be heard. -/
def OnlineSoundFromNow (s : NodesDb × List (String × Int)) : Prop :=
  ∀ now, s.1.clock ≤ now → now < 2 ^ 63 → OnlineSound s.1 s.2 now

/-- The server's clock does not go back, and times are `i64`. -/
def TimesFit (s : NodesDb × List (String × Int)) : Event → Prop
  | .tick clock => s.1.clock ≤ clock ∧ clock < 2 ^ 63
  | .heartbeat _ request => -2 ^ 63 ≤ request.sampledAt ∧ request.sampledAt < 2 ^ 63
  | .register _ _ _ => True

/-- The agent's time is not negative and not ahead of the server's. In the last minute that an `i64` can
tell it does not matter. -/
def Punctual (auth : TokenHash) (s : NodesDb × List (String × Int)) (e : Event) : Prop :=
  ∀ token request, e = .heartbeat token request → Accepted auth s.1 token request →
    0 ≤ request.sampledAt ∧
      (request.sampledAt ≤ s.1.clock ∨ 2 ^ 63 ≤ s.1.clock + onlineThresholdSecs + 1)

/-! ### Where a row's time comes from -/

theorem tryRegister_cases (auth : TokenHash) (request : RegisterRequest) (now : Int)
    (token newId : String) (db : NodesDb) :
    (tryRegister auth request now token newId db).2 = db ∨
      ∃ row : Node, row.lastHeartbeatAt = none ∧
        (tryRegister auth request now token newId db).2
          = { db with nodes := db.nodes.upsert row (·.reregistered row) (Node.reregistered_id row) } := by
  unfold tryRegister
  split
  · exact .inl rfl
  · split
    · exact .inl rfl
    · dsimp only
      split
      · exact .inl rfl
      · rename_i db' hupsert
        unfold upsertNode at hupsert
        split at hupsert
        · cases hupsert
        · split at hupsert
          · cases hupsert
          · refine .inr ⟨_, ?_, (Except.ok.inj hupsert).symm⟩
            rfl

theorem clock_step (auth : TokenHash) (db : NodesDb) (e : Event) :
    (∃ clock, e = .tick clock ∧ (step auth db e).clock = clock) ∨ (step auth db e).clock = db.clock := by
  cases e with
  | tick clock => exact .inl ⟨clock, rfl, rfl⟩
  | register request token newId =>
      right
      simp only [step]
      rcases tryRegister_cases auth request db.clock token newId db with heq | ⟨row, -, heq⟩
      · rw [heq]
      · rw [heq]
  | heartbeat token request =>
      right
      simp only [step]
      split
      · exact (nodes_recordHeartbeat request db).2
      · rfl

/-- The time that a row has was there before, or the event has brought it. -/
theorem lastHeartbeatAt_step {auth : TokenHash} {db : NodesDb} {e : Event} {row : Node} {lastSeen : Int}
    (hrow : row ∈ (step auth db e).nodes.rows) (hlast : row.lastHeartbeatAt = some lastSeen) :
    (∃ old ∈ db.nodes.rows, old.id = row.id ∧ old.lastHeartbeatAt = some lastSeen) ∨
      ∃ token request, e = .heartbeat token request ∧ Accepted auth db token request ∧
        request.nodeId = row.id ∧ request.sampledAt = lastSeen := by
  cases e with
  | tick clock => exact .inl ⟨row, hrow, rfl, hlast⟩
  | register request token newId =>
      left
      simp only [step] at hrow
      rcases tryRegister_cases auth request db.clock token newId db with heq | ⟨new, hnew, heq⟩
      · rw [heq] at hrow
        exact ⟨row, hrow, rfl, hlast⟩
      · rw [heq] at hrow
        rcases Table.mem_upsert hrow with hwritten | ⟨hrow, -⟩
        · cases hold : db.nodes.find? new.id with
          | none =>
              rw [hold] at hwritten
              have hnone : row.lastHeartbeatAt = none := by
                rw [hwritten]
                exact hnew
              rw [hnone] at hlast
              cases hlast
          | some old =>
              rw [hold] at hwritten
              have hreregistered : row = old.reregistered new := hwritten
              rw [hreregistered] at hlast ⊢
              exact ⟨old, Table.find?_mem hold, rfl, hlast⟩
        · exact ⟨row, hrow, rfl, hlast⟩
  | heartbeat token request =>
      by_cases haccepted : Accepted auth db token request
      · simp only [step, if_pos haccepted, (nodes_recordHeartbeat request db).1] at hrow
        obtain ⟨old, hold, heq⟩ := Table.mem_updateWhere.mp hrow
        by_cases hnode : old.id = request.nodeId
        · rw [if_pos (decide_eq_true hnode)] at heq
          right
          refine ⟨token, request, rfl, haccepted, ?_, ?_⟩
          · rw [heq]
            exact hnode.symm
          · rw [heq] at hlast
            exact Option.some.inj hlast
        · rw [if_neg (by simpa using hnode)] at heq
          rw [heq] at hlast ⊢
          exact .inl ⟨old, hold, rfl, hlast⟩
      · simp only [step, if_neg haccepted] at hrow
        exact .inl ⟨row, hrow, rfl, hlast⟩

/-! ### Ages -/

/-- A difference that fits is what it looks like. -/
theorem ageSecs_of_fits {now lastSeen : Int} (h : ¬ AgeOverflows now lastSeen) :
    ageSecs now lastSeen = now - lastSeen := by
  have hlow : -2 ^ 63 ≤ now - lastSeen := by
    by_contra hlow
    exact h (.inl (not_le.mp hlow))
  have hhigh : now - lastSeen < 2 ^ 63 := by
    by_contra hhigh
    exact h (.inr (not_lt.mp hhigh))
  unfold ageSecs
  apply Int.bmod_eq_of_le
  · norm_num
    omega
  · norm_num
    omega

theorem listedStatus_online {now : Int} {row : Node} (h : listedStatus now row = "online") :
    ∃ lastSeen, row.lastHeartbeatAt = some lastSeen ∧ ageSecs now lastSeen ≤ onlineThresholdSecs := by
  unfold listedStatus at h
  split at h
  · rename_i lastSeen hlast
    split at h
    · exact ⟨lastSeen, hlast, ‹_›⟩
    · exact absurd h (by decide)
  · exact absurd h (by decide)

theorem nodeOnline_eq_true {db : NodesDb} {nodeId : String} (h : nodeOnline db nodeId = true) :
    ∃ row ∈ db.nodes.rows, row.id = nodeId ∧ ∃ lastSeen, row.lastHeartbeatAt = some lastSeen ∧
      ageSecs db.clock lastSeen ≤ onlineThresholdSecs := by
  unfold nodeOnline seenRecently at h
  cases hfind : db.nodes.find? nodeId with
  | none => simp [hfind] at h
  | some row =>
      rw [hfind, Option.bind_some] at h
      cases hlast : row.lastHeartbeatAt with
      | none => simp [hlast] at h
      | some lastSeen =>
          rw [hlast, Option.any_some] at h
          exact ⟨row, Table.find?_mem hfind, Table.find?_key hfind, lastSeen, hlast,
            of_decide_eq_true h⟩

/-! ### Punctual heartbeats are enough -/

/-- What the clock and the times of the heartbeats look like in a run in which times fit. -/
structure Clocked (s : NodesDb × List (String × Int)) : Prop where
  nonneg : 0 ≤ s.1.clock
  fits : s.1.clock < 2 ^ 63
  past : ∀ heard ∈ s.2, heard.2 ≤ s.1.clock

/-- Every row's time is that of a punctual heartbeat. -/
def Punctuated (s : NodesDb × List (String × Int)) : Prop :=
  ∀ row ∈ s.1.nodes.rows, ∀ lastSeen, row.lastHeartbeatAt = some lastSeen →
    0 ≤ lastSeen ∧ lastSeen < 2 ^ 63 ∧ ∃ time, (row.id, time) ∈ s.2 ∧
      (lastSeen ≤ time ∨ 2 ^ 63 ≤ time + onlineThresholdSecs + 1)

theorem receive_subset (auth : TokenHash) (db : NodesDb) (e : Event) (received : List (String × Int)) :
    ∀ heard ∈ received, heard ∈ receive auth db e received := by
  intro heard hheard
  cases e with
  | heartbeat token request =>
      simp only [receive]
      split
      · exact List.mem_append_left _ hheard
      · exact hheard
  | _ => exact hheard

theorem clocked_step {auth : TokenHash} {s : NodesDb × List (String × Int)} {e : Event}
    (h : Clocked s) (hfit : TimesFit s e) : Clocked (heardStep auth s e) := by
  have hreceived : ∀ heard ∈ (heardStep auth s e).2, heard.2 ≤ s.1.clock := by
    intro heard hheard
    simp only [heardStep, Trace.withHistory] at hheard
    cases e with
    | heartbeat token request =>
        simp only [receive] at hheard
        split at hheard
        · rcases List.mem_append.mp hheard with hheard | hheard
          · exact h.past heard hheard
          · rw [List.mem_singleton.mp hheard]
        · exact h.past heard hheard
    | _ => exact h.past heard hheard
  rcases clock_step auth s.1 e with ⟨clock, rfl, hclock⟩ | hclock
  · have hforward := hfit.1
    refine ⟨?_, ?_, fun heard hheard => ?_⟩
    · simp only [heardStep, Trace.withHistory, hclock]
      exact h.nonneg.trans hforward
    · simp only [heardStep, Trace.withHistory, hclock]
      exact hfit.2
    · simp only [heardStep, Trace.withHistory, hclock]
      exact (hreceived heard hheard).trans hforward
  · refine ⟨?_, ?_, fun heard hheard => ?_⟩
    · simp only [heardStep, Trace.withHistory, hclock]
      exact h.nonneg
    · simp only [heardStep, Trace.withHistory, hclock]
      exact h.fits
    · simp only [heardStep, Trace.withHistory, hclock]
      exact hreceived heard hheard

theorem punctuated_step {auth : TokenHash} {s : NodesDb × List (String × Int)} {e : Event}
    (h : Punctuated s) (hfit : TimesFit s e) (hpunctual : Punctual auth s e) :
    Punctuated (heardStep auth s e) := by
  intro row hrow lastSeen hlast
  rcases lastHeartbeatAt_step hrow hlast with
    ⟨old, hold, hid, hlastOld⟩ | ⟨token, request, rfl, haccepted, hnode, hsampled⟩
  · obtain ⟨hnonneg, hfits, time, htime, hearly⟩ := h old hold lastSeen hlastOld
    rw [hid] at htime
    exact ⟨hnonneg, hfits, time, receive_subset auth s.1 e s.2 _ htime, hearly⟩
  · obtain ⟨hnonneg, hearly⟩ := hpunctual token request rfl haccepted
    rw [hsampled] at hnonneg hearly
    refine ⟨hnonneg, hsampled ▸ hfit.2, s.1.clock, ?_, hearly⟩
    simp only [heardStep, Trace.withHistory, receive, if_pos haccepted]
    rw [hnode]
    exact List.mem_append_right _ (List.mem_singleton_self _)

theorem onlineSound_of_punctuated {s : NodesDb × List (String × Int)} (hclocked : Clocked s)
    (h : Punctuated s) : OnlineSoundFromNow s := by
  intro now hnow hfits
  have hage : ∀ row ∈ s.1.nodes.rows, ∀ lastSeen, row.lastHeartbeatAt = some lastSeen →
      ¬ AgeOverflows now lastSeen := by
    intro row hrow lastSeen hlast hoverflow
    obtain ⟨hnonneg, hlastFits, -⟩ := h row hrow lastSeen hlast
    have hclock := hclocked.nonneg
    rcases hoverflow with hlow | hhigh
    · omega
    · omega
  have hheard : ∀ row ∈ s.1.nodes.rows, ∀ lastSeen, row.lastHeartbeatAt = some lastSeen →
      ageSecs now lastSeen ≤ onlineThresholdSecs → HeardRecently s.2 now row.id := by
    intro row hrow lastSeen hlast hrecent
    rw [ageSecs_of_fits (hage row hrow lastSeen hlast)] at hrecent
    obtain ⟨-, -, time, htime, hearly⟩ := h row hrow lastSeen hlast
    have hpast : time ≤ s.1.clock := hclocked.past _ htime
    refine ⟨time, htime, hpast.trans hnow, ?_⟩
    rcases hearly with hearly | hearly
    · omega
    · omega
  refine ⟨fun nodeId honline => ?_, fun row hrow honline => ?_, hage⟩
  · obtain ⟨row, hrow, rfl, lastSeen, hlast, hrecent⟩ := nodeOnline_eq_true honline
    exact hheard row hrow lastSeen hlast hrecent
  · obtain ⟨lastSeen, hlast, hrecent⟩ := listedStatus_online honline
    exact hheard row hrow lastSeen hlast hrecent

/-! ### And necessary -/

/-- Right after a heartbeat that is not punctual, something is wrong at some later time. -/
theorem punctual_of_onlineSound {auth : TokenHash} {s : NodesDb × List (String × Int)} {e : Event}
    (hclocked : Clocked s) (hfit : TimesFit s e)
    (hsound : OnlineSoundFromNow (heardStep auth s e)) : Punctual auth s e := by
  rintro token request rfl haccepted
  obtain ⟨row, hrow⟩ : ∃ row, s.1.nodes.find? request.nodeId = some row := by
    cases hfind : s.1.nodes.find? request.nodeId with
    | none => simp [Accepted, authenticateNode, hfind] at haccepted
    | some row => exact ⟨row, rfl⟩
  have hdb : (heardStep auth s (.heartbeat token request)).1 = recordHeartbeat request s.1 := by
    simp only [heardStep, Trace.withHistory, step, if_pos haccepted]
  have hclock : (heardStep auth s (.heartbeat token request)).1.clock = s.1.clock := by
    rw [hdb]
    exact (nodes_recordHeartbeat request s.1).2
  have hfind : (heardStep auth s (.heartbeat token request)).1.nodes.find? request.nodeId
      = some (row.heard s.1.clock request.sampledAt) := by
    rw [hdb, (nodes_recordHeartbeat request s.1).1, Table.find?_update_self, hrow]
    rfl
  have hpast : ∀ heard ∈ (heardStep auth s (.heartbeat token request)).2, heard.2 ≤ s.1.clock := by
    intro heard hheard
    have hbound := (clocked_step hclocked hfit).past heard hheard
    rwa [hclock] at hbound
  have hnonneg : 0 ≤ request.sampledAt := by
    by_contra hnegative
    have hend := hsound (2 ^ 63 - 1) (by rw [hclock]; have hfits := hclocked.fits; omega) (by omega)
    refine hend.age _ (Table.find?_mem hfind) request.sampledAt rfl (.inr ?_)
    omega
  refine ⟨hnonneg, ?_⟩
  by_contra hahead
  have hlate : s.1.clock < request.sampledAt := by
    by_contra hnot
    exact hahead (.inl (not_lt.mp hnot))
  have hroom : s.1.clock + onlineThresholdSecs + 1 < 2 ^ 63 := by
    by_contra hnot
    exact hahead (.inr (not_lt.mp hnot))
  -- One second past the threshold, the heartbeat still looks recent.
  have hlater := hsound (s.1.clock + onlineThresholdSecs + 1)
    (by rw [hclock]; simp only [onlineThresholdSecs]; omega) hroom
  have hage : ¬ AgeOverflows (s.1.clock + onlineThresholdSecs + 1) request.sampledAt :=
    hlater.age _ (Table.find?_mem hfind) request.sampledAt rfl
  have honline : listedStatus (s.1.clock + onlineThresholdSecs + 1)
      (row.heard s.1.clock request.sampledAt) = "online" := by
    simp only [listedStatus, Node.heard]
    rw [ageSecs_of_fits hage, if_pos (by omega)]
  obtain ⟨time, htime, -, hrecent⟩ := hlater.listed _ (Table.find?_mem hfind) honline
  have hbefore : time ≤ s.1.clock := hpast _ htime
  omega

theorem online_means_heard_iff (auth : TokenHash) (clock : Int) (hnonneg : 0 ≤ clock)
    (hfits : clock < 2 ^ 63) (events : List Event)
    (htimes : Trace.Along (heardStep auth) TimesFit ({ clock }, []) events) :
    Trace.Always (heardStep auth) OnlineSoundFromNow ({ clock }, []) events ↔
      Trace.Along (heardStep auth) (Punctual auth) ({ clock }, []) events := by
  have hclocked : Clocked (({ clock }, []) : NodesDb × List (String × Int)) :=
    ⟨hnonneg, hfits, by simp⟩
  constructor
  · intro hsound
    have hstep : ∀ s e, Clocked s → TimesFit s e → Clocked (heardStep auth s e) :=
      fun s e h hfit => clocked_step h hfit
    have hwith := Trace.Along.with_invariant hstep hclocked htimes
    rw [Trace.along_iff] at hwith ⊢
    intro pre e post hsplit
    obtain ⟨hhere, hfit⟩ := hwith pre e post hsplit
    have hnext := hsound (pre ++ [e]) post (by rw [hsplit]; simp)
    rw [Trace.run_append] at hnext
    exact punctual_of_onlineSound hhere hfit hnext
  · intro hpunctual
    have hboth : Trace.Along (heardStep auth) (fun s e => TimesFit s e ∧ Punctual auth s e)
        ({ clock }, []) events := by
      rw [Trace.along_iff] at htimes hpunctual ⊢
      intro pre e post hsplit
      exact ⟨htimes pre e post hsplit, hpunctual pre e post hsplit⟩
    have hstep : ∀ s e, Clocked s ∧ Punctuated s → TimesFit s e ∧ Punctual auth s e →
        Clocked (heardStep auth s e) ∧ Punctuated (heardStep auth s e) :=
      fun s e h hok => ⟨clocked_step h.1 hok.1, punctuated_step h.2 hok.1 hok.2⟩
    have hpunctuated : Punctuated (({ clock }, []) : NodesDb × List (String × Int)) := by
      intro row hrow
      simp [Table.empty] at hrow
    exact Trace.always_of_invariant hstep (fun s h => onlineSound_of_punctuated h.1 h.2)
      ⟨hclocked, hpunctuated⟩ hboth

/-! An agent whose clock keeps time with the server's. -/

theorem online_means_heard_iff_example :
    Trace.Always (heardStep plainTokens) OnlineSoundFromNow ({ clock := 1700000000 }, [])
        [registerNodeA, .heartbeat "token" { nodeId := "node-1", sampledAt := 1700000000 }] ↔
      Trace.Along (heardStep plainTokens) (Punctual plainTokens) ({ clock := 1700000000 }, [])
        [registerNodeA, .heartbeat "token" { nodeId := "node-1", sampledAt := 1700000000 }] := by
  apply online_means_heard_iff plainTokens 1700000000 (by norm_num) (by norm_num)
  exact ⟨trivial, ⟨by norm_num, by norm_num⟩, trivial⟩

/-! An agent whose clock is an hour ahead falls silent, and an agent sends the least `i64`. -/

def heardOnce (sampledAt silence : Int) : NodesDb × List (String × Int) :=
  Trace.run (heardStep plainTokens) ({ clock := 1700000000 }, [])
    [registerNodeA, .heartbeat "token" { nodeId := "node-1", sampledAt },
      .tick (1700000000 + silence)]

theorem online_not_heard :
    ¬ OnlineSound (heardOnce 1700003600 3600).1 (heardOnce 1700003600 3600).2 1700003600 ∧
      ¬ OnlineSound (heardOnce (-2 ^ 63) 0).1 (heardOnce (-2 ^ 63) 0).2 1700000000 := by
  constructor
  · intro hsound
    obtain ⟨time, htime, -, hrecent⟩ := hsound.nodeOnline "node-1" (by decide)
    have honly : (heardOnce 1700003600 3600).2 = [("node-1", 1700000000)] := by decide
    rw [honly] at htime
    obtain rfl : time = 1700000000 := by simpa using htime
    simp only [onlineThresholdSecs] at hrecent
    omega
  · intro hsound
    have hrow : (heardOnce (-2 ^ 63) 0).1.nodes.rows.map (·.lastHeartbeatAt) = [some (-2 ^ 63)] := by
      decide
    obtain ⟨row, hmem, hlast⟩ := List.mem_map.mp (hrow ▸ List.mem_singleton_self _ :
      some (-2 ^ 63) ∈ (heardOnce (-2 ^ 63) 0).1.nodes.rows.map (·.lastHeartbeatAt))
    refine hsound.age row hmem (-2 ^ 63) hlast (.inr ?_)
    norm_num

end LightAI.Nodes
