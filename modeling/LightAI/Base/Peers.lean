import LightAI.Base.Program
import LightAI.Base.Trace

/-!
# Parties that run one program each

Several parties share a state. Each runs its own program, one operation at a time between those of the
others, and may be stopped between two of them. How an operation turns out depends on conditions that may be
different each time. A party relies on what the others leave of the state and on the conditions that it
meets, and a program stands if, as long as it may rely on that, it performs only operations that are allowed
and ends as it should.
-/

namespace Peers

universe u

variable {ι Req Env W : Type} {Op : Type u} {Answer : Op → Type} {S α : Type}

structure System (ι Req Env W : Type) (Op : Type u) (Answer : Op → Type) (S α : Type) where
  start : Req → Program Op Answer α
  exec : ι → W → (op : Op) → S → Answer op × S
  act : Env → S → S

/-- What the parties share, and what is left of the program of each that runs one or has run it to its end. -/
structure Config (ι : Type) (Op : Type u) (Answer : Op → Type) (S α : Type) where
  shared : S
  running : ι → Option (Program Op Answer α)

inductive Event (ι Req Env W : Type) where
  | begin (party : ι) (request : Req)
  | step (party : ι) (conditions : W)
  | stop (party : ι)
  | env (action : Env)

/-- The party begins no other program before its end. -/
def Config.busy (c : Config ι Op Answer S α) (party : ι) : Bool :=
  match c.running party with
  | some (.call _ _) => true
  | _ => false

theorem Config.ended_of_idle {c : Config ι Op Answer S α} {party : ι} (hidle : c.busy party = false)
    {p : Program Op Answer α} (hrunning : c.running party = some p) : ∃ value, p = .ret value := by
  unfold Config.busy at hidle
  rw [hrunning] at hidle
  cases p with
  | ret value => exact ⟨value, rfl⟩
  | call op next => cases hidle

namespace System

variable [DecidableEq ι] (M : System ι Req Env W Op Answer S α)

def apply (c : Config ι Op Answer S α) : Event ι Req Env W → Config ι Op Answer S α
  | .begin party request =>
      if c.busy party then c
      else { c with running := Function.update c.running party (some (M.start request)) }
  | .step party conditions =>
      match c.running party with
      | some (.call op next) =>
          { shared := (M.exec party conditions op c.shared).2
            running := Function.update c.running party
              (some (next (M.exec party conditions op c.shared).1)) }
      | _ => c
  | .stop party => { c with running := Function.update c.running party none }
  | .env action => { c with shared := M.act action c.shared }

def run (c : Config ι Op Answer S α) (events : List (Event ι Req Env W)) : Config ι Op Answer S α :=
  Trace.run M.apply c events

variable {M}

/-- What an event can do: begin a program, perform one operation of one party, stop a party, let the
environment act, or nothing. -/
theorem apply_cases (c : Config ι Op Answer S α) (e : Event ι Req Env W) :
    (∃ party request, e = .begin party request ∧ c.busy party = false ∧
        M.apply c e = { c with running := Function.update c.running party (some (M.start request)) }) ∨
    (∃ party conditions op next, e = .step party conditions ∧ c.running party = some (.call op next) ∧
        M.apply c e =
          { shared := (M.exec party conditions op c.shared).2
            running := Function.update c.running party
              (some (next (M.exec party conditions op c.shared).1)) }) ∨
    (∃ party, e = .stop party ∧
        M.apply c e = { c with running := Function.update c.running party none }) ∨
    (∃ action, e = .env action ∧ M.apply c e = { c with shared := M.act action c.shared }) ∨
    M.apply c e = c := by
  cases e with
  | begin party request =>
      cases hbusy : c.busy party with
      | true =>
          refine Or.inr (Or.inr (Or.inr (Or.inr ?_)))
          simp only [apply, hbusy, if_true]
      | false =>
          refine Or.inl ⟨party, request, rfl, hbusy, ?_⟩
          simp only [apply, hbusy, Bool.false_eq_true, if_false]
  | step party conditions =>
      cases hrunning : c.running party with
      | none =>
          refine Or.inr (Or.inr (Or.inr (Or.inr ?_)))
          simp only [apply, hrunning]
      | some rest =>
          cases rest with
          | ret value =>
              refine Or.inr (Or.inr (Or.inr (Or.inr ?_)))
              simp only [apply, hrunning]
          | call op next =>
              refine Or.inr (Or.inl ⟨party, conditions, op, next, rfl, hrunning, ?_⟩)
              simp only [apply, hrunning]
  | stop party => exact Or.inr (Or.inr (Or.inl ⟨party, rfl, rfl⟩))
  | env action => exact Or.inr (Or.inr (Or.inr (Or.inl ⟨action, rfl, rfl⟩)))

end System

/-! ### Programs that stand -/

section Stands

/-- One party's operations, on the state together with the conditions that it meets. -/
def execAs (exec : W → (op : Op) → S → Answer op × S) (op : Op) (p : W × S) : Answer op × (W × S) :=
  ((exec p.1 op p.2).1, (p.1, (exec p.1 op p.2).2))

/-- What a party relies on. -/
structure Reliance (W : Type) (Op : Type u) (S : Type) where
  conditions : W → S → Prop
  others : S → S → Prop
  allowed : S → Op → Prop

variable (exec : W → (op : Op) → S → Answer op × S) (reliance : Reliance W Op S) (post : S → α → Prop)

def Reliance.rely (p p' : W × S) : Prop := reliance.conditions p'.1 p'.2 ∧ reliance.others p.2 p'.2

def Stands (s : S) (p : Program Op Answer α) : Prop :=
  ∃ done conditions, p.Robust (execAs exec) reliance.rely (fun _ q op => reliance.allowed q.2 op)
    (fun _ q value => post q.2 value) done (conditions, s)

variable {exec} {reliance} {post}

/-- One operation at a time: whatever the others have done and whatever conditions are met. -/
theorem robust_call {done : List Op} {p : W × S} {op : Op} {next : Answer op → Program Op Answer α}
    (h : ∀ conditions s, reliance.conditions conditions s → reliance.others p.2 s →
      reliance.allowed s op ∧
        (next (exec conditions op s).1).Robust (execAs exec) reliance.rely
          (fun _ q op => reliance.allowed q.2 op) (fun _ q value => post q.2 value) (op :: done)
          (conditions, (exec conditions op s).2)) :
    (Program.call op next).Robust (execAs exec) reliance.rely (fun _ q op => reliance.allowed q.2 op)
      (fun _ q value => post q.2 value) done p :=
  fun p' hrely => h p'.1 p'.2 hrely.1 hrely.2

/-- What the others do leaves a program standing. -/
theorem Stands.moved (htrans : ∀ s t u, reliance.others s t → reliance.others t u → reliance.others s u)
    (hpost : ∀ s t value, reliance.others s t → post s value → post t value) {s t : S}
    {p : Program Op Answer α} (hothers : reliance.others s t) (h : Stands exec reliance post s p) :
    Stands exec reliance post t p := by
  obtain ⟨done, conditions, hrobust⟩ := h
  refine ⟨done, conditions, ?_⟩
  cases p with
  | ret value => exact hpost s t value hothers hrobust
  | call op next =>
      intro p' hrely
      exact hrobust p' ⟨hrely.1, htrans _ _ _ hothers hrely.2⟩

/-- The next operation is allowed, and the program stands after it. -/
theorem Stands.step {s : S} {conditions : W} {op : Op} {next : Answer op → Program Op Answer α}
    (hsame : reliance.others s s) (hconditions : reliance.conditions conditions s)
    (h : Stands exec reliance post s (.call op next)) :
    reliance.allowed s op ∧
      Stands exec reliance post (exec conditions op s).2 (next (exec conditions op s).1) := by
  obtain ⟨done, before, hrobust⟩ := h
  obtain ⟨hallowed, hnext⟩ := hrobust (conditions, s) ⟨hconditions, hsame⟩
  exact ⟨hallowed, op :: done, conditions, hnext⟩

theorem Stands.ended {s : S} {value : α} (h : Stands exec reliance post s (.ret value)) : post s value := by
  obtain ⟨done, conditions, hrobust⟩ := h
  exact hrobust

end Stands

/-! ### All parties together -/

section AllStand

variable [DecidableEq ι] (M : System ι Req Env W Op Answer S α) (Inv : S → Prop)
  (reliance : ι → Reliance W Op S) (post : ι → S → α → Prop)

structure AllStand (c : Config ι Op Answer S α) : Prop where
  shared : Inv c.shared
  parties : ∀ party p, c.running party = some p →
    Stands (M.exec party) (reliance party) (post party) c.shared p

/-- What makes the parties rely on each other with reason. -/
structure Sound (ok : Config ι Op Answer S α → Event ι Req Env W → Prop) : Prop where
  refl : ∀ party s, Inv s → (reliance party).others s s
  trans : ∀ party s t u, (reliance party).others s t → (reliance party).others t u →
    (reliance party).others s u
  stable : ∀ party s t value, (reliance party).others s t → post party s value → post party t value
  begin : ∀ c party request, Inv c.shared → ok c (.begin party request) →
    Stands (M.exec party) (reliance party) (post party) c.shared (M.start request)
  conditions : ∀ c party conditions, ok c (.step party conditions) →
    (reliance party).conditions conditions c.shared
  step : ∀ party conditions op s, Inv s → (reliance party).conditions conditions s →
    (reliance party).allowed s op → Inv (M.exec party conditions op s).2 ∧
      ∀ other, other ≠ party → (reliance other).others s (M.exec party conditions op s).2
  env : ∀ c action, Inv c.shared → ok c (.env action) →
    Inv (M.act action c.shared) ∧ ∀ party, (reliance party).others c.shared (M.act action c.shared)

variable {M} {Inv} {reliance} {post} {ok : Config ι Op Answer S α → Event ι Req Env W → Prop}

theorem allStand_apply (hsound : Sound M Inv reliance post ok) (c : Config ι Op Answer S α)
    (e : Event ι Req Env W) (h : AllStand M Inv reliance post c) (hok : ok c e) :
    AllStand M Inv reliance post (M.apply c e) := by
  obtain ⟨party, request, rfl, -, heq⟩ | ⟨party, conditions, op, next, rfl, hrunning, heq⟩ |
    ⟨party, rfl, heq⟩ | ⟨action, rfl, heq⟩ | heq := System.apply_cases (M := M) c e
  · rw [heq]
    refine ⟨h.shared, fun other p hp => ?_⟩
    dsimp only at hp ⊢
    by_cases hsame : other = party
    · subst hsame
      rw [Function.update_self] at hp
      rw [← Option.some.inj hp]
      exact hsound.begin c other request h.shared hok
    · rw [Function.update_of_ne hsame] at hp
      exact h.parties other p hp
  · rw [heq]
    have hconditions := hsound.conditions c party conditions hok
    have hhere := (h.parties party _ hrunning).step (hsound.refl party _ h.shared) hconditions
    have hmoved := hsound.step party conditions op c.shared h.shared hconditions hhere.1
    refine ⟨hmoved.1, fun other p hp => ?_⟩
    dsimp only at hp ⊢
    by_cases hsame : other = party
    · subst hsame
      rw [Function.update_self] at hp
      rw [← Option.some.inj hp]
      exact hhere.2
    · rw [Function.update_of_ne hsame] at hp
      exact (h.parties other p hp).moved (hsound.trans other) (hsound.stable other) (hmoved.2 other hsame)
  · rw [heq]
    refine ⟨h.shared, fun other p hp => ?_⟩
    dsimp only at hp ⊢
    by_cases hsame : other = party
    · subst hsame
      rw [Function.update_self] at hp
      cases hp
    · rw [Function.update_of_ne hsame] at hp
      exact h.parties other p hp
  · rw [heq]
    have hmoved := hsound.env c action h.shared hok
    refine ⟨hmoved.1, fun other p hp => ?_⟩
    exact (h.parties other p hp).moved (hsound.trans other) (hsound.stable other) (hmoved.2 other)
  · rwa [heq]

end AllStand

/-! ### How long a program runs -/

section Within

/-- The program performs at most so many operations. -/
def Within : Nat → Program Op Answer α → Prop
  | _, .ret _ => True
  | 0, .call _ _ => False
  | steps + 1, .call _ next => ∀ answer, Within steps (next answer)

theorem within_ret (steps : Nat) (value : α) : Within steps (.ret value : Program Op Answer α) := by
  cases steps with
  | zero => trivial
  | succ steps => trivial

theorem Within.mono {steps steps' : Nat} (hle : steps ≤ steps') {p : Program Op Answer α}
    (h : Within steps p) : Within steps' p := by
  induction p generalizing steps steps' with
  | ret value => exact within_ret steps' value
  | call op next ih =>
      cases steps with
      | zero => exact absurd h (fun h => h)
      | succ steps =>
          obtain ⟨steps', rfl⟩ : ∃ fewer, steps' = fewer + 1 := ⟨steps' - 1, by omega⟩
          exact fun answer => ih answer (by omega) (h answer)

theorem Within.bind {β : Type} {steps steps' : Nat} {p : Program Op Answer α}
    {f : α → Program Op Answer β} (h : Within steps p) (hf : ∀ value, Within steps' (f value)) :
    Within (steps + steps') (p >>= f) := by
  induction p generalizing steps with
  | ret value => exact (hf value).mono (Nat.le_add_left _ _)
  | call op next ih =>
      cases steps with
      | zero => exact absurd h (fun h => h)
      | succ steps =>
          rw [Nat.succ_add]
          exact fun answer => ih answer (h answer)

variable [DecidableEq ι] {M : System ι Req Env W Op Answer S α} {party : ι}

def Event.isStep (party : ι) : Event ι Req Env W → Bool
  | .step other _ => other = party
  | _ => false

/-- The event is not one that begins a program of the party or stops it. -/
def Event.Leaves (party : ι) : Event ι Req Env W → Prop
  | .begin other _ => other ≠ party
  | .stop other => other ≠ party
  | _ => True

/-- A program is at its end once the party has made as many steps as it performs operations. -/
theorem ended_of_steps {events : List (Event ι Req Env W)} (hleaves : ∀ e ∈ events, e.Leaves party)
    {steps : Nat} (hsteps : steps ≤ events.countP (Event.isStep party)) {c : Config ι Op Answer S α}
    {p : Program Op Answer α} (hrunning : c.running party = some p) (hwithin : Within steps p) :
    ∃ value, (M.run c events).running party = some (.ret value) := by
  induction events generalizing steps c p with
  | nil =>
      have hzero : steps = 0 := Nat.le_zero.mp hsteps
      subst hzero
      cases p with
      | ret value => exact ⟨value, hrunning⟩
      | call op next => exact absurd hwithin (fun h => h)
  | cons e events ih =>
      have hrest : ∀ e ∈ events, e.Leaves party := fun e he => hleaves e (List.mem_cons_of_mem _ he)
      have hhere : e.Leaves party := hleaves e (List.mem_cons_self ..)
      have hquiet : e.isStep party = false → (M.apply c e).running party = some p →
          ∃ value, (M.run (M.apply c e) events).running party = some (.ret value) := by
        intro hother hkept
        refine ih hrest ?_ hkept hwithin
        rw [List.countP_cons_of_neg (by simp [hother])] at hsteps
        exact hsteps
      cases e with
      | begin other request =>
          refine hquiet rfl ?_
          cases hbusy : c.busy other with
          | true => simp only [System.apply, hbusy, if_true, hrunning]
          | false =>
              simp only [System.apply, hbusy, Bool.false_eq_true, if_false]
              exact (Function.update_of_ne (Ne.symm hhere) _ _).trans hrunning
      | stop other => exact hquiet rfl ((Function.update_of_ne (Ne.symm hhere) _ _).trans hrunning)
      | env action => exact hquiet rfl hrunning
      | step other conditions =>
          by_cases hsame : other = party
          · subst hsame
            rw [List.countP_cons_of_pos (by simp [Event.isStep])] at hsteps
            cases p with
            | ret value =>
                refine ih hrest (Nat.zero_le _) ?_ (within_ret 0 value)
                simp only [System.apply, hrunning]
            | call op next =>
                cases steps with
                | zero => exact absurd hwithin (fun h => h)
                | succ steps =>
                    refine ih hrest (Nat.le_of_succ_le_succ hsteps) ?_
                      (hwithin (M.exec other conditions op c.shared).1)
                    simp only [System.apply, hrunning, Function.update_self]
          · refine hquiet (by simp [Event.isStep, hsame]) ?_
            rcases System.apply_cases (M := M) c (.step other conditions) with ⟨_, _, hbegin, -⟩ |
              ⟨_, _, op, next, hstep, -, heq⟩ | ⟨_, hstop, -⟩ | ⟨_, henv, -⟩ | heq
            · cases hbegin
            · cases hstep
              rw [heq]
              exact (Function.update_of_ne (Ne.symm hsame) _ _).trans hrunning
            · cases hstop
            · cases henv
            · rw [heq, hrunning]

end Within

end Peers
