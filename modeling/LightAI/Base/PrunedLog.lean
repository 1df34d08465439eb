import LightAI.Base.Trace

/-!
# Logs that are appended to and pruned

Each event of a run removes some of the records that are there and appends others. After the run there are,
in the order in which they came, the records that no later event has removed. A window takes those of a
span of time out of the log, sorted by their time.
-/

namespace PrunedLog

variable {σ ε ρ : Type}

section Runs

variable (step : σ → ε → σ) (removes : σ → ε → ρ → Bool) (appends : σ → ε → List ρ)

/-- No event of the run removes the record. -/
def outlives (s : σ) : List ε → ρ → Bool
  | [], _ => true
  | e :: events, r => !removes s e r && outlives (step s e) events r

/-- All records that the events append. -/
def appended (s : σ) : List ε → List ρ
  | [] => []
  | e :: events => appends s e ++ appended (step s e) events

/-- The records that the events append and that no later one removes. -/
def survivors (s : σ) : List ε → List ρ
  | [] => []
  | e :: events => (appends s e).filter (outlives step removes (step s e) events)
      ++ survivors (step s e) events

variable {step} {removes} {appends}

/-- What is in the log after a run. -/
theorem log_run {log : σ → List ρ}
    (hstep : ∀ s e, log (step s e) = ((log s).filter fun r => !removes s e r) ++ appends s e) (s : σ)
    (events : List ε) :
    log (Trace.run step s events)
      = (log s).filter (outlives step removes s events) ++ survivors step removes appends s events := by
  induction events generalizing s with
  | nil =>
      have hall : (log s).filter (outlives step removes s []) = log s :=
        List.filter_eq_self.mpr fun r _ => rfl
      rw [hall]
      exact (List.append_nil _).symm
  | cons e events ih =>
      rw [Trace.run_cons, ih, hstep, List.filter_append, List.filter_filter, List.append_assoc]
      congr 1
      refine List.filter_congr fun r _ => ?_
      exact Bool.and_comm _ _

/-- Records that no event of the run removes are those that it appends. -/
theorem filter_survivors {p : ρ → Bool} (s : σ) (events : List ε)
    (hkept : Trace.Along step (fun s e => ∀ r, p r = true → removes s e r = false) s events) :
    (survivors step removes appends s events).filter p = (appended step appends s events).filter p := by
  have houtlives : ∀ events s, Trace.Along step (fun s e => ∀ r, p r = true → removes s e r = false)
      s events → ∀ r, p r = true → outlives step removes s events r = true := by
    intro events
    induction events with
    | nil => exact fun _ _ _ _ => rfl
    | cons e events ih =>
        intro s hkept r hr
        have hhere := hkept.1 r hr
        have hlater := ih (step s e) hkept.2 r hr
        simp [outlives, hhere, hlater]
  induction events generalizing s with
  | nil => rfl
  | cons e events ih =>
      have hhere : ((appends s e).filter (outlives step removes (step s e) events)).filter p
          = (appends s e).filter p := by
        rw [List.filter_filter]
        refine List.filter_congr fun r _ => ?_
        by_cases hr : p r = true
        · rw [houtlives events (step s e) hkept.2 r hr, hr]
          rfl
        · have hnot : p r = false := Bool.not_eq_true _ ▸ hr
          rw [hnot, Bool.false_and]
      calc ((appends s e).filter (outlives step removes (step s e) events)
              ++ survivors step removes appends (step s e) events).filter p
          = (appends s e).filter p
              ++ (survivors step removes appends (step s e) events).filter p := by
            rw [List.filter_append, hhere]
        _ = (appends s e).filter p ++ (appended step appends (step s e) events).filter p := by
            rw [ih (step s e) hkept.2]
        _ = (appended step appends s (e :: events)).filter p := (List.filter_append ..).symm

end Runs

/-! ### Windows -/

section Windows

variable (time : ρ → Int)

def inWindow (p : ρ → Bool) (earliest latest : Int) (r : ρ) : Bool :=
  p r && earliest ≤ time r && time r ≤ latest

/-- `SELECT ... WHERE p AND time >= from AND time <= to ORDER BY time`. -/
def window (p : ρ → Bool) (earliest latest : Int) (log : List ρ) : List ρ :=
  (log.filter (inWindow time p earliest latest)).insertionSort fun a b => time a ≤ time b

/-- The least and the greatest of some times, one after the other. -/
def range : List Int → Option Int × Option Int
  | [] => (none, none)
  | first :: rest =>
      let bounds := rest.foldl (fun bounds t => (min bounds.1 t, max bounds.2 t)) (first, first)
      (some bounds.1, some bounds.2)

variable {time} {p : ρ → Bool} {earliest latest : Int} {log : List ρ}

theorem window_perm : (window time p earliest latest log).Perm (log.filter (inWindow time p earliest latest)) :=
  List.perm_insertionSort _ _

theorem window_sorted : (window time p earliest latest log).Pairwise fun a b => time a ≤ time b := by
  have : Std.Total fun a b : ρ => time a ≤ time b := ⟨fun a b => le_total (time a) (time b)⟩
  have : IsTrans ρ fun a b => time a ≤ time b := ⟨fun a b c => le_trans⟩
  exact List.pairwise_insertionSort _ _

theorem range_foldl (rest : List Int) (least most : Int)
    (hsorted : (most :: rest).Pairwise (· ≤ ·)) (hle : least ≤ most) :
    rest.foldl (fun bounds t => (min bounds.1 t, max bounds.2 t)) (least, most)
      = (least, (most :: rest).getLast (List.cons_ne_nil _ _)) := by
  induction rest generalizing most with
  | nil => rfl
  | cons t rest ih =>
      obtain ⟨hfirst, htail⟩ := List.pairwise_cons.mp hsorted
      have hnext : most ≤ t := hfirst t (List.mem_cons_self ..)
      rw [List.foldl_cons, min_eq_left (hle.trans hnext), max_eq_right hnext, ih t htail (hle.trans hnext)]
      rw [List.getLast_cons_cons]

/-- Of sorted times they are the first and the last. -/
theorem range_of_sorted {times : List Int} (hsorted : times.Pairwise (· ≤ ·)) :
    range times = (times.head?, times.getLast?) := by
  cases times with
  | nil => rfl
  | cons first rest =>
      unfold range
      dsimp only
      rw [range_foldl rest first first hsorted le_rfl, List.getLast?_eq_some_getLast (List.cons_ne_nil _ _)]
      rfl

end Windows

end PrunedLog
