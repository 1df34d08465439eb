import LightAI.Base.Program
import LightAI.Base.Trace

/-!
# Interleaved programs

Requests arrive, each starts a program, and the programs advance one operation at a time in any
order; a program may also be dropped between two operations. The shared state may change by itself
through the actions of the environment.
-/

namespace Interleaving

universe u

variable {Req Env : Type} {Op : Type u} {Answer : Op → Type} {S α : Type}

/-- What a request runs, what an operation does and what the environment may do. -/
structure System (Req Env : Type) (Op : Type u) (Answer : Op → Type) (S α : Type) where
  handle : Req → Program Op Answer α
  exec : (op : Op) → S → Answer op × S
  act : Env → S → S

/-- A request under way: what is left of its program and, latest first, the operations that it has
performed. -/
structure Thread (Req : Type) (Op : Type u) (Answer : Op → Type) (α : Type) where
  request : Req
  rest : Program Op Answer α
  done : List Op := []
  dropped : Bool := false

/-- The value with which a thread has ended. -/
def Thread.result (t : Thread Req Op Answer α) : Option α :=
  match t.rest with
  | .ret value => some value
  | .call _ _ => none

structure Config (Req : Type) (Op : Type u) (Answer : Op → Type) (S α : Type) where
  shared : S
  threads : List (Thread Req Op Answer α) := []

inductive Event (Req Env : Type) where
  | spawn (request : Req)
  | step (index : Nat)
  | drop (index : Nat)
  | env (action : Env)

namespace System

variable (M : System Req Env Op Answer S α)

/-- A thread performs its next operation. A dropped or finished thread performs none. -/
def advance (t : Thread Req Op Answer α) (s : S) : Thread Req Op Answer α × S :=
  if t.dropped then (t, s)
  else match t.rest with
    | .ret _ => (t, s)
    | .call op next =>
        ({ t with rest := next (M.exec op s).1, done := op :: t.done }, (M.exec op s).2)

def apply (c : Config Req Op Answer S α) : Event Req Env → Config Req Op Answer S α
  | .spawn request => { c with threads := c.threads ++ [{ request, rest := M.handle request }] }
  | .step index =>
      match c.threads[index]? with
      | none => c
      | some t =>
          { shared := (M.advance t c.shared).2
            threads := c.threads.set index (M.advance t c.shared).1 }
  | .drop index =>
      match c.threads[index]? with
      | none => c
      | some t => { c with threads := c.threads.set index { t with dropped := true } }
  | .env action => { c with shared := M.act action c.shared }

/-- The thread and the operation that an event performs, if it performs one. -/
def performed (c : Config Req Op Answer S α) : Event Req Env → Option (Thread Req Op Answer α × Op)
  | .step index =>
      match c.threads[index]? with
      | none => none
      | some t =>
          if t.dropped then none
          else match t.rest with
            | .ret _ => none
            | .call op _ => some (t, op)
  | _ => none

abbrev run (c : Config Req Op Answer S α) (events : List (Event Req Env)) :
    Config Req Op Answer S α := Trace.run M.apply c events

variable {M}

theorem advance_of_call {t : Thread Req Op Answer α} {op : Op}
    {next : Answer op → Program Op Answer α} (hlive : t.dropped = false) (hrest : t.rest = .call op next)
    (s : S) : M.advance t s
      = ({ t with rest := next (M.exec op s).1, done := op :: t.done }, (M.exec op s).2) := by
  simp [advance, hlive, hrest]

/-- What an event can do: start a program, perform one operation of one thread, drop a thread, let
the environment act, or nothing. -/
theorem apply_cases (c : Config Req Op Answer S α) (e : Event Req Env) :
    (∃ request, e = .spawn request ∧ performed c e = none ∧
        M.apply c e = { c with threads := c.threads ++ [{ request, rest := M.handle request }] }) ∨
    (∃ index t op next, e = .step index ∧ c.threads[index]? = some t ∧ t.dropped = false ∧
        t.rest = .call op next ∧ performed c e = some (t, op) ∧
        M.apply c e =
          { shared := (M.exec op c.shared).2
            threads := c.threads.set index
              { t with rest := next (M.exec op c.shared).1, done := op :: t.done } }) ∨
    (∃ index t, e = .drop index ∧ c.threads[index]? = some t ∧ performed c e = none ∧
        M.apply c e = { c with threads := c.threads.set index { t with dropped := true } }) ∨
    (∃ action, e = .env action ∧ performed c e = none ∧
        M.apply c e = { c with shared := M.act action c.shared }) ∨
    (performed c e = none ∧ M.apply c e = c) := by
  cases e with
  | spawn request => exact .inl ⟨request, rfl, rfl, rfl⟩
  | env action => exact .inr (.inr (.inr (.inl ⟨action, rfl, rfl, rfl⟩)))
  | drop index =>
      cases hget : c.threads[index]? with
      | none => exact .inr (.inr (.inr (.inr ⟨rfl, by simp [apply, hget]⟩)))
      | some t => exact .inr (.inr (.inl ⟨index, t, rfl, hget, rfl, by simp [apply, hget]⟩))
  | step index =>
      cases hget : c.threads[index]? with
      | none => exact .inr (.inr (.inr (.inr ⟨by simp [performed, hget], by simp [apply, hget]⟩)))
      | some t =>
          have hsame : c.threads.set index t = c.threads := by
            obtain ⟨hlt, rfl⟩ := List.getElem?_eq_some_iff.mp hget
            exact List.set_getElem_self hlt
          cases hdropped : t.dropped with
          | true =>
              refine .inr (.inr (.inr (.inr ⟨by simp [performed, hget, hdropped], ?_⟩)))
              simp [apply, hget, advance, hdropped, hsame]
          | false =>
              cases hrest : t.rest with
              | ret value =>
                  refine .inr (.inr (.inr (.inr ⟨by simp [performed, hget, hrest], ?_⟩)))
                  simp [apply, hget, advance, hrest, hsame]
              | call op next =>
                  refine .inr (.inl ⟨index, t, op, next, rfl, hget, hdropped, hrest, ?_, ?_⟩)
                  · simp [performed, hget, hdropped, hrest]
                  · simp [apply, hget, advance_of_call hdropped hrest]

/-- The shared state moves by the operation performed, by the environment, or not at all. -/
theorem apply_shared (c : Config Req Op Answer S α) (e : Event Req Env) :
    (∃ t op, performed c e = some (t, op) ∧ (M.apply c e).shared = (M.exec op c.shared).2) ∨
    (performed c e = none ∧ ∃ action, (M.apply c e).shared = M.act action c.shared) ∨
    (performed c e = none ∧ (M.apply c e).shared = c.shared) := by
  rcases apply_cases (M := M) c e with ⟨request, -, hnone, heq⟩ |
    ⟨index, t, op, next, -, -, -, -, hperf, heq⟩ | ⟨index, t, -, -, hnone, heq⟩ |
    ⟨action, -, hnone, heq⟩ | ⟨hnone, heq⟩
  · exact .inr (.inr ⟨hnone, by rw [heq]⟩)
  · exact .inl ⟨t, op, hperf, by rw [heq]⟩
  · exact .inr (.inr ⟨hnone, by rw [heq]⟩)
  · exact .inr (.inl ⟨hnone, action, by rw [heq]⟩)
  · exact .inr (.inr ⟨hnone, by rw [heq]⟩)

theorem mem_of_performed {c : Config Req Op Answer S α} {e : Event Req Env}
    {t : Thread Req Op Answer α} {op : Op} (hperf : performed c e = some (t, op)) :
    t ∈ c.threads := by
  cases e with
  | step index =>
      simp only [performed] at hperf
      cases hget : c.threads[index]? with
      | none => simp [hget] at hperf
      | some t' =>
          have ht' : t' ∈ c.threads := List.mem_of_getElem? hget
          cases hdropped : t'.dropped with
          | true => simp [hget, hdropped] at hperf
          | false =>
              cases hrest : t'.rest with
              | ret value => simp [hget, hrest] at hperf
              | call op' next =>
                  simp only [hget, hdropped, hrest] at hperf
                  obtain ⟨rfl, -⟩ := Prod.mk.inj (Option.some.inj hperf)
                  exact ht'
  | _ => exact nomatch hperf

/-- A relation that every operation and every action of the environment respects relates the shared
state before an event to the one after it. -/
theorem apply_rel {R : S → S → Prop} (hrefl : ∀ s, R s s) (hexec : ∀ op s, R s (M.exec op s).2)
    (hact : ∀ a s, R s (M.act a s)) (c : Config Req Op Answer S α) (e : Event Req Env) :
    R c.shared (M.apply c e).shared := by
  rcases apply_shared (M := M) c e with ⟨t, op, -, heq⟩ | ⟨-, action, heq⟩ | ⟨-, heq⟩
  · rw [heq]
    exact hexec op c.shared
  · rw [heq]
    exact hact action c.shared
  · rw [heq]
    exact hrefl c.shared

/-- After an event a thread has done what some thread had done before, or nothing yet, or it is the
thread that has performed the event's operation. -/
theorem apply_done {c : Config Req Op Answer S α} {e : Event Req Env}
    {t' : Thread Req Op Answer α} (ht' : t' ∈ (M.apply c e).threads) :
    t'.done = [] ∨ (∃ t ∈ c.threads, t'.done = t.done) ∨
      ∃ t op, performed c e = some (t, op) ∧ t ∈ c.threads ∧ t'.done = op :: t.done := by
  rcases apply_cases (M := M) c e with ⟨request, -, -, heq⟩ |
    ⟨index, t, op, next, -, hget, -, -, hperf, heq⟩ | ⟨index, t, -, hget, -, heq⟩ |
    ⟨action, -, -, heq⟩ | ⟨-, heq⟩
  · rw [heq] at ht'
    rcases List.mem_append.mp ht' with ht' | ht'
    · exact .inr (.inl ⟨t', ht', rfl⟩)
    · rw [List.mem_singleton.mp ht']
      exact .inl rfl
  · rw [heq] at ht'
    have ht : t ∈ c.threads := List.mem_of_getElem? hget
    rcases List.mem_or_eq_of_mem_set ht' with ht' | rfl
    · exact .inr (.inl ⟨t', ht', rfl⟩)
    · exact .inr (.inr ⟨t, op, hperf, ht, rfl⟩)
  · rw [heq] at ht'
    rcases List.mem_or_eq_of_mem_set ht' with ht' | rfl
    · exact .inr (.inl ⟨t', ht', rfl⟩)
    · exact .inr (.inl ⟨t, List.mem_of_getElem? hget, rfl⟩)
  · rw [heq] at ht'
    exact .inr (.inl ⟨t', ht', rfl⟩)
  · rw [heq] at ht'
    exact .inr (.inl ⟨t', ht', rfl⟩)

/-! ### What the threads may still perform -/

/-- What is left of every thread performs only operations that `ok` allows. -/
def AllPerform (ok : Op → Prop) (c : Config Req Op Answer S α) : Prop :=
  ∀ t ∈ c.threads, t.rest.Performs ok

theorem allPerform_apply {ok : Op → Prop} (hhandle : ∀ request, (M.handle request).Performs ok)
    (c : Config Req Op Answer S α) (e : Event Req Env) (h : AllPerform ok c) :
    AllPerform ok (M.apply c e) := by
  rcases apply_cases (M := M) c e with ⟨request, -, -, heq⟩ |
    ⟨index, t, op, next, -, hget, -, hrest, -, heq⟩ | ⟨index, t, -, hget, -, heq⟩ |
    ⟨action, -, -, heq⟩ | ⟨-, heq⟩
  · rw [heq]
    intro t ht
    rcases List.mem_append.mp ht with ht | ht
    · exact h t ht
    · rw [List.mem_singleton.mp ht]
      exact hhandle request
  · have hperforms := h t (List.mem_of_getElem? hget)
    rw [hrest] at hperforms
    rw [heq]
    intro t' ht'
    rcases List.mem_or_eq_of_mem_set ht' with ht' | rfl
    · exact h t' ht'
    · exact hperforms.2 _
  · rw [heq]
    intro t' ht'
    rcases List.mem_or_eq_of_mem_set ht' with ht' | rfl
    · exact h t' ht'
    · exact h t (List.mem_of_getElem? hget)
  · rw [heq]
    exact h
  · rwa [heq]

theorem AllPerform.performed {ok : Op → Prop} {c : Config Req Op Answer S α} {e : Event Req Env}
    {t : Thread Req Op Answer α} {op : Op} (h : AllPerform ok c)
    (hperf : System.performed c e = some (t, op)) : ok op := by
  cases e with
  | step index =>
      simp only [System.performed] at hperf
      cases hget : c.threads[index]? with
      | none => simp [hget] at hperf
      | some t' =>
          have hperforms := h t' (List.mem_of_getElem? hget)
          cases hrest : t'.rest with
          | ret value => simp [hget, hrest] at hperf
          | call op' next =>
              rw [hrest] at hperforms
              simp only [hget, hrest] at hperf
              split at hperf
              · cases hperf
              · rw [← (Prod.mk.inj (Option.some.inj hperf)).2]
                exact hperforms.1
  | _ => cases hperf

/-! ### Rely and guarantee -/

section RelyGuarantee

variable {rely : S → S → Prop} {pre : List Op → S → Op → Prop} {post : List Op → S → α → Prop}

/-- Every thread is robust from where it stands. -/
def AllRobust (M : System Req Env Op Answer S α) (rely : S → S → Prop)
    (pre : List Op → S → Op → Prop) (post : List Op → S → α → Prop)
    (c : Config Req Op Answer S α) : Prop :=
  ∀ t ∈ c.threads, t.rest.Robust M.exec rely pre post t.done c.shared

/-- If no permitted operation and no action of the environment leaves `rely`, and every request starts
a robust program in the states of interest, then all threads stay robust. -/
theorem allRobust_apply {Inv : S → Prop} (hrefl : ∀ s, rely s s)
    (htrans : ∀ s t u, rely s t → rely t u → rely s u)
    (hpost : ∀ done s s' value, rely s s' → post done s value → post done s' value)
    (hexec : ∀ done op s, pre done s op → rely s (M.exec op s).2)
    (hact : ∀ a s, rely s (M.act a s))
    (hhandle : ∀ request s, Inv s → (M.handle request).Robust M.exec rely pre post [] s)
    (c : Config Req Op Answer S α) (e : Event Req Env) (hinv : Inv c.shared)
    (h : AllRobust M rely pre post c) : AllRobust M rely pre post (M.apply c e) := by
  have hkeep : ∀ s', rely c.shared s' → ∀ t ∈ c.threads,
      t.rest.Robust M.exec rely pre post t.done s' :=
    fun s' hs' t ht => (h t ht).weaken htrans hpost hs'
  rcases apply_cases (M := M) c e with ⟨request, -, -, heq⟩ |
    ⟨index, t, op, next, -, hget, -, hrest, -, heq⟩ | ⟨index, t, -, hget, -, heq⟩ |
    ⟨action, -, -, heq⟩ | ⟨-, heq⟩
  · rw [heq]
    intro t ht
    rcases List.mem_append.mp ht with ht | ht
    · exact h t ht
    · rw [List.mem_singleton.mp ht]
      exact hhandle request c.shared hinv
  · have hrobust := h t (List.mem_of_getElem? hget)
    rw [hrest] at hrobust
    have hpre := (hrobust c.shared (hrefl _)).1
    rw [heq]
    intro t' ht'
    rcases List.mem_or_eq_of_mem_set ht' with ht' | rfl
    · exact hkeep _ (hexec t.done op c.shared hpre) t' ht'
    · exact (hrobust c.shared (hrefl _)).2
  · rw [heq]
    intro t' ht'
    rcases List.mem_or_eq_of_mem_set ht' with ht' | rfl
    · exact h t' ht'
    · exact h t (List.mem_of_getElem? hget)
  · rw [heq]
    exact hkeep _ (hact action c.shared)
  · rwa [heq]

/-- Where nothing is relied on but an invariant of the shared state, all threads stay robust as long as
the invariant holds, whatever the operations do to it. -/
theorem allRobust_apply_of_inv {Inv : S → Prop} {ends : List Op → α → Prop}
    (hhandle : ∀ request s, (M.handle request).Robust M.exec (fun _ s' => Inv s') pre
      (fun done _ value => ends done value) [] s)
    (c : Config Req Op Answer S α) (e : Event Req Env) (hinv : Inv c.shared)
    (h : AllRobust M (fun _ s' => Inv s') pre (fun done _ value => ends done value) c) :
    AllRobust M (fun _ s' => Inv s') pre (fun done _ value => ends done value) (M.apply c e) := by
  have hkeep : ∀ s', ∀ t ∈ c.threads, t.rest.Robust M.exec (fun _ s' => Inv s') pre
      (fun done _ value => ends done value) t.done s' := fun s' t ht => (h t ht).anywhere s'
  rcases apply_cases (M := M) c e with ⟨request, -, -, heq⟩ |
    ⟨index, t, op, next, -, hget, -, hrest, -, heq⟩ | ⟨index, t, -, hget, -, heq⟩ |
    ⟨action, -, -, heq⟩ | ⟨-, heq⟩
  · rw [heq]
    intro t ht
    rcases List.mem_append.mp ht with ht | ht
    · exact h t ht
    · rw [List.mem_singleton.mp ht]
      exact hhandle request c.shared
  · have hrobust := h t (List.mem_of_getElem? hget)
    rw [hrest] at hrobust
    rw [heq]
    intro t' ht'
    rcases List.mem_or_eq_of_mem_set ht' with ht' | rfl
    · exact hkeep _ t' ht'
    · exact (hrobust c.shared hinv).2
  · rw [heq]
    intro t' ht'
    rcases List.mem_or_eq_of_mem_set ht' with ht' | rfl
    · exact h t' ht'
    · exact h t (List.mem_of_getElem? hget)
  · rw [heq]
    exact hkeep _
  · rwa [heq]

/-- Of a robust thread, the operation that an event performs meets its precondition. -/
theorem AllRobust.performed_of_rely {c : Config Req Op Answer S α} {e : Event Req Env}
    {t : Thread Req Op Answer α} {op : Op} (hhere : rely c.shared c.shared)
    (h : AllRobust M rely pre post c) (hperf : System.performed c e = some (t, op)) :
    pre t.done c.shared op := by
  rcases apply_cases (M := M) c e with ⟨request, -, hnone, -⟩ |
    ⟨index, t', op', next, -, hget, -, hrest, hperf', -⟩ | ⟨index, t', -, -, hnone, -⟩ |
    ⟨action, -, hnone, -⟩ | ⟨hnone, -⟩
  · simp [hnone] at hperf
  · rw [hperf'] at hperf
    obtain ⟨rfl, rfl⟩ := Prod.mk.inj (Option.some.inj hperf)
    have hrobust := h t' (List.mem_of_getElem? hget)
    rw [hrest] at hrobust
    exact (hrobust c.shared hhere).1
  · simp [hnone] at hperf
  · simp [hnone] at hperf
  · simp [hnone] at hperf

theorem AllRobust.performed (hrefl : ∀ s, rely s s) {c : Config Req Op Answer S α}
    {e : Event Req Env} {t : Thread Req Op Answer α} {op : Op}
    (h : AllRobust M rely pre post c) (hperf : System.performed c e = some (t, op)) :
    pre t.done c.shared op :=
  h.performed_of_rely (hrefl _) hperf

theorem AllRobust.result {c : Config Req Op Answer S α} {t : Thread Req Op Answer α} {value : α}
    (h : AllRobust M rely pre post c) (ht : t ∈ c.threads) (hresult : t.result = some value) :
    post t.done c.shared value := by
  have hrobust := h t ht
  unfold Thread.result at hresult
  cases hrest : t.rest with
  | ret value' =>
      rw [hrest] at hresult hrobust
      rwa [← Option.some.inj hresult]
  | call op next => simp [hrest] at hresult

end RelyGuarantee

/-! ### Counting what threads have done -/

section Counting

theorem sum_map_set {β : Type*} (f : β → Nat) {l : List β} {index : Nat} {b b' : β} {k : Nat}
    (hget : l[index]? = some b) (hadd : f b' = f b + k) :
    ((l.set index b').map f).sum = (l.map f).sum + k := by
  induction l generalizing index with
  | nil => simp at hget
  | cons head l ih =>
      cases index with
      | zero =>
          obtain rfl : head = b := by simpa using hget
          simp only [List.set_cons_zero, List.map_cons, List.sum_cons, hadd]
          omega
      | succ index =>
          have hrest := ih (by simpa using hget)
          simp only [List.set_cons_succ, List.map_cons, List.sum_cons, hrest]
          omega

theorem countP_le_sum_map {β : Type*} {p : β → Bool} {f : β → Nat} {l : List β}
    (h : ∀ b ∈ l, p b = true → 1 ≤ f b) : l.countP p ≤ (l.map f).sum := by
  induction l with
  | nil => simp
  | cons head l ih =>
      have hrest := ih fun b hb => h b (List.mem_cons_of_mem head hb)
      rw [List.countP_cons, List.map_cons, List.sum_cons]
      split
      · have hhead := h head List.mem_cons_self ‹_›
        omega
      · omega

/-- How many operations of a kind the threads have performed. -/
def performedCount (p : Op → Bool) (c : Config Req Op Answer S α) : Nat :=
  (c.threads.map fun t => t.done.countP p).sum

theorem performedCount_apply (p : Op → Bool) (c : Config Req Op Answer S α) (e : Event Req Env) :
    performedCount p (M.apply c e) = performedCount p c +
      match System.performed c e with
      | some (_, op) => if p op then 1 else 0
      | none => 0 := by
  unfold performedCount
  rcases apply_cases (M := M) c e with ⟨request, -, hnone, heq⟩ |
    ⟨index, t, op, next, -, hget, -, -, hperf, heq⟩ | ⟨index, t, -, hget, hnone, heq⟩ |
    ⟨action, -, hnone, heq⟩ | ⟨hnone, heq⟩
  · simp [heq, hnone]
  · rw [heq, hperf]
    exact sum_map_set (fun t : Thread Req Op Answer α => t.done.countP p) hget
      (List.countP_cons ..)
  · rw [heq, hnone]
    exact sum_map_set (fun t : Thread Req Op Answer α => t.done.countP p) hget rfl
  · simp [heq, hnone]
  · simp [heq, hnone]

end Counting

/-! ### One thread alone -/

/-- The last thread, left alone, does in the interleaved system what its program does when it is run
in one go. -/
theorem run_alone (s : S) (before : List (Thread Req Op Answer α)) (request : Req)
    (p : Program Op Answer α) (done : List Op) :
    ∃ steps done', M.run ⟨s, before ++ [{ request, rest := p, done }]⟩
        (List.replicate steps (.step before.length))
      = ⟨(p.run M.exec s).2, before ++ [{ request, rest := .ret (p.run M.exec s).1, done := done' }]⟩
      := by
  induction p generalizing s done with
  | ret value => exact ⟨0, done, rfl⟩
  | call op next ih =>
      obtain ⟨steps, done', hrun⟩ := ih (M.exec op s).1 (M.exec op s).2 (op :: done)
      refine ⟨steps + 1, done', ?_⟩
      refine Eq.trans ?_ hrun
      change Trace.run M.apply (M.apply _ _) _ = Trace.run M.apply _ _
      congr 1
      simp [apply, advance]

end System

end Interleaving
