import LightAI.Base.Interleaving

/-!
# What a program has been told

What an interleaved program performs next depends on the answers it has had, each given in the state in
which it was asked for. The dialogue of a thread is what it has performed together with the answers. A
condition on the dialogue says what the thread acts on, however much the state has changed since.
-/

universe u

/-- An operation with the answer that it had. -/
structure Exchange (Op : Type u) (Answer : Op → Type) where
  op : Op
  answer : Answer op

namespace Program

variable {Op : Type u} {Answer : Op → Type} {α β : Type}
  {ok : List (Exchange Op Answer) → Op → Prop}

/-- After the exchanges `past`, the latest first, the program performs only what `ok` allows after what
it has been told, and ends as `post` says. -/
def Heeds (ok : List (Exchange Op Answer) → Op → Prop) (post : List (Exchange Op Answer) → α → Prop) :
    List (Exchange Op Answer) → Program Op Answer α → Prop
  | past, ret value => post past value
  | past, call op next => ok past op ∧ ∀ answer, Heeds ok post (⟨op, answer⟩ :: past) (next answer)

theorem Heeds.mono {post post' : List (Exchange Op Answer) → α → Prop}
    (himp : ∀ past value, post past value → post' past value) {past : List (Exchange Op Answer)}
    {p : Program Op Answer α} (h : p.Heeds ok post past) : p.Heeds ok post' past := by
  induction p generalizing past with
  | ret value => exact himp past value h
  | call op next ih => exact ⟨h.1, fun answer => ih answer (h.2 answer)⟩

theorem Heeds.bind {post : List (Exchange Op Answer) → α → Prop}
    {post' : List (Exchange Op Answer) → β → Prop} {past : List (Exchange Op Answer)}
    {p : Program Op Answer α} {f : α → Program Op Answer β} (hp : p.Heeds ok post past)
    (hf : ∀ past value, post past value → (f value).Heeds ok post' past) :
    (p >>= f).Heeds ok post' past := by
  induction p generalizing past with
  | ret value => exact hf past value hp
  | call op next ih => exact ⟨hp.1, fun answer => ih answer (hp.2 answer)⟩

end Program

namespace Interleaving

namespace System

variable {Req Env : Type} {Op : Type u} {Answer : Op → Type} {S α : Type}
  (M : System Req Env Op Answer S α)

/-- The dialogues of the threads, after an event. -/
def noteAnswer (c : Config Req Op Answer S α) (e : Event Req Env)
    (told : Nat → List (Exchange Op Answer)) : Nat → List (Exchange Op Answer) :=
  match e with
  | .step index =>
      match performed c e with
      | none => told
      | some (_, op) => Function.update told index (⟨op, (M.exec op c.shared).1⟩ :: told index)
  | _ => told

theorem noteAnswer_of_none {c : Config Req Op Answer S α} {e : Event Req Env}
    {told : Nat → List (Exchange Op Answer)} (hnone : performed c e = none) :
    M.noteAnswer c e told = told := by
  cases e with
  | step index => simp only [noteAnswer, hnone]
  | _ => rfl

theorem noteAnswer_of_performed {c : Config Req Op Answer S α} {index : Nat}
    {t : Thread Req Op Answer α} {op : Op} {told : Nat → List (Exchange Op Answer)}
    (hperf : performed c (.step index : Event Req Env) = some (t, op)) :
    M.noteAnswer c (.step index) told
      = Function.update told index (⟨op, (M.exec op c.shared).1⟩ :: told index) := by
  simp only [noteAnswer, hperf]

/-- Every thread goes on as its request allows after what it has been told. -/
structure Attentive (ok : Req → List (Exchange Op Answer) → Op → Prop)
    (told : Nat → List (Exchange Op Answer)) (c : Config Req Op Answer S α) : Prop where
  unborn : ∀ index, c.threads.length ≤ index → told index = []
  heeds : ∀ (index : Nat) t, c.threads[index]? = some t →
    t.rest.Heeds (ok t.request) (fun _ _ => True) (told index)

variable {M} {ok : Req → List (Exchange Op Answer) → Op → Prop}

theorem attentive_start (s : S) : Attentive ok (fun _ => []) (⟨s, []⟩ : Config Req Op Answer S α) where
  unborn _ _ := rfl
  heeds index t hget := by simp at hget

/-- A thread that is replaced by one that goes on as allowed leaves the others as they were. -/
theorem Attentive.set {c : Config Req Op Answer S α} {told told' : Nat → List (Exchange Op Answer)}
    (h : Attentive ok told c) {index : Nat} {t t' : Thread Req Op Answer α} {s' : S}
    (hget : c.threads[index]? = some t) (hsame : ∀ other, other ≠ index → told' other = told other)
    (hown : t'.rest.Heeds (ok t'.request) (fun _ _ => True) (told' index)) :
    Attentive ok told' ({ shared := s', threads := c.threads.set index t' } : Config Req Op Answer S α) := by
  have hlt : index < c.threads.length := (List.getElem?_eq_some_iff.mp hget).1
  constructor
  · intro other hother
    dsimp only at hother
    rw [List.length_set] at hother
    rw [hsame other (by omega)]
    exact h.unborn other hother
  · intro other u hu
    dsimp only at hu
    by_cases heq : other = index
    · subst heq
      rw [List.getElem?_set_self hlt] at hu
      rw [← Option.some.inj hu]
      exact hown
    · rw [List.getElem?_set_ne (Ne.symm heq)] at hu
      rw [hsame other heq]
      exact h.heeds other u hu

theorem attentive_apply
    (hhandle : ∀ request, (M.handle request).Heeds (ok request) (fun _ _ => True) [])
    {c : Config Req Op Answer S α} {told : Nat → List (Exchange Op Answer)} (e : Event Req Env)
    (h : Attentive ok told c) : Attentive ok (M.noteAnswer c e told) (M.apply c e) := by
  rcases apply_cases (M := M) c e with ⟨request, -, hnone, heq⟩ |
    ⟨index, t, op, next, rfl, hget, -, hrest, hperf, heq⟩ | ⟨index, t, -, hget, hnone, heq⟩ |
    ⟨action, -, hnone, heq⟩ | ⟨hnone, heq⟩
  · rw [M.noteAnswer_of_none hnone, heq]
    constructor
    · intro index hindex
      dsimp only at hindex
      rw [List.length_append] at hindex
      exact h.unborn index (by omega)
    · intro index t ht
      dsimp only at ht
      by_cases hlt : index < c.threads.length
      · rw [List.getElem?_append_left hlt] at ht
        exact h.heeds index t ht
      · rw [List.getElem?_append_right (by omega)] at ht
        have hnew : t = { request, rest := M.handle request } :=
          List.mem_singleton.mp (List.mem_of_getElem? ht)
        rw [hnew, h.unborn index (by omega)]
        exact hhandle request
  · rw [M.noteAnswer_of_performed hperf, heq]
    refine h.set hget (fun other hother => Function.update_of_ne hother _ _) ?_
    have hheeds := h.heeds index t hget
    rw [hrest] at hheeds
    rw [Function.update_self]
    exact hheeds.2 _
  · rw [M.noteAnswer_of_none hnone, heq]
    exact h.set hget (fun other _ => rfl) (h.heeds index t hget)
  · rw [M.noteAnswer_of_none hnone, heq]
    exact ⟨h.unborn, h.heeds⟩
  · rw [M.noteAnswer_of_none hnone, heq]
    exact h

/-- What a thread performs is allowed after what it has been told. -/
theorem Attentive.allowed {c : Config Req Op Answer S α} {told : Nat → List (Exchange Op Answer)}
    (h : Attentive ok told c) {index : Nat} {t : Thread Req Op Answer α} {op : Op}
    {next : Answer op → Program Op Answer α} (hget : c.threads[index]? = some t)
    (hrest : t.rest = .call op next) : ok t.request (told index) op := by
  have hheeds := h.heeds index t hget
  rw [hrest] at hheeds
  exact hheeds.1

end System

end Interleaving
