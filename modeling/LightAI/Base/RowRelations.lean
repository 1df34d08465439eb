import LightAI.Base.Table

/-!
# Relating the rows of two tables

Two tables hold rows under the same keys, and under each key their rows are related. What a sequence of
updates does to a table is said in this way, one update at a time.
-/

namespace Table

variable {κ ρ : Type} [DecidableEq κ] {key : ρ → κ} {R R' R'' : κ → ρ → ρ → Prop}
  {t t' t'' : Table κ ρ key}

/-- Under each key, no row in either table or two related rows. -/
def Rowwise (R : κ → ρ → ρ → Prop) (t t' : Table κ ρ key) : Prop :=
  ∀ k, Option.Rel (R k) (t.find? k) (t'.find? k)

theorem Rowwise.find (h : Rowwise R t t') {k : κ} {r : ρ} (hr : t.find? k = some r) :
    ∃ r', t'.find? k = some r' ∧ R k r r' := by
  have hrel := h k
  rw [hr] at hrel
  cases hr' : t'.find? k with
  | none =>
      rw [hr'] at hrel
      cases hrel
  | some r' =>
      rw [hr'] at hrel
      cases hrel with
      | some hR => exact ⟨r', rfl, hR⟩

theorem Rowwise.find_back (h : Rowwise R t t') {k : κ} {r' : ρ} (hr' : t'.find? k = some r') :
    ∃ r, t.find? k = some r ∧ R k r r' := by
  have hrel := h k
  rw [hr'] at hrel
  cases hr : t.find? k with
  | none =>
      rw [hr] at hrel
      cases hrel
  | some r =>
      rw [hr] at hrel
      cases hrel with
      | some hR => exact ⟨r, rfl, hR⟩

theorem Rowwise.mono (h : Rowwise R t t') (himp : ∀ k r r', R k r r' → R' k r r') :
    Rowwise R' t t' := by
  intro k
  cases hr : t.find? k with
  | none =>
      cases hr' : t'.find? k with
      | none => exact .none
      | some r' =>
          obtain ⟨r, hsome, -⟩ := h.find_back hr'
          rw [hr] at hsome
          cases hsome
  | some r =>
      obtain ⟨r', hr', hR⟩ := h.find hr
      rw [hr']
      exact .some (himp k r r' hR)

theorem Rowwise.refl (hrefl : ∀ k r, R k r r) (t : Table κ ρ key) : Rowwise R t t := by
  intro k
  cases t.find? k with
  | none => exact .none
  | some r => exact .some (hrefl k r)

theorem Rowwise.trans (htrans : ∀ k r r' r'', R k r r' → R' k r' r'' → R'' k r r'')
    (h : Rowwise R t t') (h' : Rowwise R' t' t'') : Rowwise R'' t t'' := by
  intro k
  cases hr : t.find? k with
  | none =>
      cases hr'' : t''.find? k with
      | none => exact .none
      | some r'' =>
          obtain ⟨r', hr', -⟩ := h'.find_back hr''
          obtain ⟨r, hsome, -⟩ := h.find_back hr'
          rw [hr] at hsome
          cases hsome
  | some r =>
      obtain ⟨r', hr', hR⟩ := h.find hr
      obtain ⟨r'', hr'', hR'⟩ := h'.find hr'
      rw [hr'']
      exact .some (htrans k r r' r'' hR hR')

theorem rowwise_updateWhere {p : ρ → Bool} {f : ρ → ρ} (hf : ∀ r, key (f r) = key r)
    (hrefl : ∀ k r, R k r r)
    (hrow : ∀ k r, t.find? k = some r → p r = true → R k r (f r)) :
    Rowwise R t (t.updateWhere p f hf) := by
  intro k
  rw [find?_updateWhere]
  cases hr : t.find? k with
  | none => exact .none
  | some r =>
      refine .some ?_
      change R k r (if p r = true then f r else r)
      by_cases hp : p r = true
      · rw [if_pos hp]
        exact hrow k r hr hp
      · rw [if_neg hp]
        exact hrefl k r

theorem rowwise_update {k : κ} {f : ρ → ρ} (hf : ∀ r, key (f r) = key r) (hrefl : ∀ k r, R k r r)
    (hrow : ∀ r, t.find? k = some r → R k r (f r)) : Rowwise R t (t.update k f hf) := by
  refine rowwise_updateWhere hf hrefl fun k' r hr hkey => ?_
  have hk' : k' = k := (find?_key hr).symm.trans (of_decide_eq_true hkey)
  subst hk'
  exact hrow r hr

end Table
