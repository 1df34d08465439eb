import LightAI.Base.Table

/-!
# What an upsert leaves under its key

The row itself if the key was free, and otherwise what the update makes of the row that was there.
-/

namespace Table

variable {κ ρ : Type} [DecidableEq κ] {key : ρ → κ}

theorem insert?_eq_none {t : Table κ ρ key} {r : ρ} (h : t.insert? r = none) :
    ∃ row, t.find? (key r) = some row := by
  unfold insert? at h
  split at h
  · rename_i hmem
    obtain ⟨row, hrow, heq⟩ := List.mem_map.mp hmem
    refine ⟨row, ?_⟩
    rw [← heq]
    exact find?_of_mem hrow
  · simp at h

theorem find?_upsert (t : Table κ ρ key) (r : ρ) (f : ρ → ρ) (hf : ∀ r, key (f r) = key r) (k : κ) :
    (t.upsert r f hf).find? k
      = if k = key r then some (((t.find? (key r)).map f).getD r) else t.find? k := by
  unfold upsert
  cases hinsert : t.insert? r with
  | some t' =>
      rw [find?_insert? hinsert, insert?_fresh hinsert]
      rfl
  | none =>
      obtain ⟨row, hrow⟩ := insert?_eq_none hinsert
      rw [find?_update]
      by_cases hk : k = key r
      · subst hk
        rw [if_pos rfl, if_pos rfl, hrow]
        rfl
      · rw [if_neg hk, if_neg hk]

/-- Where the update takes over every column but the key, an upsert replaces the row. -/
theorem find?_upsert_of_replaces (t : Table κ ρ key) {r : ρ} {f : ρ → ρ} (hf : ∀ r, key (f r) = key r)
    (hreplaces : ∀ row, key row = key r → f row = r) (k : κ) :
    (t.upsert r f hf).find? k = if k = key r then some r else t.find? k := by
  rw [find?_upsert]
  cases hrow : t.find? (key r) with
  | none => rfl
  | some row =>
      have hsame : f row = r := hreplaces row (find?_key hrow)
      rw [Option.map_some, Option.getD_some, hsame]

theorem mem_upsert {t : Table κ ρ key} {r : ρ} {f : ρ → ρ} {hf : ∀ r, key (f r) = key r} {row : ρ}
    (h : row ∈ (t.upsert r f hf).rows) :
    row = ((t.find? (key r)).map f).getD r ∨ (row ∈ t.rows ∧ key row ≠ key r) := by
  have hfind := find?_of_mem h
  rw [find?_upsert] at hfind
  by_cases hk : key row = key r
  · rw [if_pos hk] at hfind
    exact .inl (Option.some.inj hfind).symm
  · rw [if_neg hk] at hfind
    exact .inr ⟨find?_mem hfind, hk⟩

end Table
