import Mathlib

/-!
# Tables with a primary key

A table is its rows in insertion order, no two of them with the same key. The operations are those
of SQL: select by key, update the rows that a condition selects, insert unless the key is taken,
delete by key.
-/

structure Table (κ ρ : Type) (key : ρ → κ) where
  rows : List ρ
  nodup : (rows.map key).Nodup

namespace Table

variable {κ ρ : Type} [DecidableEq κ] {key : ρ → κ}

def empty : Table κ ρ key := ⟨[], List.nodup_nil⟩

def find? (t : Table κ ρ key) (k : κ) : Option ρ := t.rows.find? fun r => key r = k

/-- `UPDATE ... WHERE p`, on columns other than the key. -/
def updateWhere (t : Table κ ρ key) (p : ρ → Bool) (f : ρ → ρ) (hf : ∀ r, key (f r) = key r) :
    Table κ ρ key where
  rows := t.rows.map fun r => if p r then f r else r
  nodup := by
    have hkeys : (t.rows.map fun r => if p r then f r else r).map key = t.rows.map key := by
      rw [List.map_map]
      refine List.map_congr_left fun r _ => ?_
      by_cases hp : p r = true <;> simp [hp, hf]
    rw [hkeys]
    exact t.nodup

/-- `UPDATE ... WHERE id = k`. -/
def update (t : Table κ ρ key) (k : κ) (f : ρ → ρ) (hf : ∀ r, key (f r) = key r) : Table κ ρ key :=
  t.updateWhere (fun r => key r = k) f hf

/-- `INSERT`, which fails on a key that is taken. -/
def insert? (t : Table κ ρ key) (r : ρ) : Option (Table κ ρ key) :=
  if h : key r ∈ t.rows.map key then none
  else some
    { rows := t.rows ++ [r]
      nodup := by
        rw [List.map_append, List.map_singleton]
        exact List.Nodup.append t.nodup (List.nodup_singleton _)
          (by simpa [List.disjoint_singleton] using h) }

/-- `INSERT ... ON CONFLICT DO UPDATE`. -/
def upsert (t : Table κ ρ key) (r : ρ) (f : ρ → ρ) (hf : ∀ r, key (f r) = key r) : Table κ ρ key :=
  match t.insert? r with
  | some t' => t'
  | none => t.update (key r) f hf

/-- `DELETE ... WHERE id = k`. -/
def delete (t : Table κ ρ key) (k : κ) : Table κ ρ key where
  rows := t.rows.filter fun r => key r ≠ k
  nodup := t.nodup.sublist (List.filter_sublist.map key)

theorem find?_key {t : Table κ ρ key} {k : κ} {r : ρ} (h : t.find? k = some r) : key r = k := by
  simpa using List.find?_some h

theorem find?_mem {t : Table κ ρ key} {k : κ} {r : ρ} (h : t.find? k = some r) : r ∈ t.rows :=
  List.mem_of_find?_eq_some h

theorem find?_of_mem {t : Table κ ρ key} {r : ρ} (h : r ∈ t.rows) : t.find? (key r) = some r := by
  obtain ⟨r', hr'⟩ : ∃ r', t.find? (key r) = some r' :=
    Option.isSome_iff_exists.mp (List.find?_isSome.mpr ⟨r, h, by simp⟩)
  have hsame : r' = r :=
    List.inj_on_of_nodup_map t.nodup (find?_mem hr') h (find?_key hr')
  rw [hr', hsame]

theorem mem_iff_find? {t : Table κ ρ key} {r : ρ} : r ∈ t.rows ↔ t.find? (key r) = some r :=
  ⟨find?_of_mem, find?_mem⟩

theorem find?_eq_none_iff {t : Table κ ρ key} {k : κ} :
    t.find? k = none ↔ ∀ r ∈ t.rows, key r ≠ k := by
  simp [find?]

theorem filter_key (t : Table κ ρ key) (k : κ) :
    (t.rows.filter fun r => key r = k) = (t.find? k).toList := by
  obtain ⟨rows, hnodup⟩ := t
  unfold find?
  dsimp only
  induction rows with
  | nil => rfl
  | cons r rows ih =>
      rw [List.map_cons, List.nodup_cons] at hnodup
      by_cases hkey : key r = k
      · have hnone : (rows.filter fun r => key r = k) = [] := by
          rw [List.filter_eq_nil_iff]
          intro r' hr' hkey'
          exact hnodup.1 (List.mem_map.mpr ⟨r', hr', (of_decide_eq_true hkey').trans hkey.symm⟩)
        rw [List.filter_cons_of_pos (by simpa using hkey),
          List.find?_cons_of_pos (by simpa using hkey), hnone]
        rfl
      · rw [List.filter_cons_of_neg (by simpa using hkey),
          List.find?_cons_of_neg (by simpa using hkey)]
        exact ih hnodup.2

@[simp]
theorem find?_empty (k : κ) : (empty : Table κ ρ key).find? k = none := rfl

omit [DecidableEq κ] in
theorem mem_updateWhere {t : Table κ ρ key} {p : ρ → Bool} {f : ρ → ρ}
    {hf : ∀ r, key (f r) = key r} {r : ρ} :
    r ∈ (t.updateWhere p f hf).rows ↔ ∃ r' ∈ t.rows, r = if p r' then f r' else r' := by
  simp only [updateWhere, List.mem_map, eq_comm]

theorem find?_updateWhere (t : Table κ ρ key) (p : ρ → Bool) (f : ρ → ρ)
    (hf : ∀ r, key (f r) = key r) (k : κ) :
    (t.updateWhere p f hf).find? k = (t.find? k).map fun r => if p r then f r else r := by
  simp only [find?, updateWhere, List.find?_map]
  have hkey : ((fun r => decide (key r = k)) ∘ fun r => if p r = true then f r else r)
      = fun r => decide (key r = k) := by
    funext r
    by_cases hp : p r = true <;> simp [hp, hf]
  rw [hkey]

theorem find?_update (t : Table κ ρ key) (k : κ) (f : ρ → ρ) (hf : ∀ r, key (f r) = key r)
    (k' : κ) :
    (t.update k f hf).find? k' = if k' = k then (t.find? k').map f else t.find? k' := by
  rw [update, find?_updateWhere]
  cases h : t.find? k' with
  | none => simp
  | some r =>
      rw [← find?_key h]
      by_cases hk : key r = k <;> simp [hk]

@[simp]
theorem find?_update_self (t : Table κ ρ key) (k : κ) (f : ρ → ρ) (hf : ∀ r, key (f r) = key r) :
    (t.update k f hf).find? k = (t.find? k).map f := by
  simp [find?_update]

theorem find?_update_of_ne (t : Table κ ρ key) {k k' : κ} (f : ρ → ρ)
    (hf : ∀ r, key (f r) = key r) (hne : k' ≠ k) : (t.update k f hf).find? k' = t.find? k' := by
  simp [find?_update, hne]

theorem find?_insert? {t t' : Table κ ρ key} {r : ρ} (h : t.insert? r = some t') (k : κ) :
    t'.find? k = if k = key r then some r else t.find? k := by
  unfold insert? at h
  split at h
  · simp at h
  · rename_i hfresh
    obtain rfl := Option.some.inj h
    simp only [find?, List.find?_append]
    by_cases hk : k = key r
    · subst hk
      have hnone : t.rows.find? (fun r' => decide (key r' = key r)) = none := by
        simpa [List.mem_map] using hfresh
      simp [hnone]
    · have hne : ¬ key r = k := fun heq => hk heq.symm
      simp [hk, hne]

theorem insert?_fresh {t t' : Table κ ρ key} {r : ρ} (h : t.insert? r = some t') :
    t.find? (key r) = none := by
  unfold insert? at h
  split at h
  · simp at h
  · rename_i hfresh
    simpa [find?, List.mem_map] using hfresh

theorem insert?_rows {t t' : Table κ ρ key} {r : ρ} (h : t.insert? r = some t') :
    t'.rows = t.rows ++ [r] := by
  unfold insert? at h
  split at h
  · simp at h
  · rw [← Option.some.inj h]

theorem find?_delete (t : Table κ ρ key) (k k' : κ) :
    (t.delete k).find? k' = if k' = k then none else t.find? k' := by
  simp only [find?, delete, List.find?_filter]
  by_cases hk : k' = k
  · subst hk
    simp
  · have hpred : (fun r => decide (decide (key r ≠ k) = true ∧ decide (key r = k') = true))
        = fun r => decide (key r = k') := by
      funext r
      by_cases hr : key r = k'
      · simp [hr, hk]
      · simp [hr]
    simp only [hk, if_false]
    rw [← hpred]

end Table
