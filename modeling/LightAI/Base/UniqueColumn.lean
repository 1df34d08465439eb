import LightAI.Base.Table

/-!
# Tables with a second unique column

Beside its key a table may have another column in which no two rows agree. An update of one row keeps that
exactly if no other row has what the row gets.
-/

namespace Table

variable {κ ρ ν : Type} {key : ρ → κ} {column : ρ → ν} {t : Table κ ρ key}

def UniqueColumn (column : ρ → ν) (t : Table κ ρ key) : Prop := (t.rows.map column).Nodup

theorem nodup_rows (t : Table κ ρ key) : t.rows.Nodup := .of_map key t.nodup

theorem eq_of_key_eq {row other : ρ} (hrow : row ∈ t.rows) (hother : other ∈ t.rows)
    (hkey : key row = key other) : row = other :=
  List.inj_on_of_nodup_map t.nodup hrow hother hkey

theorem UniqueColumn.eq {row other : ρ} (h : t.UniqueColumn column) (hrow : row ∈ t.rows)
    (hother : other ∈ t.rows) (hcolumn : column row = column other) : row = other :=
  List.inj_on_of_nodup_map h hrow hother hcolumn

theorem uniqueColumn_iff :
    t.UniqueColumn column ↔
      ∀ row ∈ t.rows, ∀ other ∈ t.rows, column row = column other → row = other :=
  List.nodup_map_iff_inj_on t.nodup_rows

/-- The update of one row. -/
theorem uniqueColumn_updateWhere_iff [DecidableEq κ] (p : ρ → Bool) (f : ρ → ρ)
    (hf : ∀ r, key (f r) = key r) {row : ρ} (hunique : t.UniqueColumn column) (hrow : row ∈ t.rows)
    (honly : ∀ other ∈ t.rows, p other = true ↔ key other = key row) :
    (t.updateWhere p f hf).UniqueColumn column ↔
      ∀ other ∈ t.rows, key other ≠ key row → column other ≠ column (f row) := by
  have hcolumns : (t.updateWhere p f hf).rows.map column
      = t.rows.map fun r => if key r = key row then column (f row) else column r := by
    rw [updateWhere, List.map_map]
    refine List.map_congr_left ?_
    intro other hother
    by_cases hkey : key other = key row
    · have hsame : other = row := eq_of_key_eq hother hrow hkey
      have hp : p row = true := (honly row hrow).mpr rfl
      simp [hsame, hp]
    · have hp : p other = false := Bool.eq_false_iff.mpr fun hp => hkey ((honly other hother).mp hp)
      simp [hkey, hp]
  unfold UniqueColumn
  rw [hcolumns, List.nodup_map_iff_inj_on t.nodup_rows]
  constructor
  · intro hinj other hother hne hsame
    have heq : other = row := by
      refine hinj other hother row hrow ?_
      rw [if_neg hne, if_pos rfl, hsame]
    exact hne (congrArg key heq)
  · intro hfree other hother other' hother' hsame
    by_cases hkey : key other = key row
    · by_cases hkey' : key other' = key row
      · exact eq_of_key_eq hother hother' (hkey.trans hkey'.symm)
      · rw [if_pos hkey, if_neg hkey'] at hsame
        exact absurd hsame.symm (hfree other' hother' hkey')
    · by_cases hkey' : key other' = key row
      · rw [if_neg hkey, if_pos hkey'] at hsame
        exact absurd hsame (hfree other hother hkey)
      · rw [if_neg hkey, if_neg hkey'] at hsame
        exact hunique.eq hother hother' hsame

end Table
