import LightAI.Base.Gregorian

/-!
# The clock of the platform log

The date of an entry is computed from the seconds since the epoch in machine integers. An operation whose
result does not fit its type gives nothing; a cast keeps the low bits.
-/

namespace LightAI.Log

open Gregorian (Date daysFromCivil)

def i64 (value : Int) : Option Int := if -2 ^ 63 ≤ value ∧ value < 2 ^ 63 then some value else none

def u32 (value : Int) : Option Nat := if 0 ≤ value ∧ value < 2 ^ 32 then some value.toNat else none

/-- `value as u32`. -/
def asU32 (value : Int) : Nat := (value % 2 ^ 32).toNat

/-- `value as i32`. -/
def asI32 (value : Int) : Int := value.bmod (2 ^ 32)

def civilFromDays (days : Int) : Option (Int × Nat × Nat) := do
  let z ← i64 (days + 719468)
  let dividend ← i64 (if z ≥ 0 then z else z - 146096)
  let era := dividend.tdiv 146097
  let eraStart ← i64 (era * 146097)
  let doe := asU32 (← i64 (z - eraStart))
  let corrected ← u32 (doe - doe / 1460)
  let corrected ← u32 (corrected + doe / 36524)
  let corrected ← u32 (corrected - doe / 146096)
  let yoe := corrected / 365
  let eraYear ← i64 (era * 400)
  let y ← i64 (yoe + eraYear)
  let yearStart ← u32 (365 * yoe)
  let yearStart ← u32 (yearStart + yoe / 4)
  let yearStart ← u32 (yearStart - yoe / 100)
  let doy ← u32 (doe - yearStart)
  let scaled ← u32 (5 * doy)
  let scaled ← u32 (scaled + 2)
  let mp := scaled / 153
  let monthStart ← u32 (153 * mp)
  let monthStart ← u32 (monthStart + 2)
  let inMonth ← u32 (doy - monthStart / 5)
  let d ← u32 (inMonth + 1)
  let m ← u32 (if mp < 10 then mp + 3 else mp - 9)
  let y ← i64 (if m ≤ 2 then y + 1 else y)
  some (asI32 y, m, d)

theorem i64_eq_some {value : Int} (hlow : -2 ^ 63 ≤ value) (hhigh : value < 2 ^ 63) :
    i64 value = some value := if_pos ⟨hlow, hhigh⟩

theorem u32_eq_some {value : Int} {result : Nat} (hvalue : value = result) (hresult : result < 2 ^ 32) :
    u32 value = some result := by
  unfold u32
  rw [hvalue, if_pos (by omega), Int.toNat_natCast]

theorem asU32_eq {value : Int} {result : Nat} (hvalue : value = result) (hresult : result < 2 ^ 32) :
    asU32 value = result := by
  unfold asU32
  omega

theorem asI32_eq {value : Int} (hlow : -2 ^ 31 ≤ value) (hhigh : value < 2 ^ 31) : asI32 value = value := by
  unfold asI32
  exact Int.bmod_eq_of_le (by omega) (by omega)

theorem bind_of_some {α β : Type} {first : Option α} {value : α} {rest : α → Option β}
    (hfirst : first = some value) : (first >>= rest) = rest value := by
  rw [hfirst]
  rfl

/-- No intermediate value leaves its type, and only the cast of the year may lose something. -/
theorem civilFromDays_daysFromCivil (date : Date) (hdays : 0 ≤ daysFromCivil date)
    (hsmall : daysFromCivil date + 719468 < 2 ^ 63) :
    civilFromDays (daysFromCivil date) = some (asI32 date.year, date.month, date.day) := by
  have hera := Gregorian.daysFromCivil_eq_era date
  have hdoe := date.dayOfEra_lt
  have hyoe := date.yearOfEra_lt
  have hmarch := date.marchYear_eq
  have hmarchDay := date.marchDay_le.1
  have hdayOfEra : date.dayOfEra
      = 365 * date.yearOfEra + date.yearOfEra / 4 - date.yearOfEra / 100 + date.marchDay := rfl
  have hmarchYear := date.year_of_marchYear
  have hmonth := date.month_of_marchMonth
  have hday := date.day_of_marchDay
  have hmp := date.marchMonth_of_marchDay
  have hyearOfEra := date.yearOfEra_of_dayOfEra
  generalize daysFromCivil date = days at *
  generalize date.marchYear / 400 = era at *
  generalize date.dayOfEra = doe at *
  generalize date.yearOfEra = yoe at *
  generalize date.marchDay = doy at *
  generalize date.marchMonth = mp at *
  have hpos : 0 ≤ era := by omega
  have hdiv : (days + 719468).tdiv 146097 = era := by
    rw [Int.tdiv_eq_ediv_of_nonneg (by omega)]
    omega
  have hz : i64 (days + 719468) = some (days + 719468) := i64_eq_some (by omega) (by omega)
  have heraStart : i64 (era * 146097) = some (era * 146097) := i64_eq_some (by omega) (by omega)
  have hrest : i64 (days + 719468 - era * 146097) = some (days + 719468 - era * 146097) :=
    i64_eq_some (by omega) (by omega)
  have hcast : asU32 (days + 719468 - era * 146097) = doe := asU32_eq (by omega) (by omega)
  have hfirst : u32 (doe - doe / 1460) = some (doe - doe / 1460) := u32_eq_some (by omega) (by omega)
  have hsecond : u32 ((doe - doe / 1460 : Nat) + doe / 36524) = some (doe - doe / 1460 + doe / 36524) :=
    u32_eq_some (by omega) (by omega)
  have hthird : u32 ((doe - doe / 1460 + doe / 36524 : Nat) - doe / 146096)
      = some (doe - doe / 1460 + doe / 36524 - doe / 146096) := u32_eq_some (by omega) (by omega)
  have heraYear : i64 (era * 400) = some (era * 400) := i64_eq_some (by omega) (by omega)
  have hy : i64 (yoe + era * 400) = some (yoe + era * 400) := i64_eq_some (by omega) (by omega)
  have hdays365 : u32 (365 * yoe) = some (365 * yoe) := u32_eq_some (by omega) (by omega)
  have hleapDays : u32 ((365 * yoe : Nat) + yoe / 4) = some (365 * yoe + yoe / 4) :=
    u32_eq_some (by omega) (by omega)
  have hcenturies : u32 ((365 * yoe + yoe / 4 : Nat) - yoe / 100) = some (365 * yoe + yoe / 4 - yoe / 100) :=
    u32_eq_some (by omega) (by omega)
  have hdoy : u32 (doe - (365 * yoe + yoe / 4 - yoe / 100 : Nat)) = some doy :=
    u32_eq_some (by omega) (by omega)
  have hscaled : u32 (5 * doy) = some (5 * doy) := u32_eq_some (by omega) (by omega)
  have hrounded : u32 ((5 * doy : Nat) + 2) = some (5 * doy + 2) := u32_eq_some (by omega) (by omega)
  have hmonths : u32 (153 * mp) = some (153 * mp) := u32_eq_some (by omega) (by omega)
  have hmonthStart : u32 ((153 * mp : Nat) + 2) = some (153 * mp + 2) :=
    u32_eq_some (by omega) (by omega)
  have hinMonth : u32 (doy - (153 * mp + 2 : Nat) / 5) = some (doy - (153 * mp + 2) / 5) :=
    u32_eq_some (by omega) (by omega)
  have hd : u32 ((doy - (153 * mp + 2) / 5 : Nat) + 1) = some date.day :=
    u32_eq_some (by omega) (by omega)
  have hm : u32 (if mp < 10 then mp + 3 else mp - 9) = some date.month := by
    by_cases hautumn : mp < 10
    · rw [if_pos hautumn] at hmonth ⊢
      exact u32_eq_some (by omega) (by omega)
    · rw [if_neg hautumn] at hmonth ⊢
      exact u32_eq_some (by omega) (by omega)
  have hyear' : i64 (if date.month ≤ 2 then yoe + era * 400 + 1 else yoe + era * 400)
      = some date.year := by
    by_cases hwinter : date.month ≤ 2
    · rw [if_pos hwinter] at hmarchYear ⊢
      have hsame : (yoe : Int) + era * 400 + 1 = date.year := by omega
      rw [hsame]
      exact i64_eq_some (by omega) (by omega)
    · rw [if_neg hwinter] at hmarchYear ⊢
      have hsame : (yoe : Int) + era * 400 = date.year := by omega
      rw [hsame]
      exact i64_eq_some (by omega) (by omega)
  have hdividend : i64 (if days + 719468 ≥ 0 then days + 719468 else days + 719468 - 146096)
      = some (days + 719468) := by
    rw [if_pos (by omega)]
    exact hz
  unfold civilFromDays
  refine (bind_of_some hz).trans ((bind_of_some hdividend).trans ?_)
  dsimp only
  rw [hdiv]
  refine (bind_of_some heraStart).trans ((bind_of_some hrest).trans ?_)
  rw [hcast]
  refine (bind_of_some hfirst).trans ((bind_of_some hsecond).trans ((bind_of_some hthird).trans ?_))
  rw [hyearOfEra]
  refine (bind_of_some heraYear).trans ((bind_of_some hy).trans ((bind_of_some hdays365).trans ?_))
  refine (bind_of_some hleapDays).trans ((bind_of_some hcenturies).trans ((bind_of_some hdoy).trans ?_))
  refine (bind_of_some hscaled).trans ((bind_of_some hrounded).trans ?_)
  rw [hmp]
  refine (bind_of_some hmonths).trans ((bind_of_some hmonthStart).trans ?_)
  refine (bind_of_some hinMonth).trans ((bind_of_some hd).trans ((bind_of_some hm).trans ?_))
  exact bind_of_some hyear'

/-- A day whose year fits in an `i32` fits in an `i64`. -/
theorem daysFromCivil_lt {date : Date} (hyear : date.year < 2 ^ 31) :
    daysFromCivil date + 719468 < 2 ^ 63 := by
  have hmarch := Gregorian.daysFromCivil_eq_march date
  have hmarchDay := date.marchDay_le.1
  have hmarchYear := date.year_of_marchYear
  have hle : date.marchYear < 2 ^ 31 := by
    split at hmarchYear <;> omega
  omega

/-- From the epoch on, every day has exactly one date, and it is the one that is computed. -/
theorem civilFromDays_gregorian (days : Int) (hdays : 0 ≤ days) :
    ∃ date : Date, daysFromCivil date = days ∧ (∀ other, daysFromCivil other = days → other = date) ∧
      (date.year < 2 ^ 31 → civilFromDays days = some (date.year, date.month, date.day)) := by
  obtain ⟨date, hdate⟩ := Gregorian.exists_date days.toNat
  have hnumber : daysFromCivil date = days := by omega
  refine ⟨date, hnumber, ?_, ?_⟩
  · intro other hother
    exact Gregorian.daysFromCivil_injective (hother.trans hnumber.symm)
  · intro hyear
    have hpos : -2 ^ 31 ≤ date.year := by
      have hmarch := Gregorian.daysFromCivil_eq_march date
      have hmarchDay := date.marchDay_le.1
      have hmarchYear := date.year_of_marchYear
      split at hmarchYear <;> omega
    have hcivil := civilFromDays_daysFromCivil date (by omega) (daysFromCivil_lt hyear)
    rw [asI32_eq hpos hyear, hnumber] at hcivil
    exact hcivil

def leapDay : Date where
  year := 2024
  month := 2
  day := 29
  month_pos := by decide
  month_le := by decide
  day_pos := by decide
  day_le := by decide

theorem civilFromDays_leapDay : civilFromDays 19782 = some (2024, 2, 29) := by
  obtain ⟨date, -, hunique, hcivil⟩ := civilFromDays_gregorian 19782 (by decide)
  have hdate : leapDay = date := hunique leapDay (by decide)
  rw [← hdate] at hcivil
  exact hcivil (by decide)

end LightAI.Log
