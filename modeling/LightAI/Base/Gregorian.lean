import Mathlib

/-!
# The proleptic Gregorian calendar

A date is a year, a month and a day that the calendar has. Days are numbered from 1 January 1970: the number
of a date counts the days of the years and of the months before it. Going to the next date adds one, so every
later day has a date.
-/

namespace Gregorian

def IsLeap (year : Int) : Prop := year % 4 = 0 ∧ (year % 100 ≠ 0 ∨ year % 400 = 0)

instance (year : Int) : Decidable (IsLeap year) := inferInstanceAs (Decidable (_ ∧ _))

def daysInMonth (year : Int) (month : Nat) : Nat :=
  match month with
  | 4 | 6 | 9 | 11 => 30
  | 2 => if IsLeap year then 29 else 28
  | _ => 31

/-- A date that exists. -/
@[ext]
structure Date where
  year : Int
  month : Nat
  day : Nat
  month_pos : 1 ≤ month
  month_le : month ≤ 12
  day_pos : 1 ≤ day
  day_le : day ≤ daysInMonth year month

/-! ### The number of a day -/

/-- The days from 1 January of the year 1 to 1 January of a year. -/
def daysBeforeYear (year : Int) : Int :=
  365 * (year - 1) + (year - 1) / 4 - (year - 1) / 100 + (year - 1) / 400

/-- The days of a year before a month. -/
def daysBeforeMonth (year : Int) (month : Nat) : Nat :=
  ((List.range (month - 1)).map fun earlier => daysInMonth year (earlier + 1)).sum

/-- The number of a date, counted from 1 January 1970. -/
def daysFromCivil (date : Date) : Int :=
  daysBeforeYear date.year - daysBeforeYear 1970 + daysBeforeMonth date.year date.month + (date.day - 1)

theorem daysBeforeYear_succ (year : Int) :
    daysBeforeYear (year + 1) = daysBeforeYear year + if IsLeap year then 366 else 365 := by
  by_cases hleap : IsLeap year
  · rw [if_pos hleap]
    unfold IsLeap at hleap
    unfold daysBeforeYear
    omega
  · rw [if_neg hleap]
    unfold IsLeap at hleap
    unfold daysBeforeYear
    omega

theorem daysBeforeMonth_succ (year : Int) {month : Nat} (hmonth : 1 ≤ month) :
    daysBeforeMonth year (month + 1) = daysBeforeMonth year month + daysInMonth year month := by
  obtain ⟨earlier, rfl⟩ := Nat.exists_eq_add_of_le' hmonth
  unfold daysBeforeMonth
  simp only [Nat.add_sub_cancel, List.range_succ, List.map_append, List.sum_append, List.map_cons,
    List.map_nil, List.sum_cons, List.sum_nil, Nat.add_zero]

/-- The year counted from March, in which the leap day is the last one. -/
theorem daysBeforeMonth_eq (year : Int) {month : Nat} (hpos : 1 ≤ month) (hle : month ≤ 12) :
    daysBeforeMonth year month
      = if month ≤ 2 then 31 * (month - 1)
        else (if IsLeap year then 60 else 59) + (153 * (month - 3) + 2) / 5 := by
  interval_cases month <;> by_cases hleap : IsLeap year <;>
    simp [daysBeforeMonth, List.range_succ, daysInMonth, hleap]

theorem daysBeforeMonth_december (year : Int) :
    daysBeforeMonth year 12 + 31 = if IsLeap year then 366 else 365 := by
  rw [daysBeforeMonth_eq year (by decide) (by decide)]
  by_cases hleap : IsLeap year
  · rw [if_pos hleap, if_pos hleap]
    rfl
  · rw [if_neg hleap, if_neg hleap]
    rfl

/-! ### The next date -/

theorem daysInMonth_pos (year : Int) (month : Nat) : 1 ≤ daysInMonth year month := by
  unfold daysInMonth
  split <;> first | omega | (split <;> omega)

def Date.next (date : Date) : Date :=
  if hday : date.day < daysInMonth date.year date.month then
    { date with
      day := date.day + 1
      day_pos := Nat.le_add_left 1 _
      day_le := hday }
  else if hmonth : date.month < 12 then
    { year := date.year
      month := date.month + 1
      day := 1
      month_pos := Nat.le_add_left 1 _
      month_le := hmonth
      day_pos := le_rfl
      day_le := daysInMonth_pos _ _ }
  else
    { year := date.year + 1
      month := 1
      day := 1
      month_pos := le_rfl
      month_le := by decide
      day_pos := le_rfl
      day_le := daysInMonth_pos _ _ }

theorem daysFromCivil_next (date : Date) : daysFromCivil date.next = daysFromCivil date + 1 := by
  have hmonthPos := date.month_pos
  have hmonthLe := date.month_le
  have hdayLe := date.day_le
  unfold daysFromCivil Date.next
  by_cases hday : date.day < daysInMonth date.year date.month
  · rw [dif_pos hday]
    push_cast
    omega
  · rw [dif_neg hday]
    by_cases hmonth : date.month < 12
    · rw [dif_pos hmonth]
      have hsucc := daysBeforeMonth_succ date.year hmonthPos
      push_cast [hsucc]
      omega
    · rw [dif_neg hmonth]
      have htwelve : date.month = 12 := by omega
      have hlast : daysInMonth date.year 12 = 31 := rfl
      have hyear := daysBeforeYear_succ date.year
      have hdecember := daysBeforeMonth_december date.year
      have hjanuary : daysBeforeMonth (date.year + 1) 1 = 0 := rfl
      rw [htwelve, hlast] at hdayLe hday
      rw [htwelve, hyear, hjanuary]
      by_cases hleap : IsLeap date.year
      · rw [if_pos hleap] at hdecember ⊢
        push_cast
        omega
      · rw [if_neg hleap] at hdecember ⊢
        push_cast
        omega

def epoch : Date where
  year := 1970
  month := 1
  day := 1
  month_pos := le_rfl
  month_le := by decide
  day_pos := le_rfl
  day_le := by decide

/-- Every day from the epoch on has a date. -/
theorem exists_date (days : Nat) : ∃ date : Date, daysFromCivil date = days := by
  induction days with
  | zero => exact ⟨epoch, rfl⟩
  | succ days ih =>
      obtain ⟨date, hdate⟩ := ih
      refine ⟨date.next, ?_⟩
      rw [daysFromCivil_next, hdate]
      rfl

/-! ### Years that begin in March -/

/-- The year that a date lies in when years begin on 1 March. -/
def Date.marchYear (date : Date) : Int := if date.month ≤ 2 then date.year - 1 else date.year

/-- The months since March. -/
def Date.marchMonth (date : Date) : Nat := if date.month ≤ 2 then date.month + 9 else date.month - 3

/-- The days since 1 March. -/
def Date.marchDay (date : Date) : Nat := (153 * date.marchMonth + 2) / 5 + (date.day - 1)

/-- The 366th day of such a year is 29 February of a leap year. -/
theorem Date.marchDay_le (date : Date) :
    date.marchDay ≤ 365 ∧ (date.marchDay = 365 → IsLeap (date.marchYear + 1)) := by
  obtain ⟨year, month, day, hpos, hle, hdayPos, hdayLe⟩ := date
  unfold marchDay marchMonth marchYear
  dsimp only
  by_cases hleap : IsLeap year
  · interval_cases month <;> simp [daysInMonth, hleap] at hdayLe ⊢ <;> omega
  · interval_cases month <;> simp [daysInMonth, hleap] at hdayLe ⊢ <;> omega

theorem daysFromCivil_eq_march (date : Date) :
    daysFromCivil date + 719468
      = 365 * date.marchYear + date.marchYear / 4 - date.marchYear / 100 + date.marchYear / 400
        + date.marchDay := by
  obtain ⟨year, month, day, hpos, hle, hdayPos, hdayLe⟩ := date
  have hyear := daysBeforeYear_succ year
  unfold daysFromCivil Date.marchDay Date.marchMonth Date.marchYear
  dsimp only
  rw [daysBeforeMonth_eq year hpos hle]
  by_cases hwinter : month ≤ 2
  · rw [if_pos hwinter, if_pos hwinter, if_pos hwinter]
    unfold daysBeforeYear
    omega
  · rw [if_neg hwinter, if_neg hwinter, if_neg hwinter]
    by_cases hleap : IsLeap year
    · rw [if_pos hleap] at hyear ⊢
      unfold daysBeforeYear at hyear ⊢
      omega
    · rw [if_neg hleap] at hyear ⊢
      unfold daysBeforeYear at hyear ⊢
      omega

/-! ### Reading a date off its day number

The calendar repeats every 400 years, an era of 146097 days.
-/

/-- The year of the era, by years that begin in March. -/
def Date.yearOfEra (date : Date) : Nat := (date.marchYear % 400).toNat

def Date.dayOfEra (date : Date) : Nat :=
  365 * date.yearOfEra + date.yearOfEra / 4 - date.yearOfEra / 100 + date.marchDay

theorem Date.yearOfEra_lt (date : Date) : date.yearOfEra < 400 := by
  unfold yearOfEra
  omega

theorem Date.marchYear_eq (date : Date) :
    date.marchYear = date.yearOfEra + 400 * (date.marchYear / 400) := by
  unfold yearOfEra
  omega

theorem Date.dayOfEra_lt (date : Date) : date.dayOfEra < 146097 := by
  have hyear := date.yearOfEra_lt
  have hday := date.marchDay_le
  have hmarch := date.marchYear_eq
  by_cases hlast : date.marchDay = 365
  · have hleap := hday.2 hlast
    unfold IsLeap at hleap
    unfold dayOfEra
    omega
  · unfold dayOfEra
    omega

theorem daysFromCivil_eq_era (date : Date) :
    daysFromCivil date + 719468 = 146097 * (date.marchYear / 400) + date.dayOfEra := by
  have hdays := daysFromCivil_eq_march date
  have hmarch := date.marchYear_eq
  have hyear := date.yearOfEra_lt
  unfold Date.dayOfEra
  omega

/-- An era is made of four centuries, a century of 25 groups of four years, the last of which may be a day
short. -/
theorem year_of_day {centuries groups years day : Nat} (hcenturies : centuries ≤ 3) (hgroups : groups ≤ 24)
    (hyears : years ≤ 3) (hday : day ≤ 365)
    (hleap : day = 365 → years = 3 ∧ (groups = 24 → centuries = 3)) {dayOfEra : Nat}
    (hsum : dayOfEra = 36524 * centuries + 1461 * groups + 365 * years + day) :
    (dayOfEra - dayOfEra / 1460 + dayOfEra / 36524 - dayOfEra / 146096) / 365
      = 100 * centuries + 4 * groups + years := by
  by_cases hlast : day = 365 ∧ groups = 24
  · have hthree := (hleap hlast.1).1
    have hfourth := (hleap hlast.1).2 hlast.2
    have hend : dayOfEra = 146096 := by omega
    rw [hend]
    omega
  · have hcentury : 1461 * groups + 365 * years + day < 36524 := by omega
    have hquotient : dayOfEra / 36524 = centuries := by omega
    have hnotEnd : dayOfEra / 146096 = 0 := by omega
    -- the days over 1460 for each group and over 25 · 1460 for each century never make a third group
    have hshort : dayOfEra / 1460
        = 25 * centuries + groups + (24 * centuries + groups + 365 * years + day) / 1460 := by omega
    have hcorrected : dayOfEra - dayOfEra / 1460 + centuries - 0
        = 365 * (100 * centuries + 4 * groups + years)
          + (day - (24 * centuries + groups + 365 * years + day) / 1460) := by omega
    rw [hquotient, hnotEnd, hcorrected]
    omega

theorem Date.yearOfEra_of_dayOfEra (date : Date) :
    (date.dayOfEra - date.dayOfEra / 1460 + date.dayOfEra / 36524 - date.dayOfEra / 146096) / 365
      = date.yearOfEra := by
  have hyear := date.yearOfEra_lt
  have hday := date.marchDay_le
  have hmarch := date.marchYear_eq
  have hleap : date.marchDay = 365 →
      date.yearOfEra % 4 = 3 ∧ (date.yearOfEra % 100 / 4 = 24 → date.yearOfEra / 100 = 3) := by
    intro hlast
    have hleap := hday.2 hlast
    unfold IsLeap at hleap
    omega
  have hsum : date.dayOfEra = 36524 * (date.yearOfEra / 100) + 1461 * (date.yearOfEra % 100 / 4)
      + 365 * (date.yearOfEra % 4) + date.marchDay := by
    unfold dayOfEra
    omega
  rw [year_of_day (by omega) (by omega) (by omega) hday.1 hleap hsum]
  omega

theorem Date.marchMonth_of_marchDay (date : Date) : (5 * date.marchDay + 2) / 153 = date.marchMonth := by
  obtain ⟨year, month, day, hpos, hle, hdayPos, hdayLe⟩ := date
  unfold marchDay marchMonth
  dsimp only
  by_cases hleap : IsLeap year
  · interval_cases month <;> simp [daysInMonth, hleap] at hdayLe ⊢ <;> omega
  · interval_cases month <;> simp [daysInMonth, hleap] at hdayLe ⊢ <;> omega

theorem Date.month_of_marchMonth (date : Date) :
    date.month = if date.marchMonth < 10 then date.marchMonth + 3 else date.marchMonth - 9 := by
  have hpos := date.month_pos
  have hle := date.month_le
  unfold marchMonth
  by_cases hwinter : date.month ≤ 2
  · rw [if_pos hwinter, if_neg (by omega)]
    omega
  · rw [if_neg hwinter, if_pos (by omega)]
    omega

theorem Date.day_of_marchDay (date : Date) :
    date.day = date.marchDay - (153 * date.marchMonth + 2) / 5 + 1 := by
  have hpos := date.day_pos
  unfold marchDay
  omega

theorem Date.year_of_marchYear (date : Date) :
    date.year = if date.month ≤ 2 then date.marchYear + 1 else date.marchYear := by
  unfold marchYear
  by_cases hwinter : date.month ≤ 2
  · rw [if_pos hwinter, if_pos hwinter]
    omega
  · rw [if_neg hwinter, if_neg hwinter]

/-- No two dates have one number. -/
theorem daysFromCivil_injective : Function.Injective daysFromCivil := by
  intro left right hsame
  have hleft := daysFromCivil_eq_era left
  have hright := daysFromCivil_eq_era right
  have hleftLt := left.dayOfEra_lt
  have hrightLt := right.dayOfEra_lt
  have hera : left.marchYear / 400 = right.marchYear / 400 := by omega
  have hdayOfEra : left.dayOfEra = right.dayOfEra := by omega
  have hyearOfEra : left.yearOfEra = right.yearOfEra := by
    rw [← left.yearOfEra_of_dayOfEra, ← right.yearOfEra_of_dayOfEra, hdayOfEra]
  have hmarchYear : left.marchYear = right.marchYear := by
    rw [left.marchYear_eq, right.marchYear_eq, hyearOfEra, hera]
  have hmarchDay : left.marchDay = right.marchDay := by
    unfold Date.dayOfEra at hdayOfEra
    omega
  have hmarchMonth : left.marchMonth = right.marchMonth := by
    rw [← left.marchMonth_of_marchDay, ← right.marchMonth_of_marchDay, hmarchDay]
  have hmonth : left.month = right.month := by
    rw [left.month_of_marchMonth, right.month_of_marchMonth, hmarchMonth]
  ext
  · rw [left.year_of_marchYear, right.year_of_marchYear, hmonth, hmarchYear]
  · exact hmonth
  · rw [left.day_of_marchDay, right.day_of_marchDay, hmarchDay, hmarchMonth]

end Gregorian
