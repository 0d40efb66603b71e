import ClusterTutor.Calendar
import Mathlib

/-!
# Days and dates

The date of a day is found by going back from a year, and then from a month, that is late enough
to the last one that begins on the day or before. Both searches are one algorithm
(`ClusterTutor.Calendar.isLast_of_search`), and what they find is pinned down by what a date is:
a year, a month of it and a day of the month, such that the days before them make up the day
(`ClusterTutor.Calendar.IsDate`).

From this, and not from how it was found, follow

* the sizes of its numbers (`ClusterTutor.Calendar.IsDate.bounds`),
* and that **dates come in the order of days**: first the year counts, then the month, then the
  day of the month (`ClusterTutor.Calendar.IsDate.earlier`).
-/

namespace ClusterTutor.Calendar

/-! ### The lengths of years and months -/

/-- The months of a year, one after the other. -/
theorem daysBeforeMonth_thirteen (y : Nat) :
    daysBeforeMonth y 13 = if isLeap y = true then 366 else 365 := by
  cases hleap : isLeap y <;> simp [daysBeforeMonth, daysInMonth, hleap]

theorem isLeap_iff (y : Nat) : isLeap y = true ↔ 4 ∣ y ∧ (¬100 ∣ y ∨ 400 ∣ y) := by
  simp only [isLeap, Bool.and_eq_true, Bool.or_eq_true, beq_iff_eq, bne_iff_ne, ne_eq,
    Nat.dvd_iff_mod_eq_zero]

/-- **A year has as many days as its twelve months.** -/
theorem daysBeforeYear_succ {y : Nat} (h : 1 ≤ y) :
    daysBeforeYear (y + 1) = daysBeforeYear y + daysBeforeMonth y 13 := by
  obtain ⟨n, rfl⟩ := Nat.exists_eq_add_of_le' h
  -- A leap day more for a multiple of four, one less for one of a hundred, and so on.
  have hfour : (n + 1) / 4 = n / 4 + if 4 ∣ n + 1 then 1 else 0 := Nat.succ_div
  have hhundred : (n + 1) / 100 = n / 100 + if 100 ∣ n + 1 then 1 else 0 := Nat.succ_div
  have hfourHundred : (n + 1) / 400 = n / 400 + if 400 ∣ n + 1 then 1 else 0 := Nat.succ_div
  have hle : n / 100 ≤ n / 4 := Nat.div_le_div_left (by decide) (by decide)
  rw [daysBeforeMonth_thirteen, daysBeforeYear, daysBeforeYear, Nat.add_sub_cancel,
    Nat.add_sub_cancel, hfour, hhundred, hfourHundred]
  simp only [isLeap_iff]
  clear hfour hhundred hfourHundred
  generalize n / 4 = a at *
  generalize n / 100 = b at *
  generalize n / 400 = c at *
  split_ifs <;> omega

theorem daysInMonth_le (y m : Nat) : daysInMonth y m ≤ 31 := by
  unfold daysInMonth
  split
  · split <;> decide
  · split <;> decide

theorem daysBeforeMonth_succ (y : Nat) {m : Nat} (h : 1 ≤ m) :
    daysBeforeMonth y (m + 1) = daysBeforeMonth y m + daysInMonth y m := by
  obtain ⟨k, rfl⟩ := Nat.exists_eq_add_of_le' h
  rfl

theorem daysBeforeMonth_mono (y : Nat) {m m' : Nat} (h : 1 ≤ m) (hle : m ≤ m') :
    daysBeforeMonth y m ≤ daysBeforeMonth y m' := by
  induction m', hle using Nat.le_induction with
  | base => exact le_rfl
  | succ m' hm ih =>
    rw [daysBeforeMonth_succ y (h.trans hm)]
    omega

theorem daysBeforeYear_mono {y y' : Nat} (h : 1 ≤ y) (hle : y ≤ y') :
    daysBeforeYear y ≤ daysBeforeYear y' := by
  induction y', hle using Nat.le_induction with
  | base => exact le_rfl
  | succ y' hy ih =>
    rw [daysBeforeYear_succ (h.trans hy)]
    omega

/-! ### What is found -/

/-- **The last of some periods that begins on a day or before**, among those from the first one
to the `limit`-th. -/
structure IsLast (start : Nat → Nat) (day limit k : Nat) : Prop where
  /-- It is one of the periods. -/
  one_le : 1 ≤ k
  /-- It is not behind the last one. -/
  le_limit : k ≤ max 1 limit
  /-- It begins on the day or before. -/
  start_le : start k ≤ day
  /-- Every later one begins after the day. -/
  lt_start : ∀ k', k < k' → k' ≤ limit → day < start k'

/-- **Searching downward finds the last period** that begins on a day or before, if the first one
does. -/
theorem isLast_of_search (start search : Nat → Nat) {day : Nat} (hzero : search 0 = 1)
    (hsucc : ∀ k, search (k + 1) = if start (k + 1) ≤ day then k + 1 else search k)
    (hone : start 1 ≤ day) (limit : Nat) : IsLast start day limit (search limit) := by
  induction limit with
  | zero =>
    rw [hzero]
    exact ⟨le_rfl, le_max_left 1 0, hone, fun k' hk hk' => absurd hk (by omega)⟩
  | succ limit ih =>
    rw [hsucc]
    split
    · rename_i hstart
      exact ⟨by omega, le_max_right 1 _, hstart, fun k' hk hk' => absurd hk (by omega)⟩
    · rename_i hstart
      obtain ⟨hone_le, hle, hstart_le, hlater⟩ := ih
      refine ⟨hone_le, by omega, hstart_le, fun k' hk hk' => ?_⟩
      rcases Nat.lt_or_ge limit k' with hlast | hbefore
      · obtain rfl : k' = limit + 1 := by omega
        omega
      · exact hlater k' hk hbefore

/-- **A day lies in the year that is found for it.** -/
theorem yearOf_spec (day : Nat) :
    1 ≤ yearOf day ∧ daysBeforeYear (yearOf day) ≤ day ∧ day < daysBeforeYear (yearOf day + 1) := by
  obtain ⟨hone, hle, hstart, hlater⟩ := isLast_of_search daysBeforeYear (yearFrom day) rfl
    (fun _ => rfl) (Nat.zero_le day) (day / 365 + 1)
  refine ⟨hone, hstart, ?_⟩
  change day < daysBeforeYear (yearFrom day (day / 365 + 1) + 1)
  rcases Nat.lt_or_ge (yearFrom day (day / 365 + 1)) (day / 365 + 1) with hlt | hge
  · exact hlater _ (Nat.lt_succ_self _) hlt
  · -- The search began with a year behind which no day of this number can lie.
    obtain hlast : yearFrom day (day / 365 + 1) = day / 365 + 1 := by omega
    rw [hlast, daysBeforeYear]
    omega

/-- **A day of a year lies in the month that is found for it.** -/
theorem monthFrom_spec {y dayOfYear : Nat} (h : dayOfYear < daysBeforeMonth y 13) :
    1 ≤ monthFrom y dayOfYear 12 ∧ monthFrom y dayOfYear 12 ≤ 12 ∧
      daysBeforeMonth y (monthFrom y dayOfYear 12) ≤ dayOfYear ∧
      dayOfYear < daysBeforeMonth y (monthFrom y dayOfYear 12 + 1) := by
  obtain ⟨hone, hle, hstart, hlater⟩ := isLast_of_search (daysBeforeMonth y)
    (monthFrom y dayOfYear) rfl (fun _ => rfl) (Nat.zero_le dayOfYear) 12
  refine ⟨hone, hle, hstart, ?_⟩
  rcases Nat.lt_or_ge (monthFrom y dayOfYear 12) 12 with hlt | hge
  · exact hlater _ (Nat.lt_succ_self _) hlt
  · obtain hlast : monthFrom y dayOfYear 12 = 12 := le_antisymm hle hge
    rw [hlast]
    exact h

/-! ### Dates -/

/-- **A date of a day**, where days are counted from the first one of the year 1. -/
structure IsDate (day : Nat) (date : Nat × Nat × Nat) : Prop where
  /-- Years are counted from one. -/
  one_le_year : 1 ≤ date.1
  /-- Months are counted from one. -/
  one_le_month : 1 ≤ date.2.1
  /-- There are twelve of them. -/
  month_le : date.2.1 ≤ 12
  /-- Days of a month are counted from one. -/
  one_le_day : 1 ≤ date.2.2
  /-- The month has the day. -/
  day_le : date.2.2 ≤ daysInMonth date.1 date.2.1
  /-- The days before the year and the month, and the days of the month, make up the day. -/
  days_eq : daysBeforeYear date.1 + daysBeforeMonth date.1 date.2.1 + date.2.2 = day + 1

/-- **Every day has a date**, which is the one that is found. -/
theorem isDate_dateOf (day : Nat) : IsDate day (dateOf day) := by
  obtain ⟨hyear, hfirst, hnext⟩ := yearOf_spec day
  rw [daysBeforeYear_succ hyear] at hnext
  have hday : day - daysBeforeYear (yearOf day) < daysBeforeMonth (yearOf day) 13 := by omega
  obtain ⟨hmonth, hmonth', hmonthFirst, hmonthNext⟩ := monthFrom_spec hday
  rw [daysBeforeMonth_succ _ hmonth] at hmonthNext
  exact ⟨hyear, hmonth, hmonth', Nat.le_add_left 1 _, by simp only [dateOf]; omega,
    by simp only [dateOf]; omega⟩

namespace IsDate

variable {day day' : Nat} {date date' : Nat × Nat × Nat}

/-- The year of a date is the one that the day lies in. -/
theorem year_bounds (h : IsDate day date) :
    daysBeforeYear date.1 ≤ day ∧ day < daysBeforeYear (date.1 + 1) := by
  obtain ⟨hyear, hmonth, hmonth', hday, hday', hdays⟩ := h
  have hend := daysBeforeMonth_mono date.1 (Nat.le_add_left 1 date.2.1)
    (show date.2.1 + 1 ≤ 13 by omega)
  rw [daysBeforeMonth_succ _ hmonth] at hend
  rw [daysBeforeYear_succ hyear]
  omega

/-- The numbers of a date in the calendar have at most four, two and two digits. -/
theorem bounds (h : IsDate day date) (hday : day < dayCount) :
    date.1 < 10000 ∧ date.2.1 < 100 ∧ date.2.2 < 100 := by
  have hmonth := h.month_le
  have hlength := daysInMonth_le date.1 date.2.1
  have hdays := h.day_le
  refine ⟨?_, by omega, by omega⟩
  by_contra hlate
  have hyears : dayCount ≤ daysBeforeYear date.1 := daysBeforeYear_mono (by decide) (not_lt.1 hlate)
  have hfirst := h.year_bounds.1
  omega

/-- **Dates come in the order of days.** -/
theorem earlier (h : IsDate day date) (h' : IsDate day' date') (hlt : day < day') :
    date.1 < date'.1 ∨ date.1 = date'.1 ∧
      (date.2.1 < date'.2.1 ∨ date.2.1 = date'.2.1 ∧ date.2.2 < date'.2.2) := by
  rcases Nat.lt_trichotomy date.1 date'.1 with hyear | hyear | hyear
  · exact Or.inl hyear
  · refine Or.inr ⟨hyear, ?_⟩
    have hdays := h.days_eq
    have hdays' := h'.days_eq
    rw [hyear] at hdays
    rcases Nat.lt_trichotomy date.2.1 date'.2.1 with hmonth | hmonth | hmonth
    · exact Or.inl hmonth
    · rw [hmonth] at hdays
      exact Or.inr ⟨hmonth, by omega⟩
    · -- A later month of the year begins after the last day of the earlier one.
      have hstart := daysBeforeMonth_mono date'.1 (Nat.le_add_left 1 date'.2.1) hmonth
      rw [daysBeforeMonth_succ _ h'.one_le_month] at hstart
      have hday := h.one_le_day
      have hday' := h'.day_le
      omega
  · have hstart := daysBeforeYear_mono (Nat.le_add_left 1 date'.1) hyear
    have hfirst := h.year_bounds.1
    have hlast := h'.year_bounds.2
    omega

end IsDate

end ClusterTutor.Calendar
