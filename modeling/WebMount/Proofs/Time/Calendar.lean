import WebMount.Time.Calendar

/-!
# Days and dates

Every day up to the end of the year 9999 has a date (`Date.exists_ofDays?`), the date of a day is
one that the calendar has, and counting the days up to it gives the day back
(`Date.valid_of_ofDays?`, `Date.toDays_of_ofDays?`). Both levels of the calendar, years and months,
are handled by the laws of blocks of consecutive days.
-/

namespace WebMount.Time

/-- The number of days from 1970-01-01 to the end of the year 9999. -/
def dayCount : Nat := 2932897

theorem unitsBefore_yearLengths : unitsBefore yearLengths yearLengths.length = dayCount := by
  decide +kernel

theorem unitsBefore_monthLengths (year : Nat) :
    unitsBefore (monthLengths year) (monthLengths year).length = yearLength year := by
  cases h : isLeapYear year <;> simp [monthLengths, yearLength, unitsBefore, h]

/-- A unit that is not behind all blocks lies in one of them. -/
theorem exists_locate {lengths : List Nat} {n : Nat} (h : n < unitsBefore lengths lengths.length) :
    ∃ p, locate lengths n = some p := by
  induction lengths generalizing n with
  | nil => exact absurd h (Nat.not_lt_zero n)
  | cons length lengths ih =>
    rw [List.length_cons, unitsBefore] at h
    rw [locate]
    split
    · exact ⟨_, rfl⟩
    · have hrest : n - length < unitsBefore lengths lengths.length := by omega
      obtain ⟨p, hp⟩ := ih hrest
      exact ⟨_, by rw [hp, Option.map_some]⟩

/-- A unit that lies in one of the blocks is not behind all of them. -/
theorem lt_of_locate {lengths : List Nat} {n : Nat} {p : Nat × Nat}
    (h : locate lengths n = some p) : n < unitsBefore lengths lengths.length := by
  induction lengths generalizing n p with
  | nil => exact nomatch h
  | cons length lengths ih =>
    rw [List.length_cons, unitsBefore]
    rw [locate] at h
    split at h
    · omega
    · obtain ⟨q, hq, -⟩ := Option.map_eq_some_iff.mp h
      have hrest := ih hq
      omega

/-- A year of the calendar by its place, with its length. -/
private theorem yearLengths_getElem? {i length : Nat} (h : yearLengths[i]? = some length) :
    firstYear + i ≤ lastYear ∧ length = yearLength (firstYear + i) := by
  rw [yearLengths, List.getElem?_map, Option.map_eq_some_iff] at h
  obtain ⟨year, hyear, rfl⟩ := h
  obtain ⟨hi, rfl⟩ := List.getElem?_eq_some_iff.mp hyear
  rw [List.length_range'] at hi
  rw [List.getElem_range', Nat.one_mul]
  exact ⟨by unfold firstYear lastYear at *; omega, rfl⟩

namespace Date

/-- The year, the month and the day of the month of a day, counted from zero. -/
private theorem ofDays?_eq_some {n : Nat} {date : Date} (h : ofDays? n = some date) :
    ∃ y r m d, locate yearLengths n = some (y, r) ∧
      locate (monthLengths (firstYear + y)) r = some (m, d) ∧
      date = ⟨firstYear + y, m + 1, d + 1⟩ := by
  rw [ofDays?, Option.bind_eq_bind, Option.bind_eq_some_iff] at h
  obtain ⟨⟨y, r⟩, hyear, h⟩ := h
  rw [Option.bind_eq_some_iff] at h
  obtain ⟨⟨m, d⟩, hmonth, h⟩ := h
  exact ⟨y, r, m, d, hyear, hmonth, (Option.some.inj h).symm⟩

/-- **Every day has a date.** -/
theorem exists_ofDays? {n : Nat} (h : n < dayCount) : ∃ date, ofDays? n = some date := by
  have hyears : n < unitsBefore yearLengths yearLengths.length := by
    rwa [unitsBefore_yearLengths]
  obtain ⟨⟨y, r⟩, hyear⟩ := exists_locate hyears
  obtain ⟨-, length, hlength, hr⟩ := locate_eq_some hyear
  obtain ⟨-, rfl⟩ := yearLengths_getElem? hlength
  have hmonths : r < unitsBefore (monthLengths (firstYear + y))
      (monthLengths (firstYear + y)).length := by
    rwa [unitsBefore_monthLengths]
  obtain ⟨⟨m, d⟩, hmonth⟩ := exists_locate hmonths
  exact ⟨⟨firstYear + y, m + 1, d + 1⟩, by simp [ofDays?, hyear, hmonth]⟩

/-- No day behind the year 9999 has a date. -/
theorem lt_dayCount_of_ofDays? {n : Nat} {date : Date} (h : ofDays? n = some date) :
    n < dayCount := by
  obtain ⟨y, r, m, d, hyear, -, -⟩ := ofDays?_eq_some h
  rw [← unitsBefore_yearLengths]
  exact lt_of_locate hyear

/-- Counting the days up to the date of a day gives the day. -/
theorem toDays_of_ofDays? {n : Nat} {date : Date} (h : ofDays? n = some date) :
    date.toDays = n := by
  obtain ⟨y, r, m, d, hyear, hmonth, rfl⟩ := ofDays?_eq_some h
  have hn := (locate_eq_some hyear).1
  have hr := (locate_eq_some hmonth).1
  simp only [toDays, Nat.add_sub_cancel_left, Nat.add_sub_cancel]
  omega

/-- The date of a day is one that the calendar has. -/
theorem valid_of_ofDays? {n : Nat} {date : Date} (h : ofDays? n = some date) :
    date.valid = true := by
  obtain ⟨y, r, m, d, hyear, hmonth, rfl⟩ := ofDays?_eq_some h
  obtain ⟨-, length, hlength, -⟩ := locate_eq_some hyear
  obtain ⟨-, days, hdays, hd⟩ := locate_eq_some hmonth
  have hlast := (yearLengths_getElem? hlength).1
  simp only [valid, Nat.add_sub_cancel, hdays, Option.getD_some, Bool.and_eq_true,
    decide_eq_true_eq]
  omega

/-- A date of the calendar lies in one of twelve months, none of which is longer than 31 days. -/
theorem bounds_of_valid {date : Date} (h : date.valid = true) :
    date.month ≤ 12 ∧ date.day ≤ 31 := by
  simp only [valid, Bool.and_eq_true, decide_eq_true_eq] at h
  obtain ⟨⟨-, -, hmonth, hday⟩, hlength⟩ := h
  cases hm : (monthLengths date.year)[date.month - 1]? with
  | none =>
    -- a month that the year does not have would have no days
    rw [hm, Option.getD_none] at hlength
    omega
  | some length =>
    rw [hm, Option.getD_some] at hlength
    obtain ⟨hplace, -⟩ := List.getElem?_eq_some_iff.mp hm
    have hcount : (monthLengths date.year).length = 12 := rfl
    have hlongest : ∀ length ∈ monthLengths date.year, length ≤ 31 := by
      cases hleap : isLeapYear date.year <;> simp [monthLengths, hleap]
    have := hlongest length (List.mem_of_getElem? hm)
    omega

end Date

end WebMount.Time
