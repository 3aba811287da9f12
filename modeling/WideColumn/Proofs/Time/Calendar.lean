import Mathlib.Tactic.IntervalCases
import WideColumn.Time.Date
/-!
# Dates and day numbers

A valid date is the date of its day number, and every day number is that of a
date in the calendar. Years are counted from March here, as the numbering
does: `a` centuries, `c` periods of four years and `e` years into a cycle of
400 years, then `m` months and `d` days.
-/

namespace WideColumn.Date

/-- The day of a year from March on: `m` months have passed, and it is day
`d` of the next. -/
def dayOfYear (m d : Int) : Int := (153 * m + 2) / 5 + d - 1

/-- Day `d` is in month `m` of some year from March on. -/
structure InMonth (m d : Int) : Prop where
  month : 0 ≤ m ∧ m ≤ 11
  day : 1 ≤ d ∧ d ≤ 31
  thirty : m = 1 ∨ m = 3 ∨ m = 6 ∨ m = 8 → d ≤ 30
  february : m = 11 → d ≤ 29

/-- Only February 29 is the last day of a year with 366 days. -/
theorem InMonth.dayOfYear_bounds {m d : Int} (h : InMonth m d) :
    0 ≤ dayOfYear m d ∧ dayOfYear m d ≤ 365 ∧ (dayOfYear m d = 365 → m = 11 ∧ d = 29) := by
  obtain ⟨⟨h0, h1⟩, hd, h30, h29⟩ := h
  unfold dayOfYear
  interval_cases m <;> omega

theorem InMonth.month_of_dayOfYear {m d : Int} (h : InMonth m d) :
    (5 * dayOfYear m d + 2) / 153 = m := by
  obtain ⟨⟨h0, h1⟩, hd, h30, h29⟩ := h
  unfold dayOfYear
  interval_cases m <;> omega

/-- The year of a day in the cycle of 400 years. The corrections take out the
leap days before it, and the last day of a leap year is the case in which
they only just do. -/
theorem year_of_dayInCycle {a c e s : Int} (ha : 0 ≤ a ∧ a ≤ 3) (hc : 0 ≤ c ∧ c ≤ 24)
    (he : 0 ≤ e ∧ e ≤ 3)
    (hs : 0 ≤ s ∧ s ≤ 365) (hl : s = 365 → e = 3 ∧ (c ≠ 24 ∨ a = 3)) {n : Int}
    (hn : n = 36524 * a + 1461 * c + 365 * e + s) :
    0 ≤ n ∧ n < cycle ∧ (n - n / 1460 + n / 36524 - n / 146096) / 365 = 100 * a + 4 * c + e := by
  -- only the last day of the cycle is counted to a fifth century
  have hcentury : n / 36524 - n / 146096 = a := by
    by_cases h : s = 365 ∧ c = 24
    · obtain ⟨rfl, rfl⟩ := h
      omega
    · have h0 : 1461 * c + 365 * e + s < 36524 := by omega
      have h1 : n / 36524 = a := by omega
      have h2 : n / 146096 = 0 := by omega
      omega
  have hfour : n / 1460 = 25 * a + c + (24 * a + c + 365 * e + s) / 1460 := by omega
  -- a day too many is taken out only towards the end of a period of four years
  have hcarry : (24 * a + c + 365 * e + s) / 1460 = 0 ∧ s ≤ 364 ∨
      (24 * a + c + 365 * e + s) / 1460 = 1 ∧ 1 ≤ s := by omega
  refine ⟨by omega, ?_, by omega⟩
  show n < 146097
  omega

/-- The days of whole years within a cycle. -/
theorem days_of_years {a c e : Int} (hc : 0 ≤ c ∧ c ≤ 24) (he : 0 ≤ e ∧ e ≤ 3) :
    365 * (100 * a + 4 * c + e) + (100 * a + 4 * c + e) / 4 - (100 * a + 4 * c + e) / 100 =
      36524 * a + 1461 * c + 365 * e := by
  have h4 : (100 * a + 4 * c + e) / 4 = 25 * a + c := by omega
  have h100 : (100 * a + 4 * c + e) / 100 = a := by omega
  omega

theorem cycle_of_day {q n : Int} (h0 : 0 ≤ n) (h1 : n < cycle) :
    (cycle * q + n - epoch + epoch) / cycle = q ∧ (cycle * q + n - epoch + epoch) % cycle = n := by
  unfold cycle at h1 ⊢
  omega

/-- The date of a day number that is given by its parts. -/
theorem ofDayNumber_of_parts {q a c e m d : Int} (ha : 0 ≤ a ∧ a ≤ 3) (hc : 0 ≤ c ∧ c ≤ 24)
    (he : 0 ≤ e ∧ e ≤ 3) (hm : InMonth m d) (hl : m = 11 → d = 29 → e = 3 ∧ (c ≠ 24 ∨ a = 3)) :
    ofDayNumber (cycle * q + (36524 * a + 1461 * c + 365 * e + dayOfYear m d) - epoch) =
      { year := 100 * a + 4 * c + e + 400 * q + if m < 10 then 0 else 1
        month := (if m < 10 then m + 3 else m - 9).toNat
        day := d.toNat } := by
  obtain ⟨hs0, hs1, hs⟩ := hm.dayOfYear_bounds
  obtain ⟨hn0, hn1, hyear⟩ := year_of_dayInCycle ha hc he ⟨hs0, hs1⟩
    (fun h => hl (hs h).1 (hs h).2) rfl
  obtain ⟨hq, hr⟩ := cycle_of_day (q := q) hn0 hn1
  have hinYear : 36524 * a + 1461 * c + 365 * e + dayOfYear m d -
      (365 * (100 * a + 4 * c + e) + (100 * a + 4 * c + e) / 4 - (100 * a + 4 * c + e) / 100) =
      dayOfYear m d := by
    rw [days_of_years hc he]
    exact add_sub_cancel_left _ _
  have hday : dayOfYear m d - (153 * m + 2) / 5 + 1 = d := by
    unfold dayOfYear
    omega
  simp only [ofDayNumber, hq, hr, hyear, hinYear, hm.month_of_dayOfYear, hday]

/-! ## Valid dates -/

/-- The year from March on that a date lies in. -/
def marchYear (date : Date) : Int := if date.month ≤ 2 then date.year - 1 else date.year

/-- The months of that year that have passed. -/
def marchMonth (date : Date) : Int := if date.month ≤ 2 then date.month + 9 else date.month - 3

theorem daysInMonth_bounds (year : Int) (month : Nat) :
    daysInMonth year month ≤ 31 ∧
      (month = 4 ∨ month = 6 ∨ month = 9 ∨ month = 11 → daysInMonth year month = 30) ∧
      (month = 2 → daysInMonth year month = if isLeapYear year then 29 else 28) := by
  unfold daysInMonth
  refine ⟨?_, ?_, ?_⟩
  · split
    · split <;> omega
    · split <;> omega
  · intro h
    rw [if_neg (by omega), if_pos h]
  · intro h
    rw [if_pos h]

theorem isValid_iff {date : Date} :
    date.isValid = true ↔ (firstYear ≤ date.year ∧ date.year ≤ lastYear) ∧
      (1 ≤ date.month ∧ date.month ≤ 12) ∧
      (1 ≤ date.day ∧ date.day ≤ daysInMonth date.year date.month) := by
  simp only [isValid, Bool.and_eq_true, decide_eq_true_eq]
  tauto

theorem inMonth_of_isValid {date : Date} (h : date.isValid = true) :
    InMonth date.marchMonth date.day := by
  obtain ⟨-, ⟨hm0, hm1⟩, hd0, hd1⟩ := isValid_iff.1 h
  obtain ⟨h31, h30, h2⟩ := daysInMonth_bounds date.year date.month
  have h29 : date.month = 2 → daysInMonth date.year date.month ≤ 29 := by
    intro hm
    rw [h2 hm]
    split <;> omega
  unfold marchMonth
  refine ⟨?_, by omega, ?_, ?_⟩ <;> split <;> omega

/-- Only a leap year ends on February 29 when it is counted from March. -/
theorem isLeapYear_of_isValid {date : Date} (h : date.isValid = true) (hm : date.marchMonth = 11)
    (hd : date.day = 29) : date.marchYear = date.year - 1 ∧ isLeapYear date.year = true := by
  obtain ⟨-, ⟨hm0, hm1⟩, -, hd1⟩ := isValid_iff.1 h
  have hmonth : date.month = 2 := by
    unfold marchMonth at hm
    split at hm <;> omega
  refine ⟨if_pos (by omega), ?_⟩
  by_contra hn
  rw [(daysInMonth_bounds date.year date.month).2.2 hmonth, if_neg hn] at hd1
  omega

theorem dayNumber_eq (date : Date) :
    date.dayNumber =
      365 * date.marchYear + date.marchYear / 4 - date.marchYear / 100 + date.marchYear / 400 +
      dayOfYear date.marchMonth date.day - epoch := by
  simp only [dayNumber, marchYear, marchMonth, dayOfYear]
  omega

/-- The parts of a year within its cycle. -/
theorem year_parts (y : Int) :
    365 * y + y / 4 - y / 100 + y / 400 =
      cycle * (y / 400) + (36524 * (y % 400 / 100) + 1461 * (y % 100 / 4) + 365 * (y % 4)) := by
  unfold cycle
  omega

theorem ofDayNumber_dayNumber {date : Date} (h : date.isValid = true) :
    ofDayNumber date.dayNumber = date := by
  have hm := inMonth_of_isValid h
  obtain ⟨-, ⟨hm0, hm1⟩, -⟩ := isValid_iff.1 h
  generalize hy : date.marchYear = y
  -- February 29 is in a leap year, which ends a period of four years from March on
  have hl : date.marchMonth = 11 → (date.day : Int) = 29 →
      y % 4 = 3 ∧ (y % 100 / 4 ≠ 24 ∨ y % 400 / 100 = 3) := by
    intro hmonth hday
    obtain ⟨hyear, hleap⟩ := isLeapYear_of_isValid h hmonth (by omega)
    simp only [isLeapYear, decide_eq_true_eq] at hleap
    omega
  have hnumber : date.dayNumber = cycle * (y / 400) + (36524 * (y % 400 / 100) + 1461 * (y % 100 / 4) +
      365 * (y % 4) + dayOfYear date.marchMonth date.day) - epoch := by
    rw [dayNumber_eq, hy, year_parts]
    omega
  rw [hnumber, ofDayNumber_of_parts (by omega) (by omega) (by omega) hm hl]
  -- January and February belong to the year before when counting from March
  obtain ⟨year, month, day⟩ := date
  simp only [marchYear, marchMonth, mk.injEq] at hy hm0 hm1 ⊢
  refine ⟨?_, ?_, by omega⟩
  · split at hy
    · rw [if_neg (by split <;> omega)]
      omega
    · rw [if_pos (by split <;> omega)]
      omega
  · split
    · rw [if_neg (by omega)]
      omega
    · rw [if_pos (by omega)]
      omega

/-! ## All day numbers -/

/-- Every day of the year from March on is in one of its months. -/
theorem exists_inMonth {s : Int} (hs : 0 ≤ s ∧ s ≤ 365) :
    ∃ m d, InMonth m d ∧ dayOfYear m d = s ∧ (m = 11 → d = 29 → s = 365) := by
  have hm : 0 ≤ (5 * s + 2) / 153 ∧ (5 * s + 2) / 153 ≤ 11 := by omega
  refine ⟨(5 * s + 2) / 153, s - (153 * ((5 * s + 2) / 153) + 2) / 5 + 1, ?_, ?_, ?_⟩
  · generalize hmonth : (5 * s + 2) / 153 = m at hm ⊢
    obtain ⟨h0, h1⟩ := hm
    refine ⟨⟨h0, h1⟩, ?_, ?_, ?_⟩ <;> interval_cases m <;> omega
  · unfold dayOfYear
    omega
  · intro hmonth
    rw [hmonth]
    omega

/-- Every day number has its parts. A leap day ends a period of four years,
but no century other than the fourth. -/
theorem exists_parts (n : Int) :
    ∃ q a c e m d, (0 ≤ a ∧ a ≤ 3) ∧ (0 ≤ c ∧ c ≤ 24) ∧ (0 ≤ e ∧ e ≤ 3) ∧ InMonth m d ∧
      (m = 11 → d = 29 → e = 3 ∧ (c ≠ 24 ∨ a = 3)) ∧
      n = cycle * q + (36524 * a + 1461 * c + 365 * e + dayOfYear m d) - epoch := by
  generalize hr : (n + epoch) % cycle = r
  have hr0 : 0 ≤ r ∧ r < 146097 := by
    unfold cycle at hr
    omega
  generalize ha : min (r / 36524) 3 = a
  generalize hc : (r - 36524 * a) / 1461 = c
  generalize he : min ((r - 36524 * a - 1461 * c) / 365) 3 = e
  have hs : 0 ≤ r - 36524 * a - 1461 * c - 365 * e ∧ r - 36524 * a - 1461 * c - 365 * e ≤ 365 := by omega
  obtain ⟨m, d, hmd, hday, hlast⟩ := exists_inMonth hs
  refine ⟨(n + epoch) / cycle, a, c, e, m, d, by omega, by omega, by omega, hmd, ?_, ?_⟩
  · intro hm hd
    have hleap := hlast hm hd
    omega
  · have hdivision := Int.mul_ediv_add_emod (n + epoch) cycle
    omega

/-- The date that is `m` months and `d` days into a year from March on. -/
def ofMarch (y m d : Int) : Date :=
  { year := y + if m < 10 then 0 else 1
    month := (if m < 10 then m + 3 else m - 9).toNat
    day := d.toNat }

theorem march_ofMarch {y m d : Int} (h : 0 ≤ m ∧ m ≤ 11) :
    (ofMarch y m d).marchYear = y ∧ (ofMarch y m d).marchMonth = m := by
  by_cases hm : m < 10
  · simp only [marchYear, marchMonth, ofMarch, if_pos hm]
    constructor <;> split <;> omega
  · simp only [marchYear, marchMonth, ofMarch, if_neg hm]
    constructor <;> split <;> omega

theorem exists_ofMarch (n : Int) :
    ∃ y m d, InMonth m d ∧ (m = 11 → d = 29 → y % 4 = 3 ∧ (y % 100 / 4 ≠ 24 ∨ y % 400 / 100 = 3)) ∧
      ofDayNumber n = ofMarch y m d ∧
      n = 365 * y + y / 4 - y / 100 + y / 400 + dayOfYear m d - epoch := by
  obtain ⟨q, a, c, e, m, d, ha, hc, he, hm, hl, rfl⟩ := exists_parts n
  generalize hy : 100 * a + 4 * c + e + 400 * q = y
  refine ⟨y, m, d, hm, ?_, ?_, ?_⟩
  · intro hm hd
    have hleap := hl hm hd
    omega
  · rw [ofDayNumber_of_parts ha hc he hm hl, hy]
    rfl
  · rw [year_parts]
    unfold cycle
    omega

/-- The date of a day number has this day number. -/
theorem dayNumber_ofDayNumber (n : Int) : (ofDayNumber n).dayNumber = n := by
  obtain ⟨y, m, d, hm, -, hdate, hn⟩ := exists_ofMarch n
  have hday : ((ofMarch y m d).day : Int) = d := Int.toNat_of_nonneg (Int.le_trans (by decide) hm.day.1)
  obtain ⟨hyear, hmonth⟩ := march_ofMarch (y := y) (d := d) hm.month
  rw [hdate, dayNumber_eq, hyear, hmonth, hday, ← hn]

/-- The date of a day number is in the calendar. -/
theorem isValid_ofDayNumber {n : Int}
    (h : firstYear ≤ (ofDayNumber n).year ∧ (ofDayNumber n).year ≤ lastYear) :
    (ofDayNumber n).isValid = true := by
  refine isValid_iff.2 ⟨h, ?_⟩
  obtain ⟨y, m, d, ⟨⟨h0, h1⟩, ⟨hd0, hd1⟩, h30, h29⟩, hl, hdate, -⟩ := exists_ofMarch n
  rw [hdate]
  -- the year is a leap year if the date is its February 29
  have hleap : m = 11 → d = 29 → isLeapYear (y + 1) = true := by
    intro hm hd
    have hparts := hl hm hd
    simp only [isLeapYear, decide_eq_true_eq]
    omega
  simp only [ofMarch]
  by_cases hm : m < 10
  · simp only [if_pos hm, daysInMonth]
    rw [if_neg (by omega)]
    refine ⟨by omega, by omega, ?_⟩
    split <;> omega
  · simp only [if_neg hm, daysInMonth]
    refine ⟨by omega, by omega, ?_⟩
    split
    next h2 =>
      split
      next => omega
      next hn =>
        have hd : d ≠ 29 := fun hd => hn (hleap (by omega) hd)
        omega
    next => split <;> omega

end WideColumn.Date
