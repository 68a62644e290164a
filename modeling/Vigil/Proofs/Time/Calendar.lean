import Vigil.Time.Calendar

/-!
# Days and dates

The date with a number stands in the calendar, and its number is this one. Two facts about the days
of a turn of 400 years carry this: how many leap days came before a day (`Counted`), and which date
it is when years and months are counted from March on (`Dated`).
-/

namespace Vigil.Calendar

/-- A day of a turn by centuries, by turns of four years within the century, and by years within
these. The last century is a day longer, and so is the last year of four unless it ends one of the
other centuries. -/
structure Counted (day centuries fours years rest : Int) : Prop where
  day_eq : day = 36524 * centuries + 1461 * fours + 365 * years + rest
  centuries_bounds : 0 ≤ centuries ∧ centuries ≤ 3
  fours_bounds : 0 ≤ fours ∧ fours ≤ 24
  years_bounds : 0 ≤ years ∧ years ≤ 3
  rest_bounds : 0 ≤ rest ∧ rest ≤ 365
  leap : rest = 365 → years = 3 ∧ (fours = 24 → centuries = 3)

/-- Every day of a turn is counted so. -/
theorem exists_counted {day : Int} (h : 0 ≤ day ∧ day < daysPerTurn) :
    ∃ centuries fours years rest, Counted day centuries fours years rest := by
  simp only [daysPerTurn] at h
  obtain ⟨c, hc⟩ : ∃ c, c = min (day / 36524) 3 := ⟨_, rfl⟩
  obtain ⟨q, hq⟩ : ∃ q, q = (day - 36524 * c) / 1461 := ⟨_, rfl⟩
  obtain ⟨n, hn⟩ : ∃ n, n = min ((day - 36524 * c - 1461 * q) / 365) 3 := ⟨_, rfl⟩
  refine ⟨c, q, n, day - 36524 * c - 1461 * q - 365 * n, ?_, ?_, ?_, ?_, ?_, ?_⟩
  all_goals omega

/-- The year in which a day falls. -/
theorem Counted.yearOfTurn {d c q n r : Int} (h : Counted d c q n r) :
    (d - d / 1460 + d / 36524 - d / 146096) / 365 = 100 * c + 4 * q + n := by
  obtain ⟨hd, hc, hq, hn, hr, hleap⟩ := h
  have hcentury : 1461 * q + 365 * n + r ≤ 36523 ∨ c = 3 ∧ 1461 * q + 365 * n + r = 36524 := by
    omega
  have hcenturies : d / 36524 - d / 146096 = c := by
    rcases hcentury with hinside | ⟨rfl, hlast⟩
    · have hwhole : d / 36524 = c := by omega
      have hlast : d / 146096 = 0 := by omega
      omega
    · rw [show d = 146096 by omega]
      rfl
  -- The quotient counts the leap days before. It may count the one that ends these four years too
  -- early, but not as early as on the first day of a year, and so the year comes out the same.
  have hfours : d / 1460 = 25 * c + q ∧ r ≤ 364 ∨ d / 1460 = 25 * c + q + 1 ∧ 1 ≤ r := by omega
  omega

theorem Counted.dayOfYear {d c q n r y : Int} (h : Counted d c q n r)
    (hy : y = 100 * c + 4 * q + n) : d - (365 * y + y / 4 - y / 100) = r := by
  obtain ⟨rfl, hc, hq, hn, hr, hleap⟩ := h
  omega

/-- Only leap years have a day 365. -/
theorem Counted.isLeap {d c q n r y : Int} (h : Counted d c q n r) (hy : y = 100 * c + 4 * q + n)
    (hr : r = 365) : (y + 1) % 4 = 0 ∧ ((y + 1) % 100 = 0 → (y + 1) % 400 = 0) := by
  obtain ⟨rfl, hlast⟩ := h.leap hr
  have hc := h.centuries_bounds
  have hq := h.fours_bounds
  omega

theorem Counted.year_bounds {d c q n r y : Int} (h : Counted d c q n r)
    (hy : y = 100 * c + 4 * q + n) : 0 ≤ y ∧ y < 400 := by
  obtain ⟨-, hc, hq, hn, -, -⟩ := h
  omega

/-- The date with a number, by its year and its month from March on: the day has the number `rest`
in this year, and `(153 * month + 2) / 5` days come before its month. -/
structure Dated (days turn year rest month : Int) : Prop where
  days_eq : days + 719468 = turn * daysPerTurn + (365 * year + year / 4 - year / 100) + rest
  year_bounds : 0 ≤ year ∧ year < 400
  rest_bounds : 0 ≤ rest ∧ rest ≤ 365
  month_eq : month = (5 * rest + 2) / 153
  leap : rest = 365 → (year + 1) % 4 = 0 ∧ ((year + 1) % 100 = 0 → (year + 1) % 400 = 0)
  date_eq : dateOfDays days =
    ⟨if month < 10 then year + turn * 400 else year + turn * 400 + 1,
      (if month < 10 then month + 3 else month - 9).toNat,
      (rest - (153 * month + 2) / 5 + 1).toNat⟩

theorem exists_dated (days : Int) : ∃ turn year rest month, Dated days turn year rest month := by
  obtain ⟨turn, hturn⟩ : ∃ turn, turn = (days + 719468).fdiv daysPerTurn := ⟨_, rfl⟩
  have hbounds : 0 ≤ days + 719468 - turn * daysPerTurn ∧
      days + 719468 - turn * daysPerTurn < daysPerTurn := by
    rw [hturn, Int.fdiv_eq_ediv_of_nonneg _ (by decide)]
    simp only [daysPerTurn]
    omega
  obtain ⟨c, q, n, rest, hcounted⟩ := exists_counted hbounds
  have hyear := hcounted.yearOfTurn
  obtain ⟨year, hyear'⟩ : ∃ year, year = 100 * c + 4 * q + n := ⟨_, rfl⟩
  rw [← hyear'] at hyear
  have hrest := hcounted.dayOfYear hyear'
  refine ⟨turn, year, rest, (5 * rest + 2) / 153, ⟨?_, hcounted.year_bounds hyear',
    hcounted.rest_bounds, rfl, hcounted.isLeap hyear', ?_⟩⟩
  · rw [← hrest]
    exact (by omega : ∀ a b c : Int, a = b + c + (a - b - c)) _ _ _
  · simp only [dateOfDays, ← hturn, hyear, hrest]
    have hmonth := hcounted.rest_bounds
    clear hyear hyear' hrest hcounted hbounds hturn
    by_cases hlate : (5 * rest + 2) / 153 < 10
    · simp only [hlate, if_true]
      rw [if_neg (by omega)]
    · simp only [hlate, if_false]
      rw [if_pos (by omega)]

/-- The number of a date by its month from March on. -/
theorem daysOfDate_fromMarch {turn year month day : Int} (hyear : 0 ≤ year ∧ year < 400)
    (hmonth : 0 ≤ month ∧ month ≤ 11) (hday : 1 ≤ day) :
    daysOfDate ⟨if month < 10 then year + turn * 400 else year + turn * 400 + 1,
        (if month < 10 then month + 3 else month - 9).toNat, day.toNat⟩ =
      turn * daysPerTurn +
        (year * 365 + year / 4 - year / 100 + ((153 * month + 2) / 5 + day - 1)) - 719468 := by
  have hturn : (year + turn * 400).fdiv 400 = turn := by
    rw [Int.fdiv_eq_ediv_of_nonneg _ (by decide)]
    omega
  have hdays : (day.toNat : Int) = day := Int.toNat_of_nonneg (by omega)
  by_cases hlate : month < 10
  · have hafter : ¬(month + 3).toNat ≤ 2 ∧ (month + 3).toNat > 2 := by omega
    have hback : ((month + 3).toNat : Int) - 3 = month := by omega
    simp only [daysOfDate, hlate, hafter, if_true, if_false, hturn, hback, hdays,
      Int.add_sub_cancel]
  · have hafter : (month - 9).toNat ≤ 2 ∧ ¬(month - 9).toNat > 2 := by omega
    have hback : ((month - 9).toNat : Int) + 9 = month := by omega
    simp only [daysOfDate, hlate, hafter, if_true, if_false, hturn, hback, hdays,
      Int.add_sub_cancel]

namespace Dated

variable {days turn year rest month : Int}

theorem month_bounds (h : Dated days turn year rest month) : 0 ≤ month ∧ month ≤ 11 := by
  have hrest := h.rest_bounds
  have hmonth := h.month_eq
  omega

theorem day_bounds (h : Dated days turn year rest month) :
    1 ≤ rest - (153 * month + 2) / 5 + 1 ∧ rest - (153 * month + 2) / 5 + 1 ≤ 31 := by
  have hrest := h.rest_bounds
  have hmonth := h.month_eq
  omega

theorem daysOfDate_eq (h : Dated days turn year rest month) :
    daysOfDate (dateOfDays days) = days := by
  have hdayOfYear : (153 * month + 2) / 5 + (rest - (153 * month + 2) / 5 + 1) - 1 = rest := by
    omega
  rw [h.date_eq, daysOfDate_fromMarch h.year_bounds h.month_bounds h.day_bounds.1, hdayOfYear,
    Int.mul_comm year 365]
  have hdays := h.days_eq
  omega

/-- The last day of a year from March on is the one of a leap year, and falls into February. -/
theorem isLeapYear_of_rest (h : Dated days turn year rest month) (hlast : rest = 365) :
    isLeapYear (year + turn * 400 + 1) = true := by
  obtain ⟨hfour, hcentury⟩ := h.leap hlast
  have hfour' : (year + turn * 400 + 1) % 4 = 0 := by omega
  have hcentury' : (year + turn * 400 + 1) % 100 ≠ 0 ∨ (year + turn * 400 + 1) % 400 = 0 := by
    omega
  simpa [isLeapYear, hfour'] using hcentury'

theorem day_le_daysInMonth (h : Dated days turn year rest month) :
    (rest - (153 * month + 2) / 5 + 1).toNat ≤
      daysInMonth (if month < 10 then year + turn * 400 else year + turn * 400 + 1)
        (if month < 10 then month + 3 else month - 9).toNat := by
  have hrest := h.rest_bounds
  have hmonth := h.month_eq
  by_cases hlast : rest = 365
  · have hleap := h.isLeapYear_of_rest hlast
    obtain rfl : month = 11 := by omega
    subst hlast
    simp [daysInMonth, hleap]
  · obtain ⟨civil, hcivil⟩ : ∃ civil : Nat,
        civil = (if month < 10 then month + 3 else month - 9).toNat := ⟨_, rfl⟩
    have hmonths : month < 10 ∧ (civil : Int) = month + 3 ∨ 10 ≤ month ∧ civil = month - 9 := by
      split at hcivil <;> omega
    have hfebruary (y : Int) : 28 ≤ if isLeapYear y then 29 else 28 := by
      split <;> decide
    rw [← hcivil, daysInMonth]
    split
    · exact Nat.le_trans (by omega) (hfebruary _)
    · split <;> omega

theorem valid (h : Dated days turn year rest month) : (dateOfDays days).valid = true := by
  have hlength := h.day_le_daysInMonth
  have hday := h.day_bounds
  have hmonth := h.month_bounds
  have hcivil : 1 ≤ (if month < 10 then month + 3 else month - 9).toNat ∧
      (if month < 10 then month + 3 else month - 9).toNat ≤ 12 := by
    split <;> omega
  rw [h.date_eq]
  simp only [Date.valid, Bool.and_eq_true, decide_eq_true_eq]
  exact ⟨⟨hcivil, by omega⟩, hlength⟩

end Dated

theorem daysOfDate_dateOfDays (days : Int) : daysOfDate (dateOfDays days) = days := by
  obtain ⟨turn, year, rest, month, h⟩ := exists_dated days
  exact h.daysOfDate_eq

theorem valid_dateOfDays (days : Int) : (dateOfDays days).valid = true := by
  obtain ⟨turn, year, rest, month, h⟩ := exists_dated days
  exact h.valid

end Vigil.Calendar
