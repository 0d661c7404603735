import MarkupFeed.Calendar

/-!
# Dates and days determine each other

Every day has a date, and the date tells the day.

An era of four hundred years is taken apart into centuries, cycles of four years, years and days
(`exists_cycles`). The last day of a cycle may be the 366th of its year, and then the next year is a
leap year; all else follows from this. Main statements: `toDays_ofDays` and `isValid_ofDays`.
-/

namespace MarkupFeed.Date

/-! ### The days of an era -/

/-- A day of an era, by its century, its cycle of four years, its year of the cycle and its day of
the year, all counted from zero. -/
structure IsInEra (n century cycle year day : Nat) : Prop where
  eq : n = 36524 * century + 1461 * cycle + 365 * year + day
  century_le : century ≤ 3
  cycle_le : cycle ≤ 24
  year_le : year ≤ 3
  day_le : day ≤ 365
  /-- Only the last year of a cycle has a 366th day, and the last cycle of a century has none unless
  the century is the last one. -/
  of_leapDay : day = 365 → year = 3 ∧ (cycle = 24 → century = 3)

theorem exists_cycles {n : Nat} (h : n < 146097) :
    ∃ century cycle year day, IsInEra n century cycle year day := by
  -- the last century, and the last year of a cycle, are a day longer than those before
  obtain ⟨century, rest, hn, hcentury, hrest, hlast⟩ : ∃ century rest, n = 36524 * century + rest
      ∧ century ≤ 3 ∧ rest ≤ 36524 ∧ (rest = 36524 → century = 3) :=
    ⟨min (n / 36524) 3, n - 36524 * min (n / 36524) 3, by omega, by omega, by omega, by omega⟩
  obtain ⟨cycle, left, hcycles, hcycle, hleft, hshort⟩ : ∃ cycle left, rest = 1461 * cycle + left
      ∧ cycle ≤ 24 ∧ left ≤ 1460 ∧ (left = 1460 → cycle = 24 → century = 3) :=
    ⟨rest / 1461, rest % 1461, by omega, by omega, by omega, by omega⟩
  refine ⟨century, cycle, min (left / 365) 3, left - 365 * min (left / 365) 3, ?_, hcentury, hcycle,
    ?_, ?_, ?_⟩
  all_goals omega

variable {n century cycle year day : Nat}

/-- The formula for the year of the era. -/
theorem IsInEra.yearOfEra (h : IsInEra n century cycle year day) :
    (n - n / 1460 + n / 36524 - n / 146096) / 365 = 100 * century + 4 * cycle + year := by
  obtain ⟨hn, hcentury, hcycle, hyear, hday, hleap⟩ := h
  have hcenturies : n / 36524 = century + n / 146096 := by
    obtain ⟨rest, hrest, hle, hlast⟩ : ∃ rest, n = 36524 * century + rest ∧ rest ≤ 36524
        ∧ (rest = 36524 → century = 3) := ⟨n - 36524 * century, by omega, by omega, by omega⟩
    clear hn hleap
    omega
  -- a cycle is a day longer than 1460, so the quotient may be one too large near its end
  obtain ⟨extra, hextra, hle, hreach⟩ : ∃ extra, n / 1460 = 25 * century + cycle + extra
      ∧ extra ≤ 1 ∧ (extra = 1 → 1460 ≤ 24 * century + cycle + 365 * year + day) :=
    ⟨n / 1460 - (25 * century + cycle), by omega, by omega, by omega⟩
  omega

/-- The day of the year, from the days before the year. -/
theorem IsInEra.ofYear (h : IsInEra n century cycle year day) {y : Nat}
    (hy : y = 100 * century + 4 * cycle + year) :
    n = 365 * y + y / 4 - y / 100 + day ∧ y < 400 := by
  obtain ⟨hn, hcentury, hcycle, hyear, hday, -⟩ := h
  have hfour : y / 4 = 25 * century + cycle := by omega
  have hhundred : y / 100 = century := by omega
  omega

/-! ### Days and dates -/

/-- A date by the era, the year of the era, the month and the day of the month, where years begin
with March and all are counted from zero. -/
def fromMarch (era : Int) (year month day : Nat) : Date where
  year := if month < 10 then era * 400 + year else era * 400 + year + 1
  month := if month < 10 then month + 3 else month - 9
  day := day + 1

/-- The date of a day in terms of its era. -/
theorem ofDays_eq (days : Int) :
    ∃ (era : Int) (n century cycle year day : Nat), days = era * 146097 + n - 719468
      ∧ IsInEra n century cycle year day
      ∧ ofDays days = fromMarch era (100 * century + 4 * cycle + year) ((5 * day + 2) / 153)
          (day - (153 * ((5 * day + 2) / 153) + 2) / 5) := by
  have hlt : ((days + 719468) % 146097).toNat < 146097 := by omega
  obtain ⟨century, cycle, year, day, h⟩ := exists_cycles hlt
  refine ⟨(days + 719468) / 146097, _, century, cycle, year, day, by omega, h, ?_⟩
  obtain ⟨hn, -⟩ := h.ofYear rfl
  have hday : ((days + 719468) % 146097).toNat
      - (365 * (100 * century + 4 * cycle + year) + (100 * century + 4 * cycle + year) / 4
        - (100 * century + 4 * cycle + year) / 100) = day := by omega
  rw [ofDays, fromMarch]
  simp only [h.yearOfEra, hday]

theorem month_fromMarch (era : Int) (year day : Nat) {month : Nat} (h : month < 12) :
    1 ≤ (fromMarch era year month day).month ∧ (fromMarch era year month day).month ≤ 12 := by
  unfold fromMarch
  dsimp only
  split <;> omega

/-- The number of days to a date, with years from March on. -/
theorem toDays_fromMarch (era : Int) {year month : Nat} (day : Nat) (hyear : year < 400)
    (hmonth : month < 12) :
    (fromMarch era year month day).toDays
      = era * 146097 + (365 * year + year / 4 - year / 100 + (153 * month + 2) / 5 + day : Nat)
        - 719468 := by
  have hshift : (fromMarch era year month day).toDays
      = 365 * (era * 400 + year) + (era * 400 + year) / 4 - (era * 400 + year) / 100
        + (era * 400 + year) / 400 + ((153 * month + 2) / 5 : Nat) + (day + 1 : Nat) - 719469 := by
    unfold toDays fromMarch
    by_cases h : month < 10
    · have hback : (month + 3 + 9) % 12 = month := by omega
      simp only [if_pos h]
      rw [if_neg (by omega), hback]
    · -- January and February belong to the year before
      have hback : (month - 9 + 9) % 12 = month := by omega
      simp only [if_neg h]
      rw [if_pos (by omega), hback, Int.add_sub_cancel]
  rw [hshift]
  omega

/-- The date of a day tells the day. -/
theorem toDays_ofDays (days : Int) : (ofDays days).toDays = days := by
  obtain ⟨era, n, century, cycle, year, day, hdays, h, hdate⟩ := ofDays_eq days
  obtain ⟨hn, hyear⟩ := h.ofYear rfl
  have hday := h.day_le
  rw [hdate, toDays_fromMarch era _ hyear (by omega), hdays]
  omega

/-- The days of a month, with years from March on: the month before the last has 31 days, and the
last one ends with the year. -/
theorem lt_daysInMonth {day month : Nat} (era : Int) (year : Nat) (hday : day ≤ 365)
    (hmonth : month = (5 * day + 2) / 153)
    (hleap : day = 365 → Calendar.isLeapYear (era * 400 + year + 1) = true) :
    day - (153 * month + 2) / 5
      < Calendar.daysInMonth (fromMarch era year month 0).year
          (fromMarch era year month 0).month := by
  by_cases h : month < 11
  · -- all months but the last have a fixed number of days
    have hlengths : ∀ month < 11, ∀ year, Calendar.daysInMonth year
          (if month < 10 then month + 3 else month - 9)
        = (153 * (month + 1) + 2) / 5 - (153 * month + 2) / 5 := by
      intro month h year
      rcases (by omega : month = 0 ∨ month = 1 ∨ month = 2 ∨ month = 3 ∨ month = 4 ∨ month = 5
        ∨ month = 6 ∨ month = 7 ∨ month = 8 ∨ month = 9 ∨ month = 10) with
        rfl | rfl | rfl | rfl | rfl | rfl | rfl | rfl | rfl | rfl | rfl <;> rfl
    rw [fromMarch, hlengths month h]
    omega
  · -- February has a 366th day of the year only if there is one
    obtain rfl : month = 11 := by omega
    show day - 337 < if Calendar.isLeapYear (era * 400 + year + 1) = true then 29 else 28
    split
    · omega
    · next hcommon =>
      have hne : day ≠ 365 := fun heq => hcommon (hleap heq)
      omega

/-- The date of a day exists. -/
theorem isValid_ofDays (days : Int) : (ofDays days).isValid = true := by
  obtain ⟨era, n, century, cycle, year, day, -, h, hdate⟩ := ofDays_eq days
  have hleap : day = 365 → Calendar.isLeapYear
      (era * 400 + (100 * century + 4 * cycle + year : Nat) + 1) = true := by
    intro hday
    obtain ⟨hyear, hcentury⟩ := h.of_leapDay hday
    have hcycle := h.cycle_le
    simp only [Calendar.isLeapYear, Bool.and_eq_true, Bool.or_eq_true, bne_iff_ne, beq_iff_eq]
    omega
  have hlt := lt_daysInMonth era _ h.day_le rfl hleap
  have hday := h.day_le
  rw [hdate, isValid]
  simp only [Bool.and_eq_true, decide_eq_true_eq]
  exact ⟨⟨month_fromMarch era _ _ (by omega), Nat.succ_pos _⟩, hlt⟩

end MarkupFeed.Date
