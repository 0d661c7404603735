import MarkupFeed.Proofs.Calendar
import MarkupFeed.Proofs.Text.Number
import MarkupFeed.Time

/-!
# Months as texts, and months as numbers

The written form of a month tells its year and its month (`monthText_eq_iff`). Counted from the
beginning of the year zero, months never go back from one day to a later one
(`Date.monthNumber_ofDays_le`). So a time between two times of one month is of that month:
`monthText_eq_of_between`.
-/

namespace MarkupFeed

/-! ### Months as numbers -/

namespace Date

/-- The number of the month, counted from the beginning of the year zero. -/
def monthNumber (date : Date) : Int := 12 * date.year + date.month

/-- Year and month are told from the number of the month. -/
theorem monthNumber_eq_iff {a b : Date} (ha : a.isValid = true) (hb : b.isValid = true) :
    a.monthNumber = b.monthNumber ↔ a.year = b.year ∧ a.month = b.month := by
  simp only [isValid, Bool.and_eq_true, decide_eq_true_eq] at ha hb
  simp only [monthNumber]
  omega

theorem monthNumber_fromMarch (era : Int) (year month day : Nat) :
    (fromMarch era year month day).monthNumber = 12 * (era * 400 + year) + month + 3 := by
  unfold monthNumber fromMarch
  by_cases h : month < 10
  · simp only [if_pos h]
    omega
  · -- January and February belong to the next year
    simp only [if_neg h]
    omega

/-- A later day of an era does not belong to an earlier year of it. -/
theorem IsInEra.yearOfEra_le {n n' century cycle year day century' cycle' year' day' : Nat}
    (h : IsInEra n century cycle year day) (h' : IsInEra n' century' cycle' year' day')
    (hle : n ≤ n') :
    100 * century + 4 * cycle + year ≤ 100 * century' + 4 * cycle' + year' := by
  obtain ⟨hn, hcentury, hcycle, hyear, -, -⟩ := h
  obtain ⟨hn', hcentury', hcycle', hyear', hday', hleap'⟩ := h'
  omega

/-- A later day does not belong to an earlier month. -/
theorem monthNumber_ofDays_le {a b : Int} (h : a ≤ b) :
    (ofDays a).monthNumber ≤ (ofDays b).monthNumber := by
  obtain ⟨era, n, century, cycle, year, day, hdays, hera, hdate⟩ := ofDays_eq a
  obtain ⟨era', n', century', cycle', year', day', hdays', hera', hdate'⟩ := ofDays_eq b
  have hyears : n ≤ n' → 100 * century + 4 * cycle + year ≤ 100 * century' + 4 * cycle' + year' :=
    hera.yearOfEra_le hera'
  obtain ⟨hn, hlt⟩ := hera.ofYear rfl
  obtain ⟨hn', hlt'⟩ := hera'.ofYear rfl
  have hday := hera.day_le
  have hday' := hera'.day_le
  rw [hdate, hdate', monthNumber_fromMarch, monthNumber_fromMarch]
  generalize 100 * century + 4 * cycle + year = y at *
  generalize 100 * century' + 4 * cycle' + year' = y' at *
  rcases (by omega : era < era' ∨ era = era' ∧ n ≤ n') with hera | ⟨rfl, hle⟩
  · omega
  · -- within one year of an era, the day decides
    have hle := hyears hle
    rcases Nat.lt_or_eq_of_le hle with hlt | rfl
    · omega
    · omega

end Date

/-! ### Months as texts -/

namespace Text

theorem padded_inj {width n m : Nat} (h : padded width n = padded width m) : n = m := by
  rw [← (isNumeral_padded width n).value, h, (isNumeral_padded width m).value]

/-- Digits begin where they are written to begin. -/
theorem append_digits_inj {sign sign' digits digits' : List Char}
    (hsign : ∀ c ∈ sign, c.isDigit = false) (hsign' : ∀ c ∈ sign', c.isDigit = false)
    (hdigits : ∀ c ∈ digits, c.isDigit = true) (hdigits' : ∀ c ∈ digits', c.isDigit = true)
    (h : sign ++ digits = sign' ++ digits') : sign = sign' ∧ digits = digits' := by
  have hfilter {sign digits : List Char} (hsign : ∀ c ∈ sign, c.isDigit = false)
      (hdigits : ∀ c ∈ digits, c.isDigit = true) :
      (sign ++ digits).filter (!·.isDigit) = sign := by
    rw [List.filter_append, List.filter_eq_self.mpr (by simpa using hsign),
      List.filter_eq_nil_iff.mpr (by simpa using hdigits), List.append_nil]
  have hsigns : sign = sign' := by
    rw [← hfilter hsign hdigits, h, hfilter hsign' hdigits']
  exact ⟨hsigns, List.append_cancel_left (hsigns ▸ h)⟩

end Text

namespace Time

/-- The sign of a year, which the years with four digits do not have. -/
def yearSign (year : Int) : List Char :=
  if year < 0 then ['-'] else if 9999 < year then ['+'] else []

theorem toList_yearText (year : Int) :
    (yearText year).toList = yearSign year ++ (Text.padded 4 year.natAbs).toList := by
  unfold yearText yearSign
  rcases (by omega : year < 0 ∨ 9999 < year ∨ 0 ≤ year ∧ year ≤ 9999) with h | h | h
  · rw [if_neg (by omega), if_pos h, if_pos h, String.toList_append]
    rfl
  · rw [if_neg (by omega), if_neg (by omega), if_neg (by omega), if_pos h, String.toList_append]
    rfl
  · rw [if_pos h, if_neg (by omega), if_neg (by omega)]
    congr 3
    omega

theorem yearSign_eq_minus_iff {year : Int} : yearSign year = ['-'] ↔ year < 0 := by
  unfold yearSign
  split
  · next h => exact ⟨fun _ => h, fun _ => rfl⟩
  · next h =>
    refine ⟨fun hsign => ?_, fun hneg => absurd hneg h⟩
    split at hsign
    · exact absurd hsign (by decide)
    · exact absurd hsign (by decide)

theorem yearText_inj {a b : Int} (h : yearText a = yearText b) : a = b := by
  have hsign (year : Int) : ∀ c ∈ yearSign year, c.isDigit = false := by
    unfold yearSign
    split
    · exact List.forall_mem_singleton.mpr (by decide)
    split
    · exact List.forall_mem_singleton.mpr (by decide)
    · exact List.forall_mem_nil _
  have hdigits (n : Nat) := (Text.isNumeral_padded 4 n).isDigit
  have htexts := congrArg String.toList h
  rw [toList_yearText, toList_yearText] at htexts
  obtain ⟨hsigns, hnumbers⟩ :=
    Text.append_digits_inj (hsign a) (hsign b) (hdigits _) (hdigits _) htexts
  have habs : a.natAbs = b.natAbs := Text.padded_inj (String.toList_inj.mp hnumbers)
  have hnegative : a < 0 ↔ b < 0 := by
    rw [← yearSign_eq_minus_iff, hsigns, yearSign_eq_minus_iff]
  omega

/-- Year and month are told from the written form of a month. -/
theorem monthText_eq_iff {a b : Time} :
    a.monthText = b.monthText ↔ a.date.monthNumber = b.date.monthNumber := by
  have hvalid (time : Time) : time.date.isValid = true := Date.isValid_ofDays time.days
  rw [Date.monthNumber_eq_iff (hvalid a) (hvalid b)]
  constructor
  · intro h
    have hlength (time : Time) : (Text.padded 2 time.date.month).toList.length = 2 := by
      have hdate := hvalid time
      simp only [Date.isValid, Bool.and_eq_true, decide_eq_true_eq] at hdate
      exact (Text.isField_padded ((Nat.length_toDigits_le_iff (by decide) (by decide)).mpr
        (by omega))).length_eq
    have htexts := congrArg String.toList h
    simp only [monthText, String.toList_append] at htexts
    -- the month has two digits, so the year is what stands in front of it
    obtain ⟨hfronts, hmonths⟩ :=
      List.append_inj' htexts ((hlength a).trans (hlength b).symm)
    have hyears := List.append_cancel_right hfronts
    exact ⟨yearText_inj (String.toList_inj.mp hyears),
      Text.padded_inj (String.toList_inj.mp hmonths)⟩
  · rintro ⟨hyear, hmonth⟩
    rw [monthText, monthText, hyear, hmonth]

/-- A later time does not belong to an earlier month. -/
theorem monthNumber_le {a b : Time} (h : a.compare b ≠ .gt) :
    a.date.monthNumber ≤ b.date.monthNumber := by
  have hseconds : a.seconds ≤ b.seconds := by
    refine Int.not_lt.mp fun hlt => h ?_
    rw [compare, Int.compare_eq_gt.mpr hlt]
    rfl
  refine Date.monthNumber_ofDays_le ?_
  unfold days
  omega

/-- What lies between two times of one month is of that month. -/
theorem monthText_eq_of_between {a b c : Time} (hab : a.compare b ≠ .gt) (hbc : b.compare c ≠ .gt)
    (hac : a.monthText = c.monthText) : b.monthText = c.monthText := by
  rw [monthText_eq_iff] at hac ⊢
  have hle := monthNumber_le hab
  have hle' := monthNumber_le hbc
  omega

end Time

end MarkupFeed
