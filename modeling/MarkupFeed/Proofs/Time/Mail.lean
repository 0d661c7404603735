import MarkupFeed.Proofs.Calendar
import MarkupFeed.Proofs.Text.Number
import MarkupFeed.Time.Mail

/-!
# The dates of mail headers are read back from what is written

Every reader takes what the writer puts there and leaves the rest (`number_append`,
`longNumber_append`, `name_append`), so that the parts of a date come out of its text
one after the other (`parts?_mailDate`). They fit together, since the calendar is consistent
(`time?_parts`). Main statement: `read?_mailDate`.
-/

namespace MarkupFeed.Time

/-! ### Times to the second -/

/-- A time that is a second, possibly a leap second, and no fraction of one. -/
def IsWhole (time : Time) : Prop := time.nanos = 0 ∨ time.nanos = 1000000000

theorem hour_lt (time : Time) : time.hour < 24 := by
  rw [hour, ofDay]
  omega

theorem minute_lt (time : Time) : time.minute < 60 := by
  unfold minute
  omega

theorem IsWhole.second_le {time : Time} (h : time.IsWhole) : time.second ≤ 60 := by
  unfold second
  have hknown := time.isKnown.2.2
  unfold ofDay
  rcases h with h | h <;> rw [h] at hknown ⊢ <;> omega

/-- A second is told from its clock, where the leap second is the one after the last. -/
theorem IsWhole.clock {time : Time} (h : time.IsWhole) :
    time.seconds = time.days * 86400 + time.hour * 3600 + time.minute * 60
        + (if time.second = 60 then 59 else time.second : Nat)
      ∧ time.nanos = if time.second = 60 then 1000000000 else 0 := by
  have hknown := time.isKnown.2.2
  rw [days, hour, minute, second, ofDay]
  rcases h with h | h <;> rw [h] at hknown ⊢
  · rw [if_neg (by omega), if_neg (by omega)]
    omega
  · -- a leap second is kept as the last second of its minute with a second of fractions
    rw [if_pos (by omega), if_pos (by omega)]
    omega

theorem ofUnix?_seconds (time : Time) : ofUnix? time.seconds time.nanos = some time :=
  dif_pos time.isKnown

theorem nanos_of_ofUnix? {seconds : Int} {nanos : Nat} {time : Time}
    (h : ofUnix? seconds nanos = some time) : time.nanos = nanos := by
  rw [ofUnix?] at h
  split at h
  · rw [← Option.some.inj h]
  · exact absurd h (by simp)

namespace Mail

/-! ### Readers -/

section Readers

variable {digits : List Char} {n : Nat}

theorem takeWhile_digits (h : Text.IsNumeral digits n) {rest : List Char}
    (hend : ∀ c ∈ rest.head?, c.isDigit = false) :
    (digits ++ rest).takeWhile Char.isDigit = digits := by
  rw [List.takeWhile_append_of_pos h.isDigit]
  cases rest with
  | nil => exact List.append_nil _
  | cons c rest =>
    rw [List.takeWhile_cons, hend c rfl]
    exact List.append_nil _

/-- A number is taken up to its last digit. -/
theorem number_append (h : Text.IsNumeral digits n) {least most : Nat} {rest : List Char}
    (hleast : least ≤ digits.length) (hmost : digits.length ≤ most)
    (hend : ∀ c ∈ rest.head?, c.isDigit = false) :
    number least most (digits ++ rest) = some (n, rest) := by
  have htake : ((digits ++ rest).take most).takeWhile Char.isDigit = digits := by
    rw [List.take_append, List.take_of_length_le hmost]
    refine takeWhile_digits h ?_
    intro c hc
    rw [Option.mem_def, List.head?_take] at hc
    split at hc
    · exact absurd hc (by simp)
    · exact hend c hc
  rw [number, htake, if_pos hleast, h.value, List.drop_left]

/-- A number of fixed width is taken. -/
theorem field_append {width : Nat} (h : Text.IsField width digits n) {rest : List Char}
    (hend : ∀ c ∈ rest.head?, c.isDigit = false) :
    number width width (digits ++ rest) = some (n, rest) :=
  number_append h.toIsNumeral (Nat.le_of_eq h.length_eq.symm) (Nat.le_of_eq h.length_eq) hend

theorem longNumber_append (h : Text.IsNumeral digits n) {least : Nat} {rest : List Char}
    (hleast : least ≤ digits.length) (hend : ∀ c ∈ rest.head?, c.isDigit = false) :
    longNumber least (digits ++ rest) = some ((n, digits.length), rest) := by
  rw [longNumber, takeWhile_digits h hend, if_pos hleast, h.value]
  have hdrop : (digits ++ rest).dropWhile Char.isDigit = rest := by
    rw [List.dropWhile_append_of_pos h.isDigit]
    exact Text.dropWhile_eq_self hend
  rw [hdrop]

/-- No white space stands in front of digits. -/
theorem skip_digits (h : Text.IsNumeral digits n) (hne : digits ≠ []) (rest : List Char) :
    skip (digits ++ rest) = digits ++ rest := by
  obtain ⟨c, more, rfl⟩ := List.exists_cons_of_ne_nil hne
  refine Text.dropWhile_eq_self ?_
  intro x hx
  obtain rfl : c = x := by simpa using hx
  exact Text.isBlank_of_isDigit (h.isDigit c List.mem_cons_self)

theorem skip_space_digits (h : Text.IsNumeral digits n) (hne : digits ≠ []) (rest : List Char) :
    skip (' ' :: (digits ++ rest)) = digits ++ rest :=
  skip_digits h hne rest

theorem space_digits (h : Text.IsNumeral digits n) (hne : digits ≠ []) (rest : List Char) :
    space (' ' :: (digits ++ rest)) = some (digits ++ rest) := by
  rw [space, if_pos (by decide), skip_digits h hne]

end Readers

/-- Names of three letters that differ whatever their case, and do not begin with white space. -/
def AreNames (names : List String) : Prop :=
  ∀ index < names.length, (names.getD index "").toList.length = 3
    ∧ (names.getD index "").toList.head?.any Text.isBlank = false
    ∧ (names.findIdx? fun name =>
        name.toList.map Char.toLower == (names.getD index "").toList.map Char.toLower) = some index

instance (names : List String) : Decidable (AreNames names) :=
  inferInstanceAs (Decidable (∀ index < names.length, _ ∧ _ ∧ _))

theorem areNames_weekdayNames : AreNames Calendar.weekdayNames := by decide

theorem areNames_monthNames : AreNames Calendar.monthNames := by decide

section Names

variable {names : List String} {index : Nat}

/-- A name is taken as its place in the list. -/
theorem name_append (h : AreNames names) (hindex : index < names.length) (rest : List Char) :
    name names ((names.getD index "").toList ++ rest) = some (index, rest) := by
  obtain ⟨hlength, -, hfind⟩ := h index hindex
  rw [name, List.take_left' hlength, List.drop_left' hlength, hfind]
  rfl

theorem AreNames.not_isBlank (h : AreNames names) (hindex : index < names.length)
    {rest : List Char} {c : Char} (hc : c ∈ ((names.getD index "").toList ++ rest).head?) :
    Text.isBlank c = false := by
  obtain ⟨hlength, hhead, -⟩ := h index hindex
  rw [Text.head?_append_of_ne_nil (List.ne_nil_of_length_eq_add_one hlength)] at hc
  rw [Option.mem_def.mp hc, Option.any_some] at hhead
  exact hhead

theorem skip_name (h : AreNames names) (hindex : index < names.length) (rest : List Char) :
    skip ((names.getD index "").toList ++ rest) = (names.getD index "").toList ++ rest :=
  Text.dropWhile_eq_self fun _ hc => h.not_isBlank hindex hc

theorem space_name (h : AreNames names) (hindex : index < names.length) (rest : List Char) :
    space (' ' :: ((names.getD index "").toList ++ rest))
      = some ((names.getD index "").toList ++ rest) := by
  rw [space, if_pos (by decide), skip_name h hindex]

end Names

/-- The day of the week is taken with the comma behind it. -/
theorem weekday_append {index : Nat} (h : index < 7) (rest : List Char) :
    weekday ((Calendar.weekdayNames.getD index "").toList ++ ',' :: rest)
      = some (some index, rest) := by
  rw [weekday, name_append areNames_weekdayNames h]
  rfl

theorem colon_append (rest : List Char) : char ':' (skip (':' :: rest)) = some rest := rfl

/-- The second is taken with the colon in front of it. -/
theorem second_append {digits : List Char} {n : Nat} (h : Text.IsField 2 digits n)
    {rest : List Char} (hend : ∀ c ∈ rest.head?, c.isDigit = false) :
    second (':' :: (digits ++ rest)) = some (n, rest) := by
  rw [second, colon_append]
  exact field_append h hend

/-- A year of four digits is taken as it stands. -/
theorem year_append {digits : List Char} {n : Nat} (h : Text.IsField 4 digits n)
    {rest : List Char} (hend : ∀ c ∈ rest.head?, c.isDigit = false) :
    year (digits ++ rest) = some (n, rest) := by
  have hleast : 2 ≤ digits.length := by
    rw [h.length_eq]
    decide
  rw [year, longNumber_append h.toIsNumeral hleast hend, h.length_eq]
  rfl

/-! ### Dates -/

theorem date_bounds (time : Time) :
    1 ≤ time.date.month ∧ time.date.month ≤ 12 ∧ 1 ≤ time.date.day ∧ time.date.day ≤ 31 := by
  have hvalid := Date.isValid_ofDays time.days
  simp only [Date.isValid, Bool.and_eq_true, decide_eq_true_eq] at hvalid
  obtain ⟨⟨⟨hfirst, hlast⟩, hday⟩, hlength⟩ := hvalid
  refine ⟨hfirst, hlast, hday, Nat.le_trans hlength ?_⟩
  unfold Calendar.daysInMonth
  split
  · split <;> omega
  · split <;> omega

theorem weekday_lt (days : Int) : Calendar.weekday days < 7 := by
  unfold Calendar.weekday
  omega

/-- The characters of a date, part by part. -/
theorem toList_mailDate (time : Time) :
    time.mailDate.toList = time.weekdayName.toList ++ ',' :: ' ' ::
      (Nat.toDigits 10 time.date.day ++ ' ' :: (time.monthName.toList ++ ' ' ::
        ((Text.padded 4 time.date.year.toNat).toList ++ ' ' ::
          ((Text.padded 2 time.hour).toList ++ ':' :: ((Text.padded 2 time.minute).toList ++ ':' ::
            ((Text.padded 2 time.second).toList ++ ' ' :: ['+', '0', '0', '0', '0'])))))) := by
  have hcomma : ", ".toList = [',', ' '] := rfl
  have hspace : " ".toList = [' '] := rfl
  have hcolon : ":".toList = [':'] := rfl
  have hzone : " +0000".toList = ' ' :: ['+', '0', '0', '0', '0'] := rfl
  simp only [mailDate, secondText, minuteText, String.toList_append, Nat.toString_eq_repr,
    Nat.toList_repr, List.append_assoc, hcomma, hspace, hcolon, hzone, List.cons_append,
    List.nil_append]

/-- The parts of a date are those it was written from. -/
theorem parts?_mailDate {time : Time} (h : time.IsWhole) (hyear : time.hasMailDate = true) :
    parts? time.mailDate.toList = some ⟨some (Calendar.weekday time.days), time.date, time.hour,
      time.minute, time.second, 0⟩ := by
  obtain ⟨hfirst, hlast, hone, hday⟩ := date_bounds time
  rw [hasMailDate, Bool.and_eq_true, decide_eq_true_eq, decide_eq_true_eq] at hyear
  have hmonth : time.date.month - 1 < 12 := by omega
  have two_digits {n : Nat} (hn : n < 100) : (Nat.toDigits 10 n).length ≤ 2 :=
    (Nat.length_toDigits_le_iff (by decide) (by decide)).mpr hn
  have four_digits {n : Nat} (hn : n < 10000) : (Nat.toDigits 10 n).length ≤ 4 :=
    (Nat.length_toDigits_le_iff (by decide) (by decide)).mpr hn
  have day := Text.isNumeral_toDigits time.date.day
  have dayLength : (Nat.toDigits 10 time.date.day).length ≤ 2 := two_digits (by omega)
  have yearField := Text.isField_padded (four_digits (n := time.date.year.toNat) (by omega))
  have hourField := Text.isField_padded (two_digits (Nat.lt_trans time.hour_lt (by decide)))
  have minuteField := Text.isField_padded (two_digits (Nat.lt_trans time.minute_lt (by decide)))
  have secondField := Text.isField_padded (two_digits (Nat.lt_of_le_of_lt h.second_le (by decide)))
  have hzone : zone ['+', '0', '0', '0', '0'] = some (0, []) := rfl
  have hspace : space [' ', '+', '0', '0', '0', '0'] = some ['+', '0', '0', '0', '0'] := rfl
  -- the day of the week
  rw [toList_mailDate, weekdayName, monthName, parts?,
    skip_name areNames_weekdayNames (weekday_lt _), weekday_append (weekday_lt _)]
  simp only [Option.bind_eq_bind, Option.bind_some]
  -- the date
  rw [skip_space_digits day Nat.toDigits_ne_nil,
    number_append day Nat.length_toDigits_pos dayLength (by simp)]
  simp only [Option.bind_some]
  rw [space_name areNames_monthNames hmonth]
  simp only [Option.bind_some]
  rw [name_append areNames_monthNames hmonth]
  simp only [Option.bind_some]
  rw [space_digits yearField.toIsNumeral yearField.ne_nil]
  simp only [Option.bind_some]
  rw [year_append yearField (by simp)]
  simp only [Option.bind_some]
  -- the clock
  rw [space_digits hourField.toIsNumeral hourField.ne_nil]
  simp only [Option.bind_some]
  rw [field_append hourField (by simp)]
  simp only [Option.bind_some]
  rw [colon_append]
  simp only [Option.bind_some]
  rw [skip_digits minuteField.toIsNumeral minuteField.ne_nil, field_append minuteField (by simp)]
  simp only [Option.bind_some]
  rw [second_append secondField (by simp)]
  simp only [Option.bind_some]
  -- the zone
  rw [hspace]
  simp only [Option.bind_some]
  rw [hzone]
  simp only [Option.bind_some]
  rw [if_pos (by rfl), Nat.sub_add_cancel hfirst, Int.toNat_of_nonneg hyear.1]

/-- The parts a time is written in fit together, and stand for the time. -/
theorem time?_parts {time : Time} (h : time.IsWhole) (hyear : time.hasMailDate = true) :
    Parts.time? ⟨some (Calendar.weekday time.days), time.date, time.hour, time.minute, time.second,
      0⟩ = some time := by
  rw [hasMailDate, Bool.and_eq_true, decide_eq_true_eq, decide_eq_true_eq] at hyear
  have hlast : time.date.year ≤ lastYear := Int.le_trans hyear.2 (by decide)
  have hdays : time.date.toDays = time.days := Date.toDays_ofDays time.days
  have hfits : (time.date.isValid && time.date.year ≤ lastYear && time.hour < 24
      && time.minute < 60 && time.second ≤ 60 && (0 : Int).natAbs < 86400
      && (some (Calendar.weekday time.days)).all (· == Calendar.weekday time.days)) = true := by
    simp [time.hour_lt, time.minute_lt, h.second_le, hlast]
    exact Date.isValid_ofDays time.days
  obtain ⟨hseconds, hnanos⟩ := h.clock
  unfold Parts.time?
  dsimp only
  rw [hdays, if_pos hfits, ← hnanos, Int.sub_zero, ← hseconds]
  exact ofUnix?_seconds time

/-- A date of a mail header, as it is written, is read as the time it was written for. -/
theorem read?_mailDate {time : Time} (h : time.IsWhole) (hyear : time.hasMailDate = true) :
    read? time.mailDate = some time := by
  rw [read?, parts?_mailDate h hyear, Option.bind_some, time?_parts h hyear]

/-- What is read from a date is a second. -/
theorem isWhole_of_read? {text : String} {time : Time} (h : read? text = some time) :
    time.IsWhole := by
  rw [read?, Option.bind_eq_some_iff] at h
  obtain ⟨parts, -, htime⟩ := h
  rw [Parts.time?] at htime
  split at htime
  · rw [IsWhole, nanos_of_ofUnix? htime]
    split
    · exact .inr rfl
    · exact .inl rfl
  · exact absurd htime (by simp)

end Mail

/-! ### Written forms as lines -/

theorem isLine_getD {names : List String} (h : ∀ name ∈ names, Text.IsLine name.toList)
    (index : Nat) : Text.IsLine (names.getD index "").toList := by
  rw [List.getD_eq_getElem?_getD]
  cases hname : names[index]? with
  | none => exact Text.isLine_nil
  | some name => exact h name (List.mem_of_getElem? hname)

theorem isLine_weekdayName (time : Time) : Text.IsLine time.weekdayName.toList :=
  isLine_getD (by decide) _

theorem isLine_monthName (time : Time) : Text.IsLine time.monthName.toList :=
  isLine_getD (by decide) _

theorem isLine_toString (n : Nat) : Text.IsLine (toString n).toList := by
  rw [Nat.toString_eq_repr, Nat.toList_repr]
  exact (Text.isNumeral_toDigits n).isLine

theorem isLine_padded (width n : Nat) : Text.IsLine (Text.padded width n).toList :=
  (Text.isNumeral_padded width n).isLine

theorem isLine_secondText (time : Time) : Text.IsLine time.secondText.toList := by
  have hcolon : Text.IsLine ":".toList := by decide
  simp only [secondText, minuteText, Text.isLine_toList_append]
  exact ⟨⟨⟨⟨isLine_padded _ _, hcolon⟩, isLine_padded _ _⟩, hcolon⟩, isLine_padded _ _⟩

theorem isLine_yearText (year : Int) : Text.IsLine (yearText year).toList := by
  unfold yearText
  split
  · exact isLine_padded _ _
  · refine Text.isLine_toList_append.mpr ⟨?_, isLine_padded _ _⟩
    split <;> decide

theorem isLine_delivery (time : Time) : Text.IsLine time.delivery.toList := by
  have hspace : Text.IsLine " ".toList := by decide
  have hday : Text.IsLine (if time.date.day < 10 then " " ++ toString time.date.day
      else toString time.date.day).toList := by
    split
    · exact Text.isLine_toList_append.mpr ⟨hspace, isLine_toString _⟩
    · exact isLine_toString _
  unfold delivery
  simp only [Text.isLine_toList_append]
  exact ⟨⟨⟨⟨⟨⟨⟨⟨isLine_weekdayName time, hspace⟩, isLine_monthName time⟩, hspace⟩, hday⟩, hspace⟩,
    isLine_secondText time⟩, hspace⟩, isLine_yearText _⟩

theorem isLine_mailDate (time : Time) : Text.IsLine time.mailDate.toList := by
  have hspace : Text.IsLine " ".toList := by decide
  have hcomma : Text.IsLine ", ".toList := by decide
  have hzone : Text.IsLine " +0000".toList := by decide
  unfold mailDate
  simp only [Text.isLine_toList_append]
  exact ⟨⟨⟨⟨⟨⟨⟨⟨⟨isLine_weekdayName time, hcomma⟩, isLine_toString _⟩, hspace⟩,
    isLine_monthName time⟩, hspace⟩, isLine_padded _ _⟩, hspace⟩, isLine_secondText time⟩, hzone⟩

/-- A date begins with a letter and ends with a digit. -/
theorem isTrimmed_mailDate (time : Time) : Text.IsTrimmed Text.isBlank time.mailDate.toList := by
  constructor
  · intro c hc
    rw [Mail.toList_mailDate] at hc
    exact Mail.areNames_weekdayNames.not_isBlank (Mail.weekday_lt time.days) hc
  · intro c hc
    rw [mailDate, String.toList_append, Option.mem_def, List.getLast?_append] at hc
    obtain rfl : '0' = c := Option.some.inj hc
    decide

end MarkupFeed.Time
