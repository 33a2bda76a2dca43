import Rulebook.Proofs.Date.Calendar
import Rulebook.Proofs.Date.Pass
import Rulebook.Proofs.Date.Scan
import Rulebook.Registry

/-!
# Written dates read back

A date that is written with all its fields, or at midnight with its day alone, is read as the same
date, the part of the second left out.  The year is written in full and as short as it can be,
while the other fields have two digits, and so the texts that the rule for written days accepts are
just the days in this form: a year of four digits where the year has four, and fewer where it has
fewer.
-/

namespace Rulebook.Date

open CalendarDate Piece Text

/-! ## Padded numbers -/

section

variable {n width : Nat} {s : List Char}

theorem digitsValue_zeroFilled (n width : Nat) : digitsValue (zeroFilled n width) = n := by
  rw [zeroFilled, digitsValue_replicate_append, digitsValue_decimalDigits]

theorem length_decimalDigits_le_iff (some : 0 < width) :
    (decimalDigits n).length ≤ width ↔ n < 10 ^ width :=
  Nat.length_toDigits_le_iff (by decide) some

/-- A number that fits is written in exactly the width that is asked for. -/
theorem isDigits_zeroFilled (some : 0 < width) (fits : n < 10 ^ width) :
    IsDigits width (zeroFilled n width) where
  length_eq := by
    have short := (length_decimalDigits_le_iff some).mpr fits
    rw [zeroFilled, List.length_append, List.length_replicate]
    omega
  isDigit := by
    rw [zeroFilled, List.forall_mem_append]
    refine ⟨fun c isZero => ?_, fun c => isDigit_of_mem_decimalDigits⟩
    rw [List.eq_of_mem_replicate isZero]
    rfl

theorem zeroFilled_digitsValue (some : 0 < width) (digits : IsDigits width s) :
    zeroFilled (digitsValue s) width = s :=
  (isDigits_zeroFilled some digits.digitsValue_lt).eq_of_digitsValue_eq digits
    (digitsValue_zeroFilled _ width)

end

/-! ## Years in full -/

section

variable {year : Int}

theorem yearText_of_nonneg (late : 0 ≤ year) : yearText year = decimalDigits year.natAbs :=
  if_neg (Int.not_lt.mpr late)

theorem yearText_of_neg (early : year < 0) : yearText year = '-' :: decimalDigits year.natAbs :=
  if_pos early

/-- A year in full is the text of its number. -/
theorem toList_toString_year (year : Int) : (toString year).toList = yearText year := by
  cases year with
  | ofNat n =>
      have written : toString (Int.ofNat n) = n.repr := rfl
      rw [written, Nat.repr_eq_ofList_toDigits, String.toList_ofList]
      rfl
  | negSucc n =>
      have written : toString (Int.negSucc n) = "-" ++ (n + 1).repr := rfl
      rw [written, yearText_of_neg (Int.negSucc_lt_zero n), Nat.repr_eq_ofList_toDigits,
        String.toList_append, String.toList_ofList, String.toList_ofList]
      rfl

/-- Four characters hold the years from 999 before zero up to 9999. -/
theorem length_yearText_le_iff : (yearText year).length ≤ 4 ↔ -999 ≤ year ∧ year ≤ 9999 := by
  rcases Int.lt_or_le year 0 with early | late
  · have fits : (decimalDigits year.natAbs).length ≤ 3 ↔ _ :=
      length_decimalDigits_le_iff (by decide)
    rw [yearText_of_neg early, List.length_cons]
    omega
  · have fits : (decimalDigits year.natAbs).length ≤ 4 ↔ _ :=
      length_decimalDigits_le_iff (by decide)
    rw [yearText_of_nonneg late]
    omega

theorem yearEnd_eq_yearText {width : Nat} (short : (yearText year).length ≤ width) :
    yearEnd year width = yearText year := by
  simp only [yearEnd]
  rw [Nat.sub_eq_zero_of_le short, List.drop_zero]

/-- A year that is cut loses its sign too. -/
theorem isDigits_yearEnd {width : Nat} (long : width < (yearText year).length) :
    IsDigits width (yearEnd year width) where
  length_eq := by
    simp only [yearEnd, List.length_drop]
    omega
  isDigit := by
    obtain ⟨cut, cutEq⟩ := Nat.exists_eq_add_of_lt long
    have dropped : yearEnd year width = (yearText year).drop (cut + 1) := by
      simp only [yearEnd]
      congr 1
      omega
    rw [dropped]
    intro c isPart
    rcases Int.lt_or_le year 0 with early | late
    · rw [yearText_of_neg early, List.drop_succ_cons] at isPart
      exact isDigit_of_mem_decimalDigits (List.mem_of_mem_drop isPart)
    · rw [yearText_of_nonneg late] at isPart
      exact isDigit_of_mem_decimalDigits (List.mem_of_mem_drop isPart)

theorem isYear_yearText (short : (yearText year).length ≤ 4) : IsYear year (yearText year) := by
  have some : 1 ≤ (decimalDigits year.natAbs).length :=
    List.length_pos_iff.mpr (decimalDigits_ne_nil _)
  have areDigits : ∀ c ∈ decimalDigits year.natAbs, c.isDigit = true :=
    fun _ => isDigit_of_mem_decimalDigits
  have value := digitsValue_decimalDigits year.natAbs
  rcases Int.lt_or_le year 0 with early | late
  · have isYear := IsYear.early some areDigits
    rw [value, show -(year.natAbs : Int) = year by omega] at isYear
    rw [yearText_of_neg early]
    exact isYear
  · rw [yearText_of_nonneg late] at short ⊢
    have isYear := IsYear.late some short areDigits
    rwa [value, show (year.natAbs : Int) = year by omega] at isYear

end

/-! ## The texts of patterns -/

/-- The characters of a day after those of its year. -/
def dayChars (year : List Char) (mark : Char) (date : CalendarDate) : List Char :=
  year ++ mark :: (zeroFilled date.month 2 ++ mark :: zeroFilled date.day 2)

/-- The characters of a time of day. -/
def timeChars (d : DateTime) : List Char :=
  zeroFilled d.hour 2 ++ ':' :: (zeroFilled d.minute 2 ++ ':' :: zeroFilled d.second 2)

/-- Two is not too wide for a number. -/
theorem padded_two (n : Nat) : padded n 2 = some (zeroFilled n 2) :=
  if_pos (by decide)

theorem formatChars_day (d : DateTime) :
    formatChars d "yyyy-MM-dd".toList = some (dayChars (yearEnd d.date.year 4) '-' d.date) ∧
      formatChars d "yyyy/MM/dd".toList = some (dayChars (yearEnd d.date.year 4) '/' d.date) := by
  simp only [formatChars_eq_spread_pass]
  simp [pass, tokens, paddedFields, Token.more, without, spread, Piece.text, padded_two, dayChars]

theorem formatChars_time (d : DateTime) :
    formatChars d "yyyy-MM-dd hh:mm:ss".toList =
        some (dayChars (yearEnd d.date.year 4) '-' d.date ++ ' ' :: timeChars d) ∧
      formatChars d "yyyy-MM-ddThh:mm:ss".toList =
        some (dayChars (yearEnd d.date.year 4) '-' d.date ++ 'T' :: timeChars d) ∧
      formatChars d "yyyy/MM/dd hh:mm:ss".toList =
        some (dayChars (yearEnd d.date.year 4) '/' d.date ++ ' ' :: timeChars d) := by
  simp only [formatChars_eq_spread_pass]
  simp [pass, tokens, paddedFields, Token.more, without, spread, Piece.text, padded_two, dayChars,
    timeChars]

section

variable {d : DateTime} {date : CalendarDate} {mark : Char} {year : List Char}

theorem isDigits_month (on : date.OnCalendar) : IsDigits 2 (zeroFilled date.month 2) :=
  isDigits_zeroFilled (by decide) (Nat.lt_of_le_of_lt on.month_le (by decide))

theorem isDigits_day (on : date.OnCalendar) : IsDigits 2 (zeroFilled date.day 2) := by
  have most := Nat.le_trans on.day_le (daysInMonth_le date.year date.month)
  exact isDigits_zeroFilled (by decide) (Nat.lt_of_le_of_lt most (by decide))

/-- What is written for a day of the calendar is its month and day behind a year. -/
theorem isDay_dayChars (on : date.OnCalendar) {y : Int} (isYear : IsYear y year) :
    IsDay mark ⟨y, date.month, date.day⟩ (dayChars year mark date) := by
  have isDay : IsDay mark _ (dayChars year mark date) :=
    IsDay.intro isYear (isDigits_month on) (isDigits_day on)
  rwa [digitsValue_zeroFilled, digitsValue_zeroFilled] at isDay

theorem length_dayChars (on : date.OnCalendar) :
    (dayChars year mark date).length = year.length + 6 := by
  simp only [dayChars, List.length_append, List.length_cons, (isDigits_month on).length_eq,
    (isDigits_day on).length_eq]

/-- What is written for a time is that time, and it has eight characters. -/
theorem isTime_timeChars (on : d.OnClock) :
    IsTime d.hour d.minute d.second (timeChars d) ∧ (timeChars d).length = 8 := by
  have isHour : IsDigits 2 (zeroFilled d.hour 2) :=
    isDigits_zeroFilled (by decide) (Nat.lt_trans on.hour_lt (by decide))
  have isMinute : IsDigits 2 (zeroFilled d.minute 2) :=
    isDigits_zeroFilled (by decide) (Nat.lt_trans on.minute_lt (by decide))
  have isSecond : IsDigits 2 (zeroFilled d.second 2) :=
    isDigits_zeroFilled (by decide) (Nat.lt_trans on.second_lt (by decide))
  have isTime := IsTime.intro isHour isMinute isSecond
  rw [digitsValue_zeroFilled, digitsValue_zeroFilled, digitsValue_zeroFilled] at isTime
  refine ⟨isTime, ?_⟩
  simp only [timeChars, List.length_append, List.length_cons, isHour.length_eq, isMinute.length_eq,
    isSecond.length_eq]

end

/-! ## Written dates are read back -/

section

variable {d : DateTime} {mark : Char}

/-- A year of up to four characters is written in full. -/
theorem isDay_written (on : d.OnClock) (short : (yearText d.date.year).length ≤ 4) (mark : Char) :
    IsDay mark d.date (dayChars (yearEnd d.date.year 4) mark d.date) ∧
      (dayChars (yearEnd d.date.year 4) mark d.date).length ≤ 10 := by
  rw [yearEnd_eq_yearText short, length_dayChars on.date]
  exact ⟨isDay_dayChars on.date (isYear_yearText short), by omega⟩

theorem ofFields?_whole (on : d.OnClock) (short : (yearText d.date.year).length ≤ 4) :
    DateTime.ofFields? d.date d.hour d.minute d.second 0 = some { d with nanosecond := 0 } := by
  obtain ⟨least, greatest⟩ := length_yearText_le_iff.mp short
  have onToo : ({ d with nanosecond := 0 } : DateTime).OnClock :=
    ⟨on.date, on.hour_lt, on.minute_lt, on.second_lt⟩
  have part : ({ d with nanosecond := 0 } : DateTime).nanosecond < 1000000000 := by simp
  have valid := onToo.isValid (Int.le_trans (by decide) least)
    (Int.le_trans greatest (by decide)) part
  have read := DateTime.ofFields?_of_isValid valid
  exact read

theorem read?_time (on : d.OnClock) (short : (yearText d.date.year).length ≤ 4) {separator : Char}
    (joins : separator = ' ' ∧ IsDayMark mark ∨ separator = 'T' ∧ mark = '-') :
    read? (String.ofList (dayChars (yearEnd d.date.year 4) mark d.date ++
      separator :: timeChars d)) = some { d with nanosecond := 0 } := by
  obtain ⟨isDay, dayLength⟩ := isDay_written on short mark
  obtain ⟨isTime, timeLength⟩ := isTime_timeChars on
  have isMark : IsDayMark mark := joins.elim And.right fun letter => .inl letter.2
  rw [read?_ofList (isDay.unpadded_append isMark (isTime.isBlank_getLast? separator)),
    isDay.readChars?_time isTime joins _ (ofFields?_whole on short)]
  rw [List.length_append, List.length_cons, timeLength]
  omega

theorem read?_day (on : d.OnClock) (short : (yearText d.date.year).length ≤ 4)
    (midnight : d.hour = 0 ∧ d.minute = 0 ∧ d.second = 0) (isMark : IsDayMark mark) :
    read? (String.ofList (dayChars (yearEnd d.date.year 4) mark d.date)) =
      some { d with nanosecond := 0 } := by
  obtain ⟨isDay, dayLength⟩ := isDay_written on short mark
  have whole := ofFields?_whole on short
  simp only [midnight.1, midnight.2.1, midnight.2.2] at whole ⊢
  rw [read?_ofList (isDay.unpadded isMark), isDay.readChars?_alone isMark (by omega), whole]

end

/-- A date and time of a year of up to four digits is read back from its text, the part of the
second left out, and a midnight is read back from its day alone. -/
theorem read?_format {d : DateTime} (on : d.OnClock) (late : 0 ≤ d.date.year)
    (early : d.date.year ≤ 9999) :
    (∀ pattern ∈ ["yyyy-MM-dd hh:mm:ss", "yyyy-MM-ddThh:mm:ss", "yyyy/MM/dd hh:mm:ss"],
        (format d pattern).bind read? = some { d with nanosecond := 0 }) ∧
      (d.hour = 0 ∧ d.minute = 0 ∧ d.second = 0 →
        ∀ pattern ∈ ["yyyy-MM-dd", "yyyy/MM/dd"],
          (format d pattern).bind read? = some { d with nanosecond := 0 }) := by
  have short : (yearText d.date.year).length ≤ 4 := length_yearText_le_iff.mpr ⟨by omega, early⟩
  obtain ⟨dashed, slashed⟩ := formatChars_day d
  obtain ⟨dashedBlank, dashedLetter, slashedBlank⟩ := formatChars_time d
  constructor
  · simp only [List.forall_mem_cons, format]
    simp only [dashedBlank, dashedLetter, slashedBlank, Option.map_some, Option.bind_some]
    exact ⟨read?_time on short (.inl ⟨rfl, .inl rfl⟩), read?_time on short (.inr ⟨rfl, rfl⟩),
      read?_time on short (.inl ⟨rfl, .inr rfl⟩), List.forall_mem_nil _⟩
  · intro midnight
    simp only [List.forall_mem_cons, format]
    simp only [dashed, slashed, Option.map_some, Option.bind_some]
    exact ⟨read?_day on short midnight (.inl rfl), read?_day on short midnight (.inr rfl),
      List.forall_mem_nil _⟩

/-- The midnight of a leap day in a year of one digit, some nanoseconds late. -/
theorem read?_format_leap_day :
    let d : DateTime := ⟨⟨4, 2, 29⟩, 0, 0, 0, 5⟩
    let midnight : DateTime := ⟨⟨4, 2, 29⟩, 0, 0, 0, 0⟩
    d.OnClock ∧ 0 ≤ d.date.year ∧ d.date.year ≤ 9999 ∧ d.hour = 0 ∧ d.minute = 0 ∧ d.second = 0 ∧
      format d "yyyy/MM/dd" = some "4/02/29" ∧
      (format d "yyyy/MM/dd").bind read? = some midnight ∧
      (format d "yyyy-MM-ddThh:mm:ss").bind read? = some midnight := by
  intro d midnight
  have on : d.OnClock := by decide
  have late : 0 ≤ d.date.year := by decide
  have early : d.date.year ≤ 9999 := by decide
  obtain ⟨times, days⟩ := read?_format on late early
  exact ⟨on, late, early, rfl, rfl, rfl, by decide +kernel, days ⟨rfl, rfl, rfl⟩ _ (by decide),
    times _ (by decide)⟩

/-! ## The rule for written days -/

/-- The text of a day of the calendar: a year in full that has up to four characters, and month
and day in two digits each. -/
inductive IsWrittenDay : List Char → Prop where
  | intro {year : Int} {month day : List Char} (least : -999 ≤ year) (greatest : year ≤ 9999)
      (isMonth : IsDigits 2 month) (isDay : IsDigits 2 day)
      (on : OnCalendar ⟨year, digitsValue month, digitsValue day⟩) :
      IsWrittenDay ((toString year).toList ++ '-' :: (month ++ '-' :: day))

theorem format_day (d : DateTime) :
    format d "yyyy-MM-dd" =
      some (String.ofList (dayChars (yearEnd d.date.year 4) '-' d.date)) := by
  rw [format, (formatChars_day d).1, Option.map_some]

/-- What a written day is read as is written as that day. -/
theorem IsWrittenDay.read? {text : String} (written : IsWrittenDay text.toList) :
    ∃ d, Date.read? text = some d ∧ format d "yyyy-MM-dd" = some text := by
  generalize chars : text.toList = s at written
  obtain ⟨least, greatest, isMonth, isDay, on⟩ := written
  rename_i year month day
  have short : (yearText year).length ≤ 4 := length_yearText_le_iff.mpr ⟨least, greatest⟩
  let d : DateTime := ⟨⟨year, digitsValue month, digitsValue day⟩, 0, 0, 0, 0⟩
  have onClock : d.OnClock := ⟨on, Nat.zero_lt_succ 23, Nat.zero_lt_succ 59, Nat.zero_lt_succ 59⟩
  have same : dayChars (yearEnd d.date.year 4) '-' d.date = text.toList := by
    rw [chars, toList_toString_year, yearEnd_eq_yearText short, dayChars,
      zeroFilled_digitsValue (by decide) isMonth, zeroFilled_digitsValue (by decide) isDay]
  have read := read?_day onClock short ⟨rfl, rfl, rfl⟩ (.inl rfl)
  have formatted := format_day d
  rw [same, String.ofList_toList] at read formatted
  exact ⟨d, read, formatted⟩

/-- A date that is written as the text it was read from was read from a written day: if its year
were cut, the text would have been read as another year. -/
theorem isWrittenDay_of_format {text : String} {d : DateTime} (read : Date.read? text = some d)
    (same : format d "yyyy-MM-dd" = some text) : IsWrittenDay text.toList := by
  have on := (DateTime.isValid_iff.mp (isValid_of_read? read)).2.1.date
  have chars : text.toList = dayChars (yearEnd d.date.year 4) '-' d.date := by
    obtain rfl := Option.some.inj (same.symm.trans (format_day d))
    exact String.toList_ofList
  by_cases short : (yearText d.date.year).length ≤ 4
  · have years := length_yearText_le_iff.mp short
    rw [chars, yearEnd_eq_yearText short, ← toList_toString_year]
    refine .intro years.1 years.2 (isDigits_month on) (isDigits_day on) ?_
    rwa [digitsValue_zeroFilled, digitsValue_zeroFilled]
  · exfalso
    -- The last four digits of the year were read as a year of their own.
    have isYear := isDigits_yearEnd (Nat.not_le.mp short)
    have isDay : IsDay '-' _ (dayChars (yearEnd d.date.year 4) '-' d.date) :=
      isDay_dayChars on
        (.late (by rw [isYear.length_eq]; decide) isYear.length_eq.le isYear.isDigit)
    rw [← String.ofList_toList (s := text), chars, read?_ofList (isDay.unpadded (.inl rfl)),
      isDay.readChars?_alone (.inl rfl) (by rw [length_dayChars on, isYear.length_eq]; decide)]
      at read
    have cut : d.date.year = digitsValue (yearEnd d.date.year 4) :=
      congrArg CalendarDate.year (DateTime.date_of_ofFields? read)
    have small := isYear.digitsValue_lt
    exact short (length_yearText_le_iff.mpr (by omega))

/-- There is a rule for formats of dates, and with the pattern for days it accepts just the strings
that are written days. -/
theorem holds_date_format_iff : ∃ rule, Registry.builtIn.values.find? "date_format" = some rule ∧
    ∀ (patterns : PatternSource) (record : Record) (value : Value),
      rule.holds patterns record value ["yyyy-MM-dd"] = true ↔
        ∃ text, value = .string text ∧ IsWrittenDay text.toList := by
  refine ⟨Size.withOne Dates.hasFormat, rfl, fun patterns record value => ?_⟩
  rw [Size.holds_withOne]
  cases value with
  | string text =>
      simp only [Dates.hasFormat, Value.text?, Option.any_eq_true, beq_iff_eq, Value.string.injEq,
        exists_eq_left']
      constructor
      · rintro ⟨d, read, same⟩
        exact isWrittenDay_of_format read same
      · exact IsWrittenDay.read?
  | _ => simp [Dates.hasFormat, Value.text?]

/-- Days with four digits for the year, whatever the year is. -/
def IsFourDigitDay (s : List Char) : Prop :=
  ∃ year month day, IsDigits 4 year ∧ IsDigits 2 month ∧ IsDigits 2 day ∧
    s = year ++ '-' :: (month ++ '-' :: day) ∧
    OnCalendar ⟨digitsValue year, digitsValue month, digitsValue day⟩

/-- A day of a year before 1000 is not accepted with zeros in front, but with fewer characters. -/
theorem not_holds_date_format_early_year :
    ∃ rule, Registry.builtIn.values.find? "date_format" = some rule ∧
      IsFourDigitDay "0044-03-15".toList ∧
      rule.holds (fun _ => none) [] (.string "0044-03-15") ["yyyy-MM-dd"] = false ∧
      "44-03-15".length ≠ 10 ∧
      rule.holds (fun _ => none) [] (.string "44-03-15") ["yyyy-MM-dd"] = true := by
  have fourDigits : IsFourDigitDay "0044-03-15".toList :=
    ⟨['0', '0', '4', '4'], ['0', '3'], ['1', '5'], by decide, by decide, by decide, rfl, by decide⟩
  refine ⟨Size.withOne Dates.hasFormat, rfl, fourDigits, ?_⟩
  rw [Size.holds_withOne, Size.holds_withOne]
  decide +kernel

end Rulebook.Date
