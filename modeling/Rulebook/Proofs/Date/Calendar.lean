import Mathlib.Algebra.BigOperators.Intervals
import Mathlib.Data.List.Lex
import Rulebook.Date.Calendar

/-!
# Days and seconds in a row

Days are numbered without gaps: the number of a day counts the days of all months before its own,
and the day after has the next number.  So a day can be found by its number as well as by its
fields, and both put days in the same order.  With the time of day it is the same: to compare
instants by seconds is to compare their fields, the larger units first, and an offset that is
taken off a time moves its seconds by just as much, whatever has to be borrowed from the day, the
month or the year.
-/

namespace Rulebook

theorem isLeapYear_iff {year : Int} :
    isLeapYear year = true ↔ year % 4 = 0 ∧ (year % 100 ≠ 0 ∨ year % 400 = 0) := by
  simp [isLeapYear]

theorem one_le_daysInMonth (year : Int) (month : Nat) : 1 ≤ daysInMonth year month := by
  unfold daysInMonth
  repeat' split
  all_goals decide

theorem daysInMonth_le (year : Int) (month : Nat) : daysInMonth year month ≤ 31 := by
  unfold daysInMonth
  repeat' split
  all_goals decide

namespace CalendarDate

/-- A day that the calendar has, in whatever year. -/
structure OnCalendar (date : CalendarDate) : Prop where
  one_le_month : 1 ≤ date.month
  month_le : date.month ≤ 12
  one_le_day : 1 ≤ date.day
  day_le : date.day ≤ daysInMonth date.year date.month

instance : DecidablePred OnCalendar := fun date =>
  decidable_of_iff (1 ≤ date.month ∧ date.month ≤ 12 ∧ 1 ≤ date.day ∧
      date.day ≤ daysInMonth date.year date.month)
    ⟨fun ⟨one_le_month, month_le, one_le_day, day_le⟩ =>
        ⟨one_le_month, month_le, one_le_day, day_le⟩,
      fun ⟨one_le_month, month_le, one_le_day, day_le⟩ =>
        ⟨one_le_month, month_le, one_le_day, day_le⟩⟩

theorem isValid_iff {date : CalendarDate} : date.isValid = true ↔
    leastYear ≤ date.year ∧ date.year ≤ greatestYear ∧ date.OnCalendar := by
  simp only [isValid, Bool.and_eq_true, decide_eq_true_eq]
  constructor
  · rintro ⟨⟨⟨⟨⟨least, greatest⟩, one_le_month⟩, month_le⟩, one_le_day⟩, day_le⟩
    exact ⟨least, greatest, one_le_month, month_le, one_le_day, day_le⟩
  · rintro ⟨least, greatest, one_le_month, month_le, one_le_day, day_le⟩
    exact ⟨⟨⟨⟨⟨least, greatest⟩, one_le_month⟩, month_le⟩, one_le_day⟩, day_le⟩

/-! ## Numbers of days -/

/-- The number of the first day of a year. -/
def firstNumber (year : Int) : Int :=
  365 * (year - 1) + (year - 1) / 4 - (year - 1) / 100 + (year - 1) / 400

theorem number_eq (date : CalendarDate) : date.number =
    firstNumber date.year + (daysBeforeMonth date.year date.month + (date.day - 1)) := by
  simp only [number, firstNumber]
  omega

theorem daysBeforeMonth_succ (year : Int) {month : Nat} (some : 1 ≤ month) :
    daysBeforeMonth year (month + 1) = daysBeforeMonth year month + daysInMonth year month := by
  cases month with
  | zero => cases some
  | succ month => rfl

theorem daysBeforeMonth_one (year : Int) : daysBeforeMonth year 1 = 0 :=
  rfl

theorem daysBeforeMonth_mono (year : Int) {a b : Nat} (le : a ≤ b) :
    daysBeforeMonth year a ≤ daysBeforeMonth year b := by
  induction b, le using Nat.le_induction with
  | base => exact Nat.le_refl _
  | succ month _ ih =>
      rcases Nat.eq_zero_or_pos month with rfl | some
      · exact ih
      · rw [daysBeforeMonth_succ year some]
        omega

theorem daysBeforeMonth_thirteen (year : Int) :
    daysBeforeMonth year 13 = if isLeapYear year then 366 else 365 := by
  cases leap : isLeapYear year <;> simp [daysBeforeMonth, daysInMonth, leap]

theorem firstNumber_mono {a b : Int} (le : a ≤ b) : firstNumber a ≤ firstNumber b := by
  unfold firstNumber
  omega

/-- The next year starts after all days of a year. -/
theorem firstNumber_succ (year : Int) :
    firstNumber (year + 1) = firstNumber year + daysBeforeMonth year 13 := by
  have leap : isLeapYear year = true ↔ _ := isLeapYear_iff
  rw [daysBeforeMonth_thirteen]
  unfold firstNumber
  split <;> simp_all only [true_iff, false_iff, Bool.false_eq_true] <;> omega

/-- Places in rows one behind the other, where a row has its start and its width: the row decides
before the place in it. -/
theorem place_lt_iff {Row : Type} [LinearOrder Row] {a b : Row} {start width start' width' : Int}
    (before : a < b → start + width ≤ start') (after : b < a → start' + width' ≤ start)
    (same : a = b → start = start') {place place' : Int} (inRow : 0 ≤ place ∧ place < width)
    (inRow' : 0 ≤ place' ∧ place' < width') :
    start + place < start' + place' ↔ a < b ∨ a = b ∧ place < place' := by
  rcases lt_trichotomy a b with less | equal | greater
  · have apart := before less
    simp only [less, true_or, iff_true]
    omega
  · rw [same equal]
    simp [equal]
  · have apart := after greater
    simp only [greater.not_gt, greater.ne', false_and, or_self, iff_false]
    omega

namespace OnCalendar

variable {date a b : CalendarDate}

/-- A day is one of the days of its year. -/
theorem inYear (on : date.OnCalendar) :
    0 ≤ (daysBeforeMonth date.year date.month : Int) + (date.day - 1) ∧
      (daysBeforeMonth date.year date.month : Int) + (date.day - 1) <
        daysBeforeMonth date.year 13 := by
  have month := daysBeforeMonth_succ date.year on.one_le_month
  have year : daysBeforeMonth date.year (date.month + 1) ≤ daysBeforeMonth date.year 13 :=
    daysBeforeMonth_mono date.year (Nat.succ_le_succ on.month_le)
  have someDay := on.one_le_day
  have dayOfDate := on.day_le
  omega

/-- Numbers put days in the order of their fields. -/
theorem number_lt_iff (first : a.OnCalendar) (second : b.OnCalendar) :
    a.number < b.number ↔
      a.year < b.year ∨ a.year = b.year ∧ (a.month < b.month ∨ a.month = b.month ∧
        a.day < b.day) := by
  have years {y z : Int} (less : y < z) : firstNumber y + daysBeforeMonth y 13 ≤ firstNumber z := by
    rw [← firstNumber_succ]
    exact firstNumber_mono less
  have months (year : Int) {m n : Nat} (some : 1 ≤ m) (less : m < n) :
      (daysBeforeMonth year m : Int) + daysInMonth year m ≤ daysBeforeMonth year n := by
    have within := daysBeforeMonth_succ year some
    have later : daysBeforeMonth year (m + 1) ≤ daysBeforeMonth year n :=
      daysBeforeMonth_mono year less
    omega
  -- The rows are the years at first, and then the months of the one year.
  rw [number_eq, number_eq,
    place_lt_iff years years (congrArg firstNumber) first.inYear second.inYear]
  refine or_congr_right (and_congr_right fun sameYear => ?_)
  have dayOfFirst := first.day_le
  have dayOfSecond := second.day_le
  have someFirst := first.one_le_day
  have someSecond := second.one_le_day
  rw [← sameYear] at dayOfSecond ⊢
  rw [place_lt_iff (months a.year first.one_le_month) (months a.year second.one_le_month)
    (fun sameMonth => by rw [sameMonth]) (by omega) (by omega)]
  omega

/-! ## The days before and after -/

theorem next (on : date.OnCalendar) : date.next.OnCalendar := by
  unfold CalendarDate.next
  split
  · next inMonth => exact ⟨on.one_le_month, on.month_le, Nat.le_add_left 1 _, inMonth⟩
  · split
    · next inYear => exact ⟨Nat.le_add_left 1 _, inYear, Nat.le_refl 1, one_le_daysInMonth _ _⟩
    · exact ⟨Nat.le_refl 1, Nat.le_add_left 1 11, Nat.le_refl 1, one_le_daysInMonth _ _⟩

theorem previous (on : date.OnCalendar) : date.previous.OnCalendar := by
  unfold CalendarDate.previous
  split
  · next later =>
      exact ⟨on.one_le_month, on.month_le, Nat.le_sub_one_of_lt later,
        Nat.le_trans (Nat.sub_le _ _) on.day_le⟩
  · split
    · next later =>
        exact ⟨Nat.le_sub_one_of_lt later, Nat.le_trans (Nat.sub_le _ _) on.month_le,
          one_le_daysInMonth _ _, Nat.le_refl _⟩
    · exact ⟨Nat.le_add_left 1 11, Nat.le_refl 12, Nat.le_add_left 1 30, Nat.le_refl 31⟩

theorem number_next (on : date.OnCalendar) : date.next.number = date.number + 1 := by
  have dayOfDate := on.day_le
  have monthOfDate := on.month_le
  unfold CalendarDate.next
  split
  · simp only [number_eq]
    omega
  · next lastDay =>
      have month := daysBeforeMonth_succ date.year on.one_le_month
      split
      · simp only [number_eq, month]
        omega
      · have december : date.month = 12 := by omega
        have year := firstNumber_succ date.year
        rw [december] at month lastDay dayOfDate
        change daysBeforeMonth date.year 13 = _ at month
        simp only [number_eq, december, daysBeforeMonth_one]
        omega

theorem number_previous (on : date.OnCalendar) : date.previous.number = date.number - 1 := by
  have someDay := on.one_le_day
  have someMonth := on.one_le_month
  unfold CalendarDate.previous
  split
  · simp only [number_eq]
    omega
  · split
    · next later =>
        have month := daysBeforeMonth_succ date.year (Nat.le_sub_one_of_lt later)
        rw [Nat.sub_add_cancel someMonth] at month
        simp only [number_eq, month]
        omega
    · have january : date.month = 1 := by omega
      have year := firstNumber_succ (date.year - 1)
      have december : daysBeforeMonth (date.year - 1) 13 =
          daysBeforeMonth (date.year - 1) 12 + 31 := rfl
      rw [Int.sub_add_cancel] at year
      simp only [number_eq, january, daysBeforeMonth_one]
      omega

end OnCalendar

/-! ## Days counted one by one -/

/-- The days from the start of the year zero to a day: those of all months of the years before,
those of the months before in its year, and those before in its month. -/
def daysPast (date : CalendarDate) : Nat :=
  ∑ year ∈ Finset.range date.year.toNat, ∑ month ∈ Finset.Ico 1 13, daysInMonth year month +
    ∑ month ∈ Finset.Ico 1 date.month, daysInMonth date.year month + (date.day - 1)

theorem sum_daysInMonth (year : Int) {month : Nat} (some : 1 ≤ month) :
    ∑ earlier ∈ Finset.Ico 1 month, daysInMonth year earlier = daysBeforeMonth year month := by
  induction month, some using Nat.le_induction with
  | base => rfl
  | succ month some ih => rw [Finset.sum_Ico_succ_top some, ih, daysBeforeMonth_succ year some]

theorem firstNumber_eq_sum (years : Nat) : firstNumber years =
    (∑ year ∈ Finset.range years, ∑ month ∈ Finset.Ico 1 13, daysInMonth year month : Nat) -
      366 := by
  induction years with
  | zero => rfl
  | succ years ih =>
      have lastYear : ∑ month ∈ Finset.Ico 1 13, daysInMonth years month =
          daysBeforeMonth years 13 := sum_daysInMonth years (by decide)
      rw [Int.natCast_add_one, firstNumber_succ, ih, Finset.sum_range_succ, Int.natCast_add,
        lastYear]
      omega

/-- From the year zero on, the number of a day is the count of the days before it, the days of the
year zero left out. -/
theorem OnCalendar.number_eq_daysPast {date : CalendarDate} (on : date.OnCalendar)
    (late : 0 ≤ date.year) : date.number = date.daysPast - 366 := by
  have year := firstNumber_eq_sum date.year.toNat
  have month := sum_daysInMonth date.year on.one_le_month
  have day := on.one_le_day
  rw [Int.toNat_of_nonneg late] at year
  rw [number_eq, year, daysPast, month]
  omega

end CalendarDate

namespace DateTime

open CalendarDate

/-- A day that the calendar has, in whatever year, and a time of it, whatever the part of the
second is. -/
structure OnClock (d : DateTime) : Prop where
  date : d.date.OnCalendar
  hour_lt : d.hour < 24
  minute_lt : d.minute < 60
  second_lt : d.second < 60

instance : DecidablePred OnClock := fun d =>
  decidable_of_iff (d.date.OnCalendar ∧ d.hour < 24 ∧ d.minute < 60 ∧ d.second < 60)
    ⟨fun ⟨date, hour_lt, minute_lt, second_lt⟩ => ⟨date, hour_lt, minute_lt, second_lt⟩,
      fun ⟨date, hour_lt, minute_lt, second_lt⟩ => ⟨date, hour_lt, minute_lt, second_lt⟩⟩

theorem isValid_iff {d : DateTime} : d.isValid = true ↔
    (leastYear ≤ d.date.year ∧ d.date.year ≤ greatestYear) ∧ d.OnClock ∧
      (d.nanosecond < 1000000000 ∨ d.second = 59 ∧ d.nanosecond < 2000000000) := by
  simp only [isValid, Bool.and_eq_true, Bool.or_eq_true, decide_eq_true_eq, beq_iff_eq,
    CalendarDate.isValid_iff]
  constructor
  · rintro ⟨⟨⟨⟨⟨least, greatest, on⟩, hour_lt⟩, minute_lt⟩, second_lt⟩, part⟩
    exact ⟨⟨least, greatest⟩, ⟨on, hour_lt, minute_lt, second_lt⟩, part⟩
  · rintro ⟨⟨least, greatest⟩, ⟨on, hour_lt, minute_lt, second_lt⟩, part⟩
    exact ⟨⟨⟨⟨⟨least, greatest, on⟩, hour_lt⟩, minute_lt⟩, second_lt⟩, part⟩

/-- In the years of up to four digits, and one before and after, what the calendar and the clock
have exists. -/
theorem OnClock.isValid {d : DateTime} (on : d.OnClock) (least : -1000 ≤ d.date.year)
    (greatest : d.date.year ≤ 10000) (whole : d.nanosecond < 1000000000) : d.isValid = true :=
  isValid_iff.mpr ⟨⟨Int.le_trans (by decide) least, Int.le_trans greatest (by decide)⟩, on,
    .inl whole⟩

theorem date_of_ofFields? {date : CalendarDate} {hour minute second nanosecond : Nat}
    {d : DateTime} (made : ofFields? date hour minute second nanosecond = some d) :
    d.date = date := by
  simp only [ofFields?, Option.ite_none_right_eq_some, Option.some.injEq] at made
  rw [← made.2]
  split <;> rfl

/-- The fields of a date and time that exists make it up again. -/
theorem ofFields?_of_isValid {d : DateTime} (valid : d.isValid = true) :
    ofFields? d.date d.hour d.minute d.second d.nanosecond = some d := by
  have noLeap : d.second ≠ 60 := Nat.ne_of_lt (isValid_iff.mp valid).2.1.second_lt
  simp only [ofFields?, noLeap, if_false]
  exact if_pos valid

/-! ## The order of fields -/

/-- The fields of a date and time, the larger units first. -/
def fields (d : DateTime) : List Int :=
  [d.date.year, d.date.month, d.date.day, d.hour, d.minute, d.second, d.nanosecond]

theorem fields_injective : Function.Injective fields := by
  rintro ⟨⟨_, _, _⟩, _, _, _, _⟩ ⟨⟨_, _, _⟩, _, _, _, _⟩ same
  simpa [fields, Int.natCast_inj, and_assoc] using same

theorem isBefore_iff_seconds {a b : DateTime} : a.isBefore b = true ↔
    a.seconds < b.seconds ∨ a.seconds = b.seconds ∧ a.nanosecond < b.nanosecond := by
  simp only [isBefore, Bool.or_eq_true, Bool.and_eq_true, decide_eq_true_eq, beq_iff_eq]

namespace OnClock

variable {a b d : DateTime}

/-- To compare seconds and parts of them is to compare the fields one after the other. -/
theorem isBefore_iff (first : a.OnClock) (second : b.OnClock) :
    a.isBefore b = true ↔ a.fields < b.fields := by
  have days := first.date.number_lt_iff second.date
  have daysBack := second.date.number_lt_iff first.date
  obtain ⟨-, hour_lt, minute_lt, second_lt⟩ := first
  obtain ⟨-, hour_lt', minute_lt', second_lt'⟩ := second
  rw [isBefore_iff_seconds]
  simp only [seconds, fields, List.cons_lt_cons_iff, List.not_lt_nil, and_false, or_false]
  omega

/-! ## Offsets -/

/-- A time moves to a clock that is less than a day behind. -/
theorem minusMinutes (on : d.OnClock) (minutes : Int) : (d.minusMinutes minutes).OnClock := by
  have hour_lt : (((d.hour * 60 + d.minute : Nat) - minutes) % 1440).toNat / 60 < 24 := by omega
  refine ⟨?_, hour_lt, Nat.mod_lt _ (by decide), on.second_lt⟩
  simp only [DateTime.minusMinutes]
  split
  · exact on.date.previous
  · split
    · exact on.date.next
    · exact on.date

theorem seconds_minusMinutes (on : d.OnClock) {minutes : Int} (less : -1440 < minutes)
    (less' : minutes < 1440) : (d.minusMinutes minutes).seconds = d.seconds - 60 * minutes := by
  have hour_lt := on.hour_lt
  have minute_lt := on.minute_lt
  simp only [DateTime.minusMinutes, seconds]
  split
  · rw [on.date.number_previous]
    omega
  · split
    · rw [on.date.number_next]
      omega
    · omega

end OnClock

/-- An offset moves a time to the year before or after at most. -/
theorem year_minusMinutes (d : DateTime) (minutes : Int) :
    d.date.year - 1 ≤ (d.minusMinutes minutes).date.year ∧
      (d.minusMinutes minutes).date.year ≤ d.date.year + 1 := by
  have back : d.date.year - 1 ≤ d.date.previous.year ∧ d.date.previous.year ≤ d.date.year + 1 := by
    unfold previous
    repeat' split
    all_goals constructor <;> simp only <;> omega
  have ahead : d.date.year - 1 ≤ d.date.next.year ∧ d.date.next.year ≤ d.date.year + 1 := by
    unfold next
    repeat' split
    all_goals constructor <;> simp only <;> omega
  simp only [minusMinutes]
  repeat' split
  · exact back
  · exact ahead
  · omega

end DateTime

end Rulebook
