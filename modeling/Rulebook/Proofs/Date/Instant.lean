import Rulebook.Proofs.Date.Calendar
import Rulebook.Proofs.Date.Scan
import Rulebook.Registry

/-!
# Dates as instants

A timestamp names an instant: its local date and time, less its offset.  The rules for later and
earlier dates compare these instants, so that timestamps of one instant in different zones are
neither later nor earlier than each other.  Of any two dates, whatever notations they are read
from, one is later, or they are equal, and not two of these at once.
-/

namespace Rulebook.Date

open CalendarDate Text

/-! ## Timestamps -/

/-- A fraction of a second, which may be missing, and its whole nanoseconds. -/
inductive IsFraction : Nat → List Char → Prop where
  | none : IsFraction 0 []
  | point {digits : List Char} (some : digits ≠ []) (areDigits : ∀ c ∈ digits, c.isDigit = true) :
      IsFraction (digitsValue digits * 10 ^ 9 / 10 ^ digits.length) ('.' :: digits)

/-- An offset and its minutes: the letter for none, or a sign with hours and minutes of less than
a day.  The minus may be the long one. -/
inductive IsOffset : Int → List Char → Prop where
  | utc {letter : Char} (isLetter : letter = 'Z' ∨ letter = 'z') : IsOffset 0 [letter]
  | ahead {hours minutes : List Char} (areHours : IsDigits 2 hours)
      (areMinutes : IsDigits 2 minutes) (hours_lt : digitsValue hours < 24)
      (minutes_lt : digitsValue minutes < 60) :
      IsOffset (digitsValue hours * 60 + digitsValue minutes : Nat)
        ('+' :: (hours ++ ':' :: minutes))
  | behind {minus : Char} {hours minutes : List Char} (isMinus : minus = '-' ∨ minus = '\u2212')
      (areHours : IsDigits 2 hours) (areMinutes : IsDigits 2 minutes)
      (hours_lt : digitsValue hours < 24) (minutes_lt : digitsValue minutes < 60) :
      IsOffset (-(digitsValue hours * 60 + digitsValue minutes : Nat))
        (minus :: (hours ++ ':' :: minutes))

/-- A timestamp without a leap second, with its local date and time and its offset: fields of fixed
width, of which the calendar and the clock have the day and the time. -/
inductive IsTimestamp : DateTime → Int → List Char → Prop where
  | intro {year month day hour minute second fraction zone : List Char} {mark : Char}
      {nanosecond : Nat} {offset : Int} (isYear : IsDigits 4 year) (isMonth : IsDigits 2 month)
      (isDay : IsDigits 2 day) (isMark : mark = 'T' ∨ mark = 't' ∨ mark = ' ')
      (isHour : IsDigits 2 hour) (isMinute : IsDigits 2 minute) (isSecond : IsDigits 2 second)
      (isFraction : IsFraction nanosecond fraction) (isOffset : IsOffset offset zone)
      (on : DateTime.OnClock ⟨⟨digitsValue year, digitsValue month, digitsValue day⟩,
        digitsValue hour, digitsValue minute, digitsValue second, nanosecond⟩) :
      IsTimestamp ⟨⟨digitsValue year, digitsValue month, digitsValue day⟩,
          digitsValue hour, digitsValue minute, digitsValue second, nanosecond⟩ offset
        (year ++ '-' :: (month ++ '-' :: (day ++ mark :: (hour ++ ':' :: (minute ++ ':' ::
          (second ++ (fraction ++ zone)))))))

/-- The nanoseconds from the start of the year zero to the instant of a local date and time with an
offset in minutes. -/
def instant (d : DateTime) (offset : Int) : Int :=
  ((d.date.daysPast * 1440 + d.hour * 60 + d.minute - offset) * 60 + d.second) * 1000000000 +
    d.nanosecond

/-! ## Reading timestamps -/

section

variable {nanosecond : Nat} {offset : Int} {fraction zone : List Char}

theorem IsFraction.lt (isFraction : IsFraction nanosecond fraction) : nanosecond < 1000000000 := by
  cases isFraction with
  | none => decide
  | @point digits _ areDigits =>
      have less : digitsValue digits < 10 ^ digits.length :=
        IsDigits.digitsValue_lt ⟨rfl, areDigits⟩
      rw [Nat.div_lt_iff_lt_mul (Nat.pow_pos (by decide)), Nat.mul_comm]
      exact Nat.mul_lt_mul_of_pos_left less (by decide)

/-- Nine digits are kept, or filled up with zeros: the nanoseconds of the fraction, rounded down. -/
theorem digitsValue_take_nine {digits : List Char} (areDigits : ∀ c ∈ digits, c.isDigit = true) :
    digitsValue (digits.take 9) * Nat.pow 10 (9 - (digits.take 9).length) =
      digitsValue digits * 10 ^ 9 / 10 ^ digits.length := by
  rcases Nat.le_total digits.length 9 with few | many
  · have width : 10 ^ 9 = 10 ^ (9 - digits.length) * 10 ^ digits.length := by
      rw [← Nat.pow_add, Nat.sub_add_cancel few]
    rw [List.take_of_length_le few, width, ← Nat.mul_assoc,
      Nat.mul_div_cancel _ (Nat.pow_pos (by decide))]
    rfl
  · have taken : (digits.take 9).length = 9 := by
      rw [List.length_take]
      omega
    have dropped : digitsValue (digits.drop 9) < 10 ^ (digits.drop 9).length :=
      IsDigits.digitsValue_lt ⟨rfl, fun c isPart => areDigits c (List.mem_of_mem_drop isPart)⟩
    have parts := digitsValue_append (digits.take 9) (digits.drop 9)
    have width : 10 ^ digits.length = 10 ^ (digits.drop 9).length * 10 ^ 9 := by
      rw [← Nat.pow_add, List.length_drop, Nat.sub_add_cancel many]
    rw [List.take_append_drop] at parts
    rw [taken, parts, width, Nat.mul_div_mul_right _ _ (Nat.pow_pos (by decide)),
      Nat.mul_add_div (Nat.pow_pos (by decide)), Nat.div_eq_of_lt dropped]
    simp

/-- Behind a fraction the offset is left. -/
theorem IsFraction.optionalFraction? (isFraction : IsFraction nanosecond fraction)
    {rest : List Char} (stops : ∀ c ∈ rest.head?, c ≠ '.' ∧ c.isDigit = false) :
    optionalFraction? (fraction ++ rest) = some (nanosecond, rest) := by
  cases isFraction with
  | none =>
      unfold Date.optionalFraction?
      split
      · next point => exact absurd rfl (stops '.' (congrArg List.head? point)).1
      · rfl
  | @point digits some areDigits =>
      have noDigit : ∀ c ∈ rest.head?, c.isDigit = false := fun c first => (stops c first).2
      simp only [List.cons_append, Date.optionalFraction?, fraction?,
        takeWhile_isDigit_append areDigits noDigit, dropWhile_isDigit_append areDigits noDigit,
        List.isEmpty_eq_false_iff.mpr some, digitsValue_take_nine areDigits]
      rfl

namespace IsOffset

theorem stops (isOffset : IsOffset offset zone) :
    ∀ c ∈ zone.head?, c ≠ '.' ∧ c.isDigit = false := by
  cases isOffset with
  | utc isLetter => rcases isLetter with rfl | rfl <;> simp
  | ahead => simp
  | behind isMinus => rcases isMinus with rfl | rfl <;> simp

theorem isBlank_getLast? (isOffset : IsOffset offset zone) (front : List Char) :
    ∀ c ∈ (front ++ zone).getLast?, isBlank c = false := by
  cases isOffset with
  | utc isLetter => rcases isLetter with rfl | rfl <;> simp [isBlank]
  | @ahead hours minutes _ areMinutes =>
      simpa only [List.append_assoc, List.cons_append, List.nil_append] using
        isBlank_getLast?_append areMinutes (front ++ '+' :: (hours ++ [':']))
  | @behind minus hours minutes _ _ areMinutes =>
      simpa only [List.append_assoc, List.cons_append, List.nil_append] using
        isBlank_getLast?_append areMinutes (front ++ minus :: (hours ++ [':']))

theorem lt_day (isOffset : IsOffset offset zone) : -1440 < offset ∧ offset < 1440 := by
  cases isOffset <;> omega

theorem timestampOffset? (isOffset : IsOffset offset zone) :
    timestampOffset? zone = some (offset, []) := by
  have last {minutes : List Char} (areMinutes : IsDigits 2 minutes) :
      number? 2 2 minutes = some (digitsValue minutes, []) := by
    have read := number?_of_isDigits areMinutes (Nat.le_refl 2) []
    rwa [List.append_nil] at read
  cases isOffset with
  | utc isLetter => rcases isLetter with rfl | rfl <;> rfl
  | ahead areHours areMinutes hours_lt minutes_lt =>
      simp [Date.timestampOffset?, offsetSign?, number?_of_isDigits areHours (Nat.le_refl 2),
        mark?_cons_self, last areMinutes, offsetOf?, hours_lt, minutes_lt]
  | behind isMinus areHours areMinutes hours_lt minutes_lt =>
      rcases isMinus with rfl | rfl <;>
        simp [Date.timestampOffset?, offsetSign?, number?_of_isDigits areHours (Nat.le_refl 2),
          mark?_cons_self, last areMinutes, offsetOf?, hours_lt, minutes_lt]

end IsOffset

end

namespace IsTimestamp

variable {d : DateTime} {offset : Int} {s : List Char}

theorem onClock (isTimestamp : IsTimestamp d offset s) : d.OnClock := by
  obtain ⟨-, -, -, -, -, -, -, -, -, on⟩ := isTimestamp
  exact on

theorem lt_day (isTimestamp : IsTimestamp d offset s) : -1440 < offset ∧ offset < 1440 := by
  obtain ⟨-, -, -, -, -, -, -, -, isOffset, -⟩ := isTimestamp
  exact isOffset.lt_day

theorem nanosecond_lt (isTimestamp : IsTimestamp d offset s) : d.nanosecond < 1000000000 := by
  obtain ⟨-, -, -, -, -, -, -, isFraction, -, -⟩ := isTimestamp
  exact isFraction.lt

theorem year_mem (isTimestamp : IsTimestamp d offset s) :
    0 ≤ d.date.year ∧ d.date.year ≤ 9999 := by
  obtain ⟨isYear, -⟩ := isTimestamp
  have fits := isYear.digitsValue_lt
  constructor <;> simp only <;> omega

/-- A timestamp starts with a digit and ends with one or with a letter. -/
theorem unpadded (isTimestamp : IsTimestamp d offset s) : Unpadded s := by
  cases isTimestamp with
  | @intro year month day hour minute second fraction zone mark _ _ isYear _ _ _ _ _ _ _ isOffset =>
      constructor
      · exact isBlank_head?_append isYear _
      · simpa only [List.append_assoc, List.cons_append] using isOffset.isBlank_getLast?
          (year ++ '-' :: (month ++ '-' :: (day ++ mark :: (hour ++ ':' :: (minute ++ ':' ::
            (second ++ fraction))))))

/-- At most a year away from its local time, the instant still is in the years of dates. -/
theorem isValid_minusMinutes (isTimestamp : IsTimestamp d offset s) :
    (d.minusMinutes offset).isValid = true := by
  obtain ⟨late, early⟩ := isTimestamp.year_mem
  obtain ⟨least, greatest⟩ := d.year_minusMinutes offset
  have on := isTimestamp.onClock.minusMinutes offset
  exact on.isValid (by omega) (by omega) isTimestamp.nanosecond_lt

theorem timestamp? (isTimestamp : IsTimestamp d offset s) :
    timestamp? s = some (d.minusMinutes offset) := by
  obtain ⟨late, early⟩ := isTimestamp.year_mem
  have made := DateTime.ofFields?_of_isValid
    (isTimestamp.onClock.isValid (by omega) (by omega) isTimestamp.nanosecond_lt)
  have valid := isTimestamp.isValid_minusMinutes
  obtain ⟨isYear, isMonth, isDay, isMark, isHour, isMinute, isSecond, isFraction, isOffset, -⟩ :=
    isTimestamp
  have timeMark (rest : List Char) : timeMark? (_ :: rest) = some rest :=
    if_pos (by simpa [or_assoc] using isMark)
  exact timestamp?_eq_some_iff.mpr
    ⟨_, _, number?_of_isDigits isYear (Nat.le_refl 4) _, _, mark?_cons_self,
    _, _, number?_of_isDigits isMonth (Nat.le_refl 2) _, _, mark?_cons_self,
    _, _, number?_of_isDigits isDay (Nat.le_refl 2) _, _, timeMark _,
    _, _, number?_of_isDigits isHour (Nat.le_refl 2) _, _, mark?_cons_self,
    _, _, number?_of_isDigits isMinute (Nat.le_refl 2) _, _, mark?_cons_self,
    _, _, number?_of_isDigits isSecond (Nat.le_refl 2) _,
    _, _, isFraction.optionalFraction? isOffset.stops, _, _, isOffset.timestampOffset?,
    _, made, rfl, if_pos valid⟩

/-- A timestamp is read as the time in UTC. -/
theorem read? {text : String} (isTimestamp : IsTimestamp d offset text.toList) :
    read? text = some (d.minusMinutes offset) := by
  have some : text.toList.isEmpty = false := by
    rw [List.isEmpty_eq_false_iff]
    intro empty
    have read := isTimestamp.timestamp?
    rw [empty] at read
    cases read
  rw [← String.ofList_toList (s := text), read?_ofList isTimestamp.unpadded, readChars?, some,
    if_neg Bool.false_ne_true, readings, List.findSome?_cons, isTimestamp.timestamp?]

/-- The instant in seconds and nanoseconds of the time in UTC. -/
theorem instant_eq (isTimestamp : IsTimestamp d offset s) : instant d offset =
    ((d.minusMinutes offset).seconds + 366 * 86400) * 1000000000 + d.nanosecond := by
  obtain ⟨ahead, behind⟩ := isTimestamp.lt_day
  have days := isTimestamp.onClock.date.number_eq_daysPast isTimestamp.year_mem.1
  rw [isTimestamp.onClock.seconds_minusMinutes ahead behind, instant, DateTime.seconds, days]
  omega

end IsTimestamp

/-! ## Earlier and later -/

section

variable {d e : DateTime}

/-- The times in UTC are in the order of the instants. -/
theorem isBefore_iff_instant {offset offset' : Int} {s t : List Char}
    (first : IsTimestamp d offset s) (second : IsTimestamp e offset' t) :
    (d.minusMinutes offset).isBefore (e.minusMinutes offset') = true ↔
      instant d offset < instant e offset' := by
  have part_lt := first.nanosecond_lt
  have part_lt' := second.nanosecond_lt
  rw [DateTime.isBefore_iff_seconds, first.instant_eq, second.instant_eq]
  change _ ∨ _ ∧ d.nanosecond < e.nanosecond ↔ _
  omega

/-- Of two dates that exist one is before the other, or they are equal. -/
theorem isBefore_trichotomy (first : d.OnClock) (second : e.OnClock) :
    e.isBefore d = true ∧ d.isBefore e = false ∧ d ≠ e ∨
      e.isBefore d = false ∧ d.isBefore e = true ∧ d ≠ e ∨
      e.isBefore d = false ∧ d.isBefore e = false ∧ d = e := by
  simp only [← Bool.not_eq_true, first.isBefore_iff second, second.isBefore_iff first]
  rcases lt_trichotomy d.fields e.fields with before | same | after
  · exact .inr (.inl ⟨before.not_gt, before, fun same => before.ne (congrArg _ same)⟩)
  · exact .inr (.inr ⟨same.not_gt, same.not_lt, DateTime.fields_injective same⟩)
  · exact .inl ⟨after, after.not_gt, fun same => after.ne' (congrArg _ same)⟩

end

theorem after_before_of_read? {a b : String} {d e : DateTime} (first : read? a = some d)
    (second : read? b = some e) :
    Dates.after (.string a) b = e.isBefore d ∧ Dates.before (.string a) b = d.isBefore e := by
  simp only [Dates.after, Dates.before, Dates.ofValue?, Value.text?, Option.bind_some, first,
    second, and_self]

/-- There are rules for later and for earlier dates.  Timestamps pass them as their instants are
later or earlier, so that two timestamps of one instant pass neither.  Of any two dates that are
read one passes the one rule as the other passes the other, and either a date is later, or it is
earlier, or both are equal. -/
theorem holds_after_before : ∃ after before,
    Registry.builtIn.values.find? "after" = some after ∧
    Registry.builtIn.values.find? "before" = some before ∧
    ∀ (patterns : PatternSource) (record : Record) (a b : String),
      (∀ d e offset offset', IsTimestamp d offset a.toList → IsTimestamp e offset' b.toList →
        (after.holds patterns record (.string a) [b] = true ↔
          instant e offset' < instant d offset) ∧
        (before.holds patterns record (.string a) [b] = true ↔
          instant d offset < instant e offset') ∧
        (instant d offset = instant e offset' →
          after.holds patterns record (.string a) [b] = false ∧
            before.holds patterns record (.string a) [b] = false)) ∧
      (∀ d e, read? a = some d → read? b = some e →
        after.holds patterns record (.string a) [b] =
            before.holds patterns record (.string b) [a] ∧
          (after.holds patterns record (.string a) [b] = true ∧
              before.holds patterns record (.string a) [b] = false ∧ d ≠ e ∨
            after.holds patterns record (.string a) [b] = false ∧
              before.holds patterns record (.string a) [b] = true ∧ d ≠ e ∨
            after.holds patterns record (.string a) [b] = false ∧
              before.holds patterns record (.string a) [b] = false ∧ d = e)) := by
  refine ⟨Size.withOne Dates.after, Size.withOne Dates.before, rfl, rfl,
    fun patterns record a b => ⟨?_, ?_⟩⟩
  · intro d e offset offset' first second
    obtain ⟨isAfter, isBefore⟩ := after_before_of_read? first.read? second.read?
    rw [Size.holds_withOne, Size.holds_withOne, isAfter, isBefore, ← Bool.not_eq_true,
      ← Bool.not_eq_true, isBefore_iff_instant first second, isBefore_iff_instant second first]
    exact ⟨Iff.rfl, Iff.rfl, fun same => ⟨same.not_gt, same.not_lt⟩⟩
  · intro d e first second
    obtain ⟨isAfter, isBefore⟩ := after_before_of_read? first second
    have swapped := (after_before_of_read? second first).2
    rw [Size.holds_withOne, Size.holds_withOne, Size.holds_withOne, isAfter, isBefore, swapped]
    exact ⟨rfl, isBefore_trichotomy (DateTime.isValid_iff.mp (isValid_of_read? first)).2.1
      (DateTime.isValid_iff.mp (isValid_of_read? second)).2.1⟩

/-- A time early in March in a zone that is an hour ahead, and the same instant in UTC, which is on
the leap day before. -/
theorem holds_after_before_new_month :
    let a := "2016-03-01T00:30:00.5+01:00"
    let b := "2016-02-29t23:30:00.500Z"
    let d : DateTime := ⟨⟨2016, 3, 1⟩, 0, 30, 0, 500000000⟩
    let e : DateTime := ⟨⟨2016, 2, 29⟩, 23, 30, 0, 500000000⟩
    IsTimestamp d 60 a.toList ∧ IsTimestamp e 0 b.toList ∧ instant d 60 = instant e 0 ∧
      read? a = some e ∧ read? b = some e ∧
      ∃ after before, Registry.builtIn.values.find? "after" = some after ∧
        Registry.builtIn.values.find? "before" = some before ∧
        after.holds (fun _ => none) [] (.string a) [b] = false ∧
        before.holds (fun _ => none) [] (.string a) [b] = false ∧
        before.holds (fun _ => none) [] (.string b) [a] = false := by
  have half : IsFraction 500000000 ".5".toList :=
    @IsFraction.point ['5'] (by decide) (by simp)
  have half' : IsFraction 500000000 ".500".toList :=
    @IsFraction.point ['5', '0', '0'] (by decide) (by simp)
  have hour : IsOffset 60 "+01:00".toList :=
    @IsOffset.ahead ['0', '1'] ['0', '0'] (by decide) (by decide) (by decide) (by decide)
  have first : IsTimestamp ⟨⟨2016, 3, 1⟩, 0, 30, 0, 500000000⟩ 60
      "2016-03-01T00:30:00.5+01:00".toList :=
    @IsTimestamp.intro ['2', '0', '1', '6'] ['0', '3'] ['0', '1'] ['0', '0'] ['3', '0'] ['0', '0']
      _ _ 'T' _ _ (by decide) (by decide) (by decide) (by decide) (by decide) (by decide)
      (by decide) half hour (by decide)
  have second : IsTimestamp ⟨⟨2016, 2, 29⟩, 23, 30, 0, 500000000⟩ 0
      "2016-02-29t23:30:00.500Z".toList :=
    @IsTimestamp.intro ['2', '0', '1', '6'] ['0', '2'] ['2', '9'] ['2', '3'] ['3', '0'] ['0', '0']
      _ _ 't' _ _ (by decide) (by decide) (by decide) (by decide) (by decide) (by decide)
      (by decide) half' (.utc (.inl rfl)) (by decide)
  intro a b d e
  have same : instant d 60 = instant e 0 := by
    rw [first.instant_eq, second.instant_eq]
    decide +kernel
  have read : read? a = some e := by decide +kernel
  have read' : read? b = some e := by decide +kernel
  obtain ⟨after, before, isAfter, isBefore, compare⟩ := holds_after_before
  obtain ⟨instants, dates⟩ := compare (fun _ => none) [] a b
  obtain ⟨notAfter, notBefore⟩ := (instants d e 60 0 first second).2.2 same
  exact ⟨first, second, same, read, read', after, before, isAfter, isBefore, notAfter, notBefore,
    (dates e e read read').1 ▸ notAfter⟩

end Rulebook.Date
