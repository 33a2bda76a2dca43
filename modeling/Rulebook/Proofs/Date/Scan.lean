import Rulebook.Date.Read
import Rulebook.Proofs.Number.Digits
import Rulebook.Proofs.Text.Trim

/-!
# Dates in their notations

How a reader of dates goes on behind what it has read.  A number takes all the digits that it may
take, a mark takes itself, and the layouts read a written day or time and leave what stands behind
it.  A timestamp has at least twenty characters, and the date of a message has a blank behind the
digits it starts with, so neither notation takes a text that a layout is for.
-/

namespace Rulebook.Date

open Text

/-! ## Numbers and marks -/

section

variable {least most : Nat} {digits rest s : List Char} {c : Char}

theorem skipBlanks_eq_self (first : ∀ c ∈ s.head?, isBlank c = false) : skipBlanks s = s :=
  dropWhile_isBlank_eq_self first

theorem mark?_cons_self : mark? c (c :: rest) = some rest :=
  if_pos rfl

theorem mark?_cons_of_ne {d : Char} (differs : d ≠ c) : mark? c (d :: rest) = none :=
  if_neg differs

/-- A number ends where it may not be longer, or at the first character that is no digit. -/
theorem number?_append (areDigits : ∀ c ∈ digits, c.isDigit = true) (enough : least ≤ digits.length)
    (few : digits.length ≤ most)
    (stops : digits.length < most → ∀ c ∈ rest.head?, c.isDigit = false) :
    number? least most (digits ++ rest) = some (digitsValue digits, rest) := by
  have taken : ((digits ++ rest).take most).takeWhile Char.isDigit = digits := by
    rw [List.take_append, List.take_of_length_le few]
    apply takeWhile_isDigit_append areDigits
    intro c first
    rw [List.head?_take] at first
    split at first
    · cases first
    · next room => exact stops (by omega) c first
  simp only [number?, taken, Nat.not_lt.mpr enough, if_false, List.drop_left]

theorem number?_of_isDigits (digits : IsDigits most s) (enough : least ≤ most) (rest : List Char) :
    number? least most (s ++ rest) = some (digitsValue s, rest) := by
  obtain ⟨rfl, areDigits⟩ := digits
  exact number?_append areDigits enough (Nat.le_refl _) (fun less => absurd less (Nat.lt_irrefl _))

theorem number?_eq_none (first : ∀ c ∈ s.head?, c.isDigit = false) (some : 0 < least) :
    number? least most s = none := by
  have nothing : (s.take most).takeWhile Char.isDigit = [] := by
    cases most with
    | zero => rfl
    | succ most =>
        cases s with
        | nil => rfl
        | cons c s => simp [first c rfl]
  simp only [number?, nothing, List.length_nil, some, if_true]

theorem isBlank_head?_append {width : Nat} (digits : IsDigits (width + 1) s) (rest : List Char) :
    ∀ c ∈ (s ++ rest).head?, isBlank c = false := by
  intro c first
  rw [List.head?_append_of_ne_nil _ (List.ne_nil_of_length_eq_add_one digits.length_eq)] at first
  exact isBlank_of_isDigit (digits.isDigit c (List.mem_of_mem_head? first))

/-- A field takes two digits, whatever stands behind them. -/
theorem field?_of_isDigits (digits : IsDigits 2 s) (rest : List Char) :
    field? (s ++ rest) = some (digitsValue s, rest) := by
  rw [field?, skipBlanks_eq_self (isBlank_head?_append digits rest),
    number?_of_isDigits digits (by decide)]

end

/-! ## Written days and times -/

/-- The text of a year of up to four digits, or of a year before zero. -/
inductive IsYear : Int → List Char → Prop where
  | late {digits : List Char} (some : 1 ≤ digits.length) (few : digits.length ≤ 4)
      (areDigits : ∀ c ∈ digits, c.isDigit = true) : IsYear (digitsValue digits) digits
  | early {digits : List Char} (some : 1 ≤ digits.length)
      (areDigits : ∀ c ∈ digits, c.isDigit = true) : IsYear (-digitsValue digits) ('-' :: digits)

/-- The text of a day with a mark between its fields, of which the month and the day have two
digits.  The calendar need not have the day. -/
inductive IsDay (mark : Char) : CalendarDate → List Char → Prop where
  | intro {y : Int} {year month day : List Char} (isYear : IsYear y year)
      (isMonth : IsDigits 2 month) (isDay : IsDigits 2 day) :
      IsDay mark ⟨y, digitsValue month, digitsValue day⟩
        (year ++ mark :: (month ++ mark :: day))

/-- The text of an hour, a minute and a second of two digits each.  They may be too large. -/
inductive IsTime : Nat → Nat → Nat → List Char → Prop where
  | intro {hour minute second : List Char} (isHour : IsDigits 2 hour)
      (isMinute : IsDigits 2 minute) (isSecond : IsDigits 2 second) :
      IsTime (digitsValue hour) (digitsValue minute) (digitsValue second)
        (hour ++ ':' :: (minute ++ ':' :: second))

section

variable {mark other : Char} {y : Int} {date : CalendarDate} {hour minute second : Nat}
  {s t rest : List Char}

theorem IsYear.year? (isYear : IsYear y s) (stops : ∀ c ∈ rest.head?, c.isDigit = false) :
    year? (s ++ rest) = some (y, rest) := by
  cases isYear with
  | late some few areDigits =>
      obtain ⟨d, digits, rfl⟩ := List.exists_cons_of_length_pos some
      have isDigit := areDigits d List.mem_cons_self
      have noBlank : skipBlanks (d :: digits ++ rest) = d :: digits ++ rest :=
        skipBlanks_eq_self (by simpa using isBlank_of_isDigit isDigit)
      have read := number?_append areDigits some few fun _ => stops
      unfold Date.year?
      rw [noBlank]
      split
      · next plus => cases plus; contradiction
      · next minus => cases minus; contradiction
      · rw [read]
        rfl
  | @early digits some areDigits =>
      have noBlank : skipBlanks ('-' :: digits ++ rest) = '-' :: (digits ++ rest) := rfl
      have room : digits.length ≤ (digits ++ rest).length := by simp
      rw [Date.year?, noBlank]
      simp only [longNumber?, number?_append areDigits some room fun _ => stops, Option.map_some]

theorem readParts?_append (front back : Layout) (r : Reading) (s : List Char) :
    Layout.readParts? (front ++ back) r s =
      (Layout.readParts? front r s).bind fun p => Layout.readParts? back p.1 p.2 := by
  induction front generalizing r s with
  | nil => rfl
  | cons part front ih =>
      simp only [List.cons_append, Layout.readParts?]
      cases part.read? r s with
      | none => rfl
      | some p => exact ih p.1 p.2

/-- The date of the fields that have been read, if nothing is left. -/
def finish? : Reading × List Char → Option DateTime
  | (r, []) => DateTime.ofFields? r.date r.hour r.minute r.second r.nanosecond
  | (_, _ :: _) => none

theorem read?_eq_bind (layout : Layout) (s : List Char) :
    layout.read? s = (layout.readParts? ⟨⟨0, 0, 0⟩, 0, 0, 0, 0⟩ s).bind finish? := by
  unfold Layout.read?
  cases layout.readParts? ⟨⟨0, 0, 0⟩, 0, 0, 0, 0⟩ s with
  | none => rfl
  | some p =>
      obtain ⟨r, left⟩ := p
      cases left <;> rfl

/-- A layout for days reads a day with its mark. -/
theorem IsDay.readParts? (isDay : IsDay mark date s) (noDigit : mark.isDigit = false)
    (r : Reading) (rest : List Char) :
    Layout.readParts? (Layout.dateWith mark) r (s ++ rest) =
      some ({ r with date := date }, rest) := by
  obtain ⟨isYear, isMonth, isDay⟩ := isDay
  have stops (s : List Char) : ∀ c ∈ (mark :: s).head?, c.isDigit = false := by
    simpa using noDigit
  simp only [Layout.dateWith, Layout.readParts?, Part.read?, List.append_assoc, List.cons_append,
    isYear.year? (stops _), mark?_cons_self, field?_of_isDigits isMonth, field?_of_isDigits isDay,
    Option.map_some]

/-- No other layout does. -/
theorem IsDay.readParts?_other (isDay : IsDay mark date s) (noDigit : mark.isDigit = false)
    (differs : mark ≠ other) (r : Reading) (rest : List Char) :
    Layout.readParts? (Layout.dateWith other) r (s ++ rest) = none := by
  obtain ⟨isYear, isMonth, isDay⟩ := isDay
  have stops (s : List Char) : ∀ c ∈ (mark :: s).head?, c.isDigit = false := by
    simpa using noDigit
  simp only [Layout.dateWith, Layout.readParts?, Part.read?, List.append_assoc, List.cons_append,
    isYear.year? (stops _), mark?_cons_of_ne differs, Option.map_some, Option.map_none]

theorem IsTime.readParts? (isTime : IsTime hour minute second t) (r : Reading) :
    Layout.readParts? Layout.fullClock r t =
      some (⟨r.date, hour, minute, second, 0⟩, []) := by
  obtain ⟨isHour, isMinute, isSecond⟩ := isTime
  have last := field?_of_isDigits isSecond []
  rw [List.append_nil] at last
  simp only [Layout.fullClock, Layout.clock, List.cons_append, List.nil_append, Layout.readParts?,
    Part.read?, mark?_cons_self, field?_of_isDigits isHour, field?_of_isDigits isMinute, last,
    optionalFraction?, Option.map_some]

end

/-! ## What has been read -/

section

variable {least most n : Nat} {c : Char} {s rest : List Char}

theorem exists_digits_of_number? (read : number? least most s = some (n, rest)) :
    ∃ digits, (∀ c ∈ digits, c.isDigit = true) ∧ least ≤ digits.length ∧ s = digits ++ rest := by
  simp only [number?, Option.ite_none_left_eq_some, Nat.not_lt, Option.some.injEq,
    Prod.mk.injEq] at read
  obtain ⟨enough, -, rfl⟩ := read
  have leading : (s.take most).takeWhile Char.isDigit <+: s :=
    (List.takeWhile_prefix _).trans (List.take_prefix _ _)
  exact ⟨_, fun c isTaken => List.mem_takeWhile_imp isTaken, enough,
    (List.prefix_iff_eq_append.mp leading).symm⟩

theorem eq_cons_of_mark? (read : mark? c s = some rest) : s = c :: rest := by
  cases s with
  | nil => cases read
  | cons d s =>
      rw [mark?, Option.ite_none_right_eq_some, Option.some.injEq] at read
      rw [read.1, read.2]

theorem exists_mark_of_timeMark? (read : timeMark? s = some rest) :
    ∃ mark, (mark = 'T' ∨ mark = 't' ∨ mark = ' ') ∧ s = mark :: rest := by
  cases s with
  | nil => cases read
  | cons c s =>
      simp only [timeMark?, Bool.or_eq_true, decide_eq_true_eq, or_assoc,
        Option.ite_none_right_eq_some, Option.some.injEq] at read
      exact ⟨c, read.1, by rw [read.2]⟩

theorem exists_fraction_of_optionalFraction? (read : optionalFraction? s = some (n, rest)) :
    ∃ fraction, (∀ c ∈ fraction, c = '.' ∨ c.isDigit = true) ∧ s = fraction ++ rest := by
  unfold optionalFraction? at read
  split at read
  · next digits =>
      simp only [fraction?, Option.ite_none_left_eq_some, Option.some.injEq, Prod.mk.injEq] at read
      obtain ⟨-, -, rfl⟩ := read
      refine ⟨'.' :: digits.takeWhile Char.isDigit, ?_, ?_⟩
      · rw [List.forall_mem_cons]
        exact ⟨.inl rfl, fun c isTaken => .inr (List.mem_takeWhile_imp isTaken)⟩
      · rw [List.cons_append, List.takeWhile_append_dropWhile]
  · cases read
    exact ⟨[], List.forall_mem_nil _, rfl⟩

end

/-! ## Timestamps are long -/

section

variable {least most n : Nat} {c : Char} {s rest : List Char}

theorem length_number? (read : number? least most s = some (n, rest)) :
    rest.length + least ≤ s.length := by
  obtain ⟨digits, -, enough, rfl⟩ := exists_digits_of_number? read
  rw [List.length_append]
  omega

theorem length_mark? (read : mark? c s = some rest) : rest.length + 1 = s.length := by
  rw [eq_cons_of_mark? read, List.length_cons]

theorem length_timeMark? (read : timeMark? s = some rest) : rest.length + 1 = s.length := by
  obtain ⟨mark, -, rfl⟩ := exists_mark_of_timeMark? read
  rw [List.length_cons]

theorem length_optionalFraction? (read : optionalFraction? s = some (n, rest)) :
    rest.length ≤ s.length := by
  obtain ⟨fraction, -, rfl⟩ := exists_fraction_of_optionalFraction? read
  rw [List.length_append]
  exact Nat.le_add_left _ _

theorem timestampOffset?_nil : timestampOffset? [] = none :=
  rfl

/-- A timestamp is read part by part. -/
theorem timestamp?_eq_some_iff {d : DateTime} : timestamp? s = some d ↔
    ∃ year s₁, number? 4 4 s = some (year, s₁) ∧ ∃ s₂, mark? '-' s₁ = some s₂ ∧
    ∃ month s₃, number? 2 2 s₂ = some (month, s₃) ∧ ∃ s₄, mark? '-' s₃ = some s₄ ∧
    ∃ day s₅, number? 2 2 s₄ = some (day, s₅) ∧ ∃ s₆, timeMark? s₅ = some s₆ ∧
    ∃ hour s₇, number? 2 2 s₆ = some (hour, s₇) ∧ ∃ s₈, mark? ':' s₇ = some s₈ ∧
    ∃ minute s₉, number? 2 2 s₈ = some (minute, s₉) ∧ ∃ s₁₀, mark? ':' s₉ = some s₁₀ ∧
    ∃ second s₁₁, number? 2 2 s₁₀ = some (second, s₁₁) ∧
    ∃ nanosecond s₁₂, optionalFraction? s₁₁ = some (nanosecond, s₁₂) ∧
    ∃ offset s₁₃, timestampOffset? s₁₂ = some (offset, s₁₃) ∧
    ∃ localTime, DateTime.ofFields? ⟨year, month, day⟩ hour minute second nanosecond =
        some localTime ∧
      s₁₃.isEmpty = true ∧ localTime.toUtc? offset = some d := by
  -- Each bind is taken apart before what follows it is looked at.
  simp only [timestamp?, ↓Option.bind_eq_bind, ↓Option.bind_eq_some_iff, Prod.exists,
    Option.ite_none_right_eq_some]

/-- Nineteen characters for the date and time, and one at least for the offset. -/
theorem length_timestamp? {d : DateTime} (read : timestamp? s = some d) : 20 ≤ s.length := by
  obtain ⟨_, s₁, year, s₂, yearMark, _, s₃, month, s₄, monthMark, _, s₅, day, s₆, dayMark,
    _, s₇, hour, s₈, hourMark, _, s₉, minute, s₁₀, minuteMark, _, s₁₁, second,
    _, s₁₂, fraction, _, s₁₃, offset, _⟩ := timestamp?_eq_some_iff.mp read
  have some : 1 ≤ s₁₂.length := by
    cases s₁₂ with
    | nil => rw [timestampOffset?_nil] at offset; cases offset
    | cons c s => exact Nat.le_add_left 1 _
  replace year := length_number? year
  replace yearMark := length_mark? yearMark
  replace month := length_number? month
  replace monthMark := length_mark? monthMark
  replace day := length_number? day
  replace dayMark := length_timeMark? dayMark
  replace hour := length_number? hour
  replace hourMark := length_mark? hourMark
  replace minute := length_number? minute
  replace minuteMark := length_mark? minuteMark
  replace second := length_number? second
  replace fraction := length_optionalFraction? fraction
  omega

end

/-! ## Messages start with a word, or with a number and a blank -/

section

variable {digits rest : List Char} {mark : Char}

theorem name?_eq_none {names : List String} {c : Char} (foreign : ∀ name ∈ names,
    name.toList.head? ≠ some c.toLower) : name? names (c :: rest) = none := by
  have absent : names.findIdx? (· == String.ofList (((c :: rest).take 3).map Char.toLower)) =
      none := by
    rw [List.findIdx?_eq_none_iff]
    intro name isName
    rw [beq_eq_false_iff_ne]
    rintro rfl
    exact foreign _ isName (by simp)
  simp only [name?, absent, Option.map_none]

theorem skipBlanks?_eq_none {s : List Char} (first : ∀ c ∈ s.head?, isBlank c = false) :
    skipBlanks? s = none := by
  cases s with
  | nil => rfl
  | cons c s => simp [skipBlanks?, first c rfl]

/-- The marks between the fields of days. -/
def IsDayMark (mark : Char) : Prop :=
  mark = '-' ∨ mark = '/'

variable (areDigits : ∀ c ∈ digits, c.isDigit = true) (isMark : IsDayMark mark)

include areDigits isMark

theorem head?_digits_mark : ∀ c ∈ (digits ++ mark :: rest).head?,
    isBlank c = false ∧ c.toLower = c ∧ (c.isDigit = true ∨ IsDayMark c) := by
  intro c first
  cases digits with
  | nil =>
      cases first
      refine ⟨?_, ?_, .inr isMark⟩ <;> rcases isMark with rfl | rfl <;> decide
  | cons d digits =>
      cases first
      have isDigit := areDigits c List.mem_cons_self
      exact ⟨isBlank_of_isDigit isDigit, toLower_of_isDigit isDigit, .inl isDigit⟩

theorem weekday?_digits_mark :
    weekday? (digits ++ mark :: rest) = some (none, digits ++ mark :: rest) := by
  have first : ∀ c ∈ (digits ++ mark :: rest).head?, _ := head?_digits_mark areDigits isMark
  obtain ⟨c, s, same⟩ := List.exists_cons_of_ne_nil
    (List.append_ne_nil_of_right_ne_nil digits (List.cons_ne_nil mark rest))
  rw [same] at first ⊢
  obtain ⟨-, lower, isFirst⟩ := first c rfl
  have letters : ∀ name ∈ weekdayNames, ∀ c ∈ name.toList.head?,
      ¬(c.isDigit = true ∨ IsDayMark c) := by
    simp [weekdayNames, IsDayMark]
  have foreign : ∀ name ∈ weekdayNames, name.toList.head? ≠ some c.toLower := by
    rw [lower]
    exact fun name isName same => letters name isName c same isFirst
  rw [weekday?, name?_eq_none foreign]

/-- The number of a day ends within the digits or right behind them. -/
theorem number?_digits_mark : number? 1 2 (digits ++ mark :: rest) = none ∨
    ∃ n, number? 1 2 (digits ++ mark :: rest) = some (n, digits.drop 2 ++ mark :: rest) := by
  have noDigit : ∀ c ∈ (mark :: rest).head?, c.isDigit = false := by
    rintro c ⟨⟩
    rcases isMark with rfl | rfl <;> rfl
  rcases Nat.eq_zero_or_pos digits.length with none | some
  · rw [List.eq_nil_of_length_eq_zero none]
    exact .inl (number?_eq_none noDigit (by decide))
  · have areTaken : ∀ c ∈ digits.take 2, c.isDigit = true :=
      fun c isTaken => areDigits c (List.mem_of_mem_take isTaken)
    have enough : 1 ≤ (digits.take 2).length := by
      rw [List.length_take]
      omega
    have stops : (digits.take 2).length < 2 →
        ∀ c ∈ (digits.drop 2 ++ mark :: rest).head?, c.isDigit = false := by
      intro short
      rw [List.length_take] at short
      rw [List.drop_eq_nil_of_le (by omega)]
      exact noDigit
    have read := number?_append areTaken enough (List.length_take_le 2 _) stops
    rw [← List.append_assoc, List.take_append_drop] at read
    exact .inr ⟨_, read⟩

/-- A text that starts with digits and a mark is no date of a message. -/
theorem messageDate?_eq_none : messageDate? (digits ++ mark :: rest) = none := by
  have noBlank : skipBlanks (digits ++ mark :: rest) = digits ++ mark :: rest :=
    skipBlanks_eq_self fun c first => (head?_digits_mark areDigits isMark c first).1
  have noSpace : skipBlanks? (digits.drop 2 ++ mark :: rest) = none := by
    have areLeft : ∀ c ∈ digits.drop 2, c.isDigit = true :=
      fun c isLeft => areDigits c (List.mem_of_mem_drop isLeft)
    exact skipBlanks?_eq_none fun c first => (head?_digits_mark areLeft isMark c first).1
  rw [Option.eq_none_iff_forall_ne_some]
  intro d read
  simp only [messageDate?, ↓Option.bind_eq_bind, ↓Option.bind_eq_some_iff, Prod.exists] at read
  obtain ⟨_, _, weekday, _, _, day, _, space, -⟩ := read
  rw [noBlank, weekday?_digits_mark areDigits isMark] at weekday
  cases weekday
  rw [noBlank] at day
  rcases number?_digits_mark areDigits isMark with none | ⟨n, some⟩
  · rw [none] at day
    cases day
  · rw [some] at day
    cases day
    rw [noSpace] at space
    cases space

end

/-! ## Texts of layouts -/

/-- A text without blanks at its ends is read as it is. -/
theorem read?_ofList {s : List Char} (unpadded : Unpadded s) :
    read? (String.ofList s) = readChars? s := by
  rw [read?, String.toList_ofList, trimChars_eq_self_iff.mpr unpadded]

theorem isBlank_getLast?_append {width : Nat} {s : List Char} (digits : IsDigits (width + 1) s)
    (front : List Char) : ∀ c ∈ (front ++ s).getLast?, isBlank c = false := by
  intro c last
  rw [List.getLast?_append_of_ne_nil _ (List.ne_nil_of_length_eq_add_one digits.length_eq)] at last
  exact isBlank_of_isDigit (digits.isDigit c (List.mem_of_getLast? last))

section

variable {mark other : Char} {date : CalendarDate} {hour minute second : Nat}
  {s t rest : List Char}

theorem IsTime.isBlank_getLast? (isTime : IsTime hour minute second t) (c : Char) :
    ∀ d ∈ (c :: t).getLast?, isBlank d = false := by
  obtain ⟨-, -, isSecond⟩ := isTime
  simpa only [List.cons_append, List.append_assoc, List.nil_append] using
    isBlank_getLast?_append isSecond (c :: (_ ++ ':' :: (_ ++ [':'])))

theorem IsTime.isBlank_head? (isTime : IsTime hour minute second t) :
    ∀ c ∈ t.head?, isBlank c = false := by
  obtain ⟨isHour, -, -⟩ := isTime
  exact isBlank_head?_append isHour _

namespace IsDay

/-- A day starts with digits, of which there may be none, and one of the marks. -/
theorem exists_digits_mark (isDay : IsDay mark date s) (isMark : IsDayMark mark) :
    ∃ digits mark rest, (∀ c ∈ digits, c.isDigit = true) ∧ IsDayMark mark ∧
      s = digits ++ mark :: rest := by
  obtain ⟨isYear, -, -⟩ := isDay
  cases isYear with
  | late some few areDigits => exact ⟨_, _, _, areDigits, isMark, rfl⟩
  | early some areDigits => exact ⟨[], '-', _, List.forall_mem_nil _, .inl rfl, rfl⟩

/-- A day has no blank at either end, so that what follows it decides. -/
theorem unpadded_append (isDay : IsDay mark date s) (isMark : IsDayMark mark)
    (lastOfRest : ∀ c ∈ rest.getLast?, isBlank c = false) : Unpadded (s ++ rest) := by
  constructor
  · obtain ⟨digits, mark, back, areDigits, isMark, rfl⟩ := isDay.exists_digits_mark isMark
    rw [List.append_assoc, List.cons_append]
    exact fun c first => (head?_digits_mark areDigits isMark c first).1
  · have lastOfDay : ∀ c ∈ s.getLast?, isBlank c = false := by
      obtain ⟨-, -, isDay⟩ := isDay
      simpa only [List.cons_append, List.append_assoc, List.nil_append] using
        isBlank_getLast?_append isDay (_ ++ mark :: (_ ++ [mark]))
    intro c last
    rw [List.getLast?_append, Option.mem_def, Option.or_eq_some_iff] at last
    rcases last with last | ⟨-, last⟩
    · exact lastOfRest c last
    · exact lastOfDay c last

theorem unpadded (isDay : IsDay mark date s) (isMark : IsDayMark mark) : Unpadded s := by
  have alone : Unpadded (s ++ []) := isDay.unpadded_append isMark nofun
  rwa [List.append_nil] at alone

theorem isDigit_mark (isMark : IsDayMark mark) : mark.isDigit = false := by
  rcases isMark with rfl | rfl <;> rfl

/-- Behind a day with its mark a layout goes on with its other parts. -/
theorem read?_append (isDay : IsDay mark date s) (isMark : IsDayMark mark) (tail : Layout)
    (rest : List Char) : Layout.read? (Layout.dateWith mark ++ tail) (s ++ rest) =
      (Layout.readParts? tail ⟨date, 0, 0, 0, 0⟩ rest).bind finish? := by
  rw [read?_eq_bind, readParts?_append, isDay.readParts? (isDigit_mark isMark), Option.bind_some]

theorem read?_other (isDay : IsDay mark date s) (isMark : IsDayMark mark) (differs : mark ≠ other)
    (tail : Layout) (rest : List Char) :
    Layout.read? (Layout.dateWith other ++ tail) (s ++ rest) = none := by
  rw [read?_eq_bind, readParts?_append, isDay.readParts?_other (isDigit_mark isMark) differs,
    Option.bind_none, Option.bind_none]

/-- Short texts that start with a day are left to the layouts. -/
theorem readChars?_append (isDay : IsDay mark date s) (isMark : IsDayMark mark)
    (short : (s ++ rest).length < 20) : readChars? (s ++ rest) =
      (Layout.dateTimes ++ Layout.dates).findSome? fun layout => layout.read? (s ++ rest) := by
  have noTimestamp : timestamp? (s ++ rest) = none := by
    rw [Option.eq_none_iff_forall_ne_some]
    exact fun d read => absurd (length_timestamp? read) (Nat.not_le.mpr short)
  obtain ⟨digits, mark, back, areDigits, isMark, rfl⟩ := isDay.exists_digits_mark isMark
  rw [List.append_assoc, List.cons_append] at noTimestamp ⊢
  have some : (digits ++ mark :: (back ++ rest)).isEmpty = false := by simp
  rw [readChars?, some, if_neg Bool.false_ne_true, readings, List.findSome?_cons, noTimestamp,
    List.findSome?_cons, messageDate?_eq_none areDigits isMark, List.findSome?_map]
  rfl

theorem layouts_eq : Layout.dateTimes ++ Layout.dates = [
    Layout.dateWith '-' ++ .mark 'T' :: Layout.fullClock,
    Layout.dateWith '-' ++ .gap :: Layout.fullClock,
    Layout.dateWith '-' ++ .mark 'T' :: Layout.clock,
    Layout.dateWith '-' ++ .gap :: Layout.clock,
    Layout.dateWith '/' ++ .gap :: Layout.fullClock,
    Layout.dateWith '/' ++ .gap :: Layout.clock,
    Layout.dateWith '-' ++ [],
    Layout.dateWith '/' ++ []] :=
  rfl

/-- A day alone is its midnight: all layouts with a time miss the hour. -/
theorem readChars?_alone (isDay : IsDay mark date s) (isMark : IsDayMark mark)
    (short : s.length < 20) : readChars? s = DateTime.ofFields? date 0 0 0 0 := by
  have noMark (tail : Layout) (r : Reading) :
      Layout.readParts? (.mark 'T' :: tail) r [] = none := rfl
  have noTime (r : Reading) : Layout.readParts? (.gap :: Layout.fullClock) r [] = none := rfl
  have noHour (r : Reading) : Layout.readParts? (.gap :: Layout.clock) r [] = none := rfl
  have nothing (r : Reading) : Layout.readParts? [] r [] = some (r, []) := rfl
  have same (tail : Layout) := isDay.read?_append isMark tail []
  have alone := List.append_nil s
  rw [← alone] at short ⊢
  rw [isDay.readChars?_append isMark short, layouts_eq]
  rcases isMark with rfl | rfl
  · have other (tail : Layout) : Layout.read? (Layout.dateWith '/' ++ tail) (s ++ []) = none :=
      isDay.read?_other (.inl rfl) (by decide) tail []
    simp only [List.findSome?_cons, same, other, noMark, noTime, noHour, nothing,
      Option.bind_none, Option.bind_some, finish?, List.findSome?_nil]
    cases DateTime.ofFields? date 0 0 0 0 <;> rfl
  · have other (tail : Layout) : Layout.read? (Layout.dateWith '-' ++ tail) (s ++ []) = none :=
      isDay.read?_other (.inr rfl) (by decide) tail []
    simp only [List.findSome?_cons, same, other, noTime, noHour, nothing, Option.bind_none,
      Option.bind_some, finish?, List.findSome?_nil]
    cases DateTime.ofFields? date 0 0 0 0 <;> rfl

/-- A day and a time that exist are read together.  A blank between them goes with both marks, the
letter with the dash only. -/
theorem readChars?_time (isDay : IsDay mark date s) (isTime : IsTime hour minute second t)
    {separator : Char} (joins : separator = ' ' ∧ IsDayMark mark ∨ separator = 'T' ∧ mark = '-')
    (short : (s ++ separator :: t).length < 20) {d : DateTime}
    (exist : DateTime.ofFields? date hour minute second 0 = some d) :
    readChars? (s ++ separator :: t) = some d := by
  have isMark : IsDayMark mark := joins.elim And.right fun letter => .inl letter.2
  have same (tail : Layout) := isDay.read?_append isMark tail (separator :: t)
  have noMark (tail : Layout) (r : Reading) :
      Layout.readParts? (.mark 'T' :: tail) r (' ' :: t) = none := rfl
  have time (r : Reading) (part : Part) (leads : part.read? r (separator :: t) = some (r, t)) :
      Layout.readParts? (part :: Layout.fullClock) r (separator :: t) =
        some (⟨r.date, hour, minute, second, 0⟩, []) := by
    rw [Layout.readParts?, leads]
    exact isTime.readParts? r
  have gap (r : Reading) : Part.gap.read? r (' ' :: t) = some (r, t) :=
    congrArg (fun s => some (r, s)) (skipBlanks_eq_self isTime.isBlank_head?)
  have letter (r : Reading) : (Part.mark 'T').read? r ('T' :: t) = some (r, t) := rfl
  rw [isDay.readChars?_append isMark short, layouts_eq]
  rcases joins with ⟨rfl, rfl | rfl⟩ | ⟨rfl, rfl⟩
  · simp only [List.findSome?_cons, same, noMark, time _ _ (gap _), Option.bind_none,
      Option.bind_some, finish?, exist]
  · have other (tail : Layout) :
        Layout.read? (Layout.dateWith '-' ++ tail) (s ++ ' ' :: t) = none :=
      isDay.read?_other isMark (by decide) tail (' ' :: t)
    simp only [List.findSome?_cons, same, other, time _ _ (gap _), Option.bind_some, finish?,
      exist]
  · simp only [List.findSome?_cons, same, time _ _ (letter _), Option.bind_some, finish?, exist]

end IsDay

end

/-! ## What is read exists -/

section

variable {d : DateTime} {s : List Char}

theorem isValid_of_ofFields? {date : CalendarDate} {hour minute second nanosecond : Nat}
    (made : DateTime.ofFields? date hour minute second nanosecond = some d) : d.isValid = true := by
  simp only [DateTime.ofFields?] at made
  rw [Option.ite_none_right_eq_some, Option.some.injEq] at made
  exact made.2 ▸ made.1

theorem isValid_of_toUtc? {localTime : DateTime} {offset : Int}
    (moved : localTime.toUtc? offset = some d) : d.isValid = true := by
  simp only [DateTime.toUtc?] at moved
  rw [Option.ite_none_right_eq_some, Option.some.injEq] at moved
  exact moved.2 ▸ moved.1

theorem isValid_of_timestamp? (read : timestamp? s = some d) : d.isValid = true := by
  obtain ⟨_, _, -, _, -, _, _, -, _, -, _, _, -, _, -, _, _, -, _, -, _, _, -, _, -, _, _, -,
    _, _, -, _, _, -, _, -, -, moved⟩ := timestamp?_eq_some_iff.mp read
  exact isValid_of_toUtc? moved

theorem isValid_of_messageDate? (read : messageDate? s = some d) : d.isValid = true := by
  simp only [messageDate?, ↓Option.bind_eq_bind, ↓Option.bind_eq_some_iff, Prod.exists,
    Option.ite_none_right_eq_some] at read
  obtain ⟨_, _, -, _, _, -, _, -, _, _, -, _, -, _, _, -, _, -, _, _, -, _, -, _, _, -, _, _, -,
    _, -, _, _, -, _, -, -, moved⟩ := read
  exact isValid_of_toUtc? moved

theorem isValid_of_layout {layout : Layout} (read : layout.read? s = some d) :
    d.isValid = true := by
  unfold Layout.read? at read
  split at read
  · exact isValid_of_ofFields? read
  · cases read

/-- Whatever the notation is, a date that is read exists. -/
theorem isValid_of_read? {text : String} (read : read? text = some d) : d.isValid = true := by
  rw [read?, readChars?, Option.ite_none_left_eq_some] at read
  obtain ⟨reading, isReading, found⟩ := List.exists_of_findSome?_eq_some read.2
  rw [readings, List.mem_cons, List.mem_cons, List.mem_map] at isReading
  rcases isReading with rfl | rfl | ⟨layout, -, rfl⟩
  · exact isValid_of_timestamp? found
  · exact isValid_of_messageDate? found
  · exact isValid_of_layout found

end

end Rulebook.Date
