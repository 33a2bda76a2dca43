import Rulebook.Proofs.Date.Scan

/-!
# Notations and their outlines

Blanks, digits and signs may stand almost anywhere in a date, so the notations agree on long parts
of a text.  What is left without them is the outline: the letters, colons and slashes in their
order.  A layout fixes the outline of the texts that it reads, and no two layouts fix the same one.
A timestamp has one of nine others, as its offset is a letter of its own or brings a third colon,
and the date of a message has a vowel, which is in the name of its month.  So no text is read in
two notations, and it does not matter which of them is tried first.
-/

namespace Rulebook.Date

open Text

/-! ## Outlines -/

/-- The characters that the notations differ in: letters, colons and slashes. -/
def isOutline (c : Char) : Bool :=
  c.isAlpha || c == ':' || c == '/'

/-- A text without its blanks, digits, points and signs. -/
def outline (s : List Char) : List Char :=
  s.filter isOutline

/-- The texts that a notation accepts have outlines of one kind. -/
def Shows (f : List Char → Option DateTime) (kind : List Char → Prop) : Prop :=
  ∀ s d, f s = some d → kind (outline s)

section

variable {c : Char} {s t : List Char}

theorem isAlpha_eq_or (c : Char) : c.isAlpha = (c.isUpper || c.isLower) :=
  rfl

theorem isUpper_iff_val : c.isUpper = true ↔ c.val ≥ 'A'.val ∧ c.val ≤ 'Z'.val :=
  decide_eq_true_iff

theorem isLower_iff_val : c.isLower = true ↔ c.val ≥ 'a'.val ∧ c.val ≤ 'z'.val :=
  Bool.and_eq_true_iff.trans (and_congr decide_eq_true_iff decide_eq_true_iff)

theorem isOutline_iff_toNat : isOutline c = true ↔ 65 ≤ c.toNat ∧ c.toNat ≤ 90 ∨
    97 ≤ c.toNat ∧ c.toNat ≤ 122 ∨ c.toNat = 58 ∨ c.toNat = 47 := by
  have colon : c = ':' ↔ c.toNat = 58 := Char.toNat_inj.symm
  have slash : c = '/' ↔ c.toNat = 47 := Char.toNat_inj.symm
  simp only [isOutline, isAlpha_eq_or, Bool.or_eq_true, isUpper_iff_val, isLower_iff_val,
    beq_iff_eq, ge_iff_le, UInt32.le_iff_toNat_le, colon, slash]
  simp [or_assoc]

theorem isOutline_of_isDigit (isDigit : c.isDigit = true) : isOutline c = false := by
  have range := Char.isDigit_iff_toNat.mp isDigit
  have zero : '0'.toNat = 48 := rfl
  have nine : '9'.toNat = 57 := rfl
  rw [← Bool.not_eq_true, isOutline_iff_toNat]
  omega

theorem isOutline_of_isBlank (blank : isBlank c = true) : isOutline c = false := by
  simp only [isBlank, Bool.or_eq_true, Bool.and_eq_true, decide_eq_true_eq, beq_iff_eq] at blank
  rw [← Bool.not_eq_true, isOutline_iff_toNat]
  omega

theorem outline_append (s t : List Char) : outline (s ++ t) = outline s ++ outline t :=
  List.filter_append s t

theorem outline_cons (c : Char) (s : List Char) : outline (c :: s) = outline [c] ++ outline s :=
  outline_append [c] s

theorem outline_append_of_plain (plain : ∀ c ∈ s, isOutline c = false) (t : List Char) :
    outline (s ++ t) = outline t := by
  have nothing : outline s = [] :=
    List.filter_eq_nil_iff.mpr fun c isMember => by simp [plain c isMember]
  rw [outline_append, nothing, List.nil_append]

end

/-! ## What the parts of notations leave out -/

section

variable {least most n : Nat} {c : Char} {s rest : List Char}

theorem outline_skipBlanks (s : List Char) : outline (skipBlanks s) = outline s := by
  have plain : ∀ c ∈ s.takeWhile isBlank, isOutline c = false :=
    fun c isSkipped => isOutline_of_isBlank (List.mem_takeWhile_imp isSkipped)
  have skipped := outline_append_of_plain plain (s.dropWhile isBlank)
  rw [List.takeWhile_append_dropWhile] at skipped
  exact skipped.symm

theorem outline_number? (read : number? least most s = some (n, rest)) :
    outline s = outline rest := by
  obtain ⟨digits, areDigits, -, rfl⟩ := exists_digits_of_number? read
  exact outline_append_of_plain (fun c isMember => isOutline_of_isDigit (areDigits c isMember)) rest

theorem outline_field? (read : field? s = some (n, rest)) : outline s = outline rest := by
  rw [← outline_skipBlanks s]
  exact outline_number? read

theorem outline_year? {year : Int} (read : year? s = some (year, rest)) :
    outline s = outline rest := by
  have plus (s : List Char) : outline ('+' :: s) = outline s := rfl
  have minus (s : List Char) : outline ('-' :: s) = outline s := rfl
  rw [← outline_skipBlanks s]
  unfold year? at read
  split at read <;> simp only [Option.map_eq_some_iff, Prod.exists, Prod.mk.injEq] at read <;>
    obtain ⟨n, left, number, -, rfl⟩ := read
  · next signed same => rw [same, plus, outline_number? number]
  · next signed same => rw [same, minus, outline_number? number]
  · exact outline_number? number

theorem outline_mark? (read : mark? c s = some rest) : outline s = outline [c] ++ outline rest := by
  rw [eq_cons_of_mark? read, outline_cons]

theorem outline_optionalFraction? (read : optionalFraction? s = some (n, rest)) :
    outline s = outline rest := by
  obtain ⟨fraction, pointOrDigits, rfl⟩ := exists_fraction_of_optionalFraction? read
  refine outline_append_of_plain (fun c isMember => ?_) rest
  rcases pointOrDigits c isMember with rfl | isDigit
  · decide
  · exact isOutline_of_isDigit isDigit

end

/-! ## Outlines of layouts -/

/-- What a part of a layout adds to the outline: only marks can add something. -/
def Part.outline : Part → List Char
  | mark c => Date.outline [c]
  | _ => []

/-- The outline that a layout fixes. -/
def Layout.outline (layout : Layout) : List Char :=
  layout.flatMap Part.outline

section

variable {r r' : Reading} {s rest : List Char}

theorem outline_part {part : Part} (read : part.read? r s = some (r', rest)) :
    outline s = part.outline ++ outline rest := by
  cases part <;> simp only [Part.read?, Option.map_eq_some_iff, Prod.exists, Prod.mk.injEq] at read
  case year =>
    obtain ⟨_, _, year, -, rfl⟩ := read
    exact outline_year? year
  case fraction =>
    obtain ⟨_, _, fraction, -, rfl⟩ := read
    exact outline_optionalFraction? fraction
  case gap =>
    cases read
    exact (outline_skipBlanks s).symm
  case mark c =>
    obtain ⟨_, mark, -, rfl⟩ := read
    exact outline_mark? mark
  all_goals
    obtain ⟨_, _, field, -, rfl⟩ := read
    exact outline_field? field

theorem outline_readParts? {layout : Layout} (read : layout.readParts? r s = some (r', rest)) :
    outline s = layout.outline ++ outline rest := by
  -- Along the layout, for whatever text and fields its other parts are left with.
  induction layout generalizing r s with
  | nil =>
      cases read
      rfl
  | cons part layout ih =>
      rw [Layout.readParts?] at read
      split at read
      · next first =>
          rw [outline_part first, ih read, Layout.outline, Layout.outline, List.flatMap_cons,
            List.append_assoc]
      · cases read

/-- A layout reads texts of its own outline only. -/
theorem shows_layout (layout : Layout) : Shows layout.read? (· = layout.outline) := by
  intro s d read
  rw [read?_eq_bind, Option.bind_eq_some_iff] at read
  obtain ⟨⟨r, left⟩, parts, finished⟩ := read
  cases left with
  | nil => simpa [outline] using outline_readParts? parts
  | cons c left => cases finished

end

/-! ## Outlines of timestamps -/

/-- The outlines that timestamps have. -/
def timestampOutlines : List (List Char) :=
  ["::Z", "::z", ":::", "T::Z", "T::z", "T:::", "t::Z", "t::z", "t:::"].map String.toList

section

variable {s rest : List Char}

theorem outline_timeMark? (read : timeMark? s = some rest) :
    ∃ mark ∈ [[], ['T'], ['t']], outline s = mark ++ outline rest := by
  obtain ⟨mark, isMark, rfl⟩ := exists_mark_of_timeMark? read
  refine ⟨outline [mark], ?_, outline_cons mark rest⟩
  rcases isMark with rfl | rfl | rfl <;> decide

theorem outline_offsetSign? {longMinus negative : Bool}
    (read : offsetSign? longMinus s = some (negative, rest)) : outline s = outline rest := by
  unfold offsetSign? at read
  split at read
  · cases read
    rfl
  · cases read
    rfl
  · next c left _ _ =>
      simp only [Option.ite_none_right_eq_some, Bool.and_eq_true, decide_eq_true_eq,
        Option.some.injEq, Prod.mk.injEq] at read
      obtain ⟨⟨-, minus⟩, -, rfl⟩ := read
      -- The long minus is no letter either.
      have plain : isOutline c = false := by
        rw [← Bool.not_eq_true, isOutline_iff_toNat]
        omega
      exact outline_append_of_plain (s := [c]) (by simpa using plain) left
  · cases read

theorem outline_timestampOffset? {offset : Int}
    (read : timestampOffset? s = some (offset, rest)) :
    ∃ zone ∈ [[':'], ['Z'], ['z']], outline s = zone ++ outline rest := by
  unfold timestampOffset? at read
  split at read
  · cases read
    exact ⟨['Z'], by decide, rfl⟩
  · cases read
    exact ⟨['z'], by decide, rfl⟩
  · simp only [↓Option.bind_eq_bind, ↓Option.bind_eq_some_iff, Prod.exists] at read
    obtain ⟨_, _, sign, _, _, hours, _, colon, _, _, minutes, _, -, same⟩ := read
    cases same
    refine ⟨[':'], by decide, ?_⟩
    rw [outline_offsetSign? sign, outline_number? hours, outline_mark? colon,
      outline_number? minutes]
    rfl

theorem shows_timestamp? : Shows timestamp? (· ∈ timestampOutlines) := by
  intro s d read
  obtain ⟨_, _, year, _, yearMark, _, _, month, _, monthMark, _, _, day, _, dayMark,
    _, _, hour, _, hourMark, _, _, minute, _, minuteMark, _, _, second,
    _, _, fraction, _, left, offset, _, -, nothing, -⟩ := timestamp?_eq_some_iff.mp read
  obtain ⟨mark, isMark, front⟩ := outline_timeMark? dayMark
  obtain ⟨zone, isZone, back⟩ := outline_timestampOffset? offset
  rw [List.isEmpty_iff.mp nothing] at back
  have parts : outline s = mark ++ [':', ':'] ++ zone := by
    rw [outline_number? year, outline_mark? yearMark, outline_number? month,
      outline_mark? monthMark, outline_number? day, front, outline_number? hour,
      outline_mark? hourMark, outline_number? minute, outline_mark? minuteMark,
      outline_number? second, outline_optionalFraction? fraction, back]
    simp [outline, isOutline]
  have combined : ∀ mark ∈ [[], ['T'], ['t']], ∀ zone ∈ [[':'], ['Z'], ['z']],
      mark ++ [':', ':'] ++ zone ∈ timestampOutlines := by decide
  rw [parts]
  exact combined mark isMark zone isZone

end

/-! ## Outlines of messages -/

/-- The vowels in the names of months. -/
def vowels : List Char :=
  ['a', 'e', 'o', 'u']

/-- A text with a vowel in it, small or capital. -/
def HasVowel (s : List Char) : Prop :=
  ∃ c ∈ s, c.toLower ∈ vowels

instance : DecidablePred HasVowel := fun s =>
  decidable_of_iff (s.any fun c => vowels.contains c.toLower) <| by
    simp only [HasVowel, List.any_eq_true, List.contains_iff_mem]

section

variable {least most n : Nat} {c : Char} {s t rest : List Char} {d : DateTime}

theorem isAlpha_of_isLower_toLower (lower : c.toLower.isLower = true) : c.isAlpha = true := by
  unfold Char.toLower at lower
  rw [isAlpha_eq_or, Bool.or_eq_true]
  split at lower
  · next upper => exact .inl (isUpper_iff_val.mpr upper)
  · exact .inr lower

namespace HasVowel

theorem outline (hasVowel : HasVowel s) : HasVowel (outline s) := by
  obtain ⟨c, isMember, isVowel⟩ := hasVowel
  have lower : vowels.all Char.isLower = true := by decide
  have isLetter := isAlpha_of_isLower_toLower (List.all_eq_true.mp lower _ isVowel)
  exact ⟨c, List.mem_filter.mpr ⟨isMember, by simp [isOutline, isLetter]⟩, isVowel⟩

theorem of_suffix (suffix : s <:+ t) (hasVowel : HasVowel s) : HasVowel t := by
  obtain ⟨c, isMember, isVowel⟩ := hasVowel
  exact ⟨c, suffix.mem isMember, isVowel⟩

end HasVowel

/-- Every month has a vowel among its first three letters. -/
theorem hasVowel_of_monthName? (read : name? monthNames s = some (n, rest)) : HasVowel s := by
  have vowel : ∀ name ∈ monthNames, name.toList.any vowels.contains = true := by decide
  obtain ⟨place, found, -⟩ := Option.map_eq_some_iff.mp read
  obtain ⟨inRange, same, -⟩ := List.findIdx?_eq_some_iff_getElem.mp found
  have inWord := vowel _ (List.getElem_mem inRange)
  rw [beq_iff_eq.mp same, String.toList_ofList, List.any_map, List.any_eq_true] at inWord
  obtain ⟨c, isMember, isVowel⟩ := inWord
  exact ⟨c, List.mem_of_mem_take isMember, List.contains_iff_mem.mp isVowel⟩

theorem suffix_of_number? (read : number? least most s = some (n, rest)) : rest <:+ s := by
  obtain ⟨digits, -, -, rfl⟩ := exists_digits_of_number? read
  exact List.suffix_append digits rest

theorem suffix_of_skipBlanks? (read : skipBlanks? s = some rest) : rest <:+ s := by
  cases s with
  | nil => cases read
  | cons c s =>
      rw [skipBlanks?, Option.ite_none_right_eq_some, Option.some.injEq] at read
      rw [← read.2]
      exact (List.dropWhile_suffix isBlank).trans (List.suffix_cons c s)

theorem suffix_of_weekday? {weekday : Option Nat} (read : weekday? s = some (weekday, rest)) :
    rest <:+ s := by
  unfold weekday? at read
  split at read
  · next named =>
      obtain ⟨_, comma, same⟩ := Option.map_eq_some_iff.mp read
      obtain ⟨_, -, same'⟩ := Option.map_eq_some_iff.mp named
      cases same
      cases same'
      have behind : rest <:+ s.drop 3 := by
        rw [eq_cons_of_mark? comma]
        exact List.suffix_cons ',' rest
      exact behind.trans (List.drop_suffix 3 s)
  · cases read
    exact List.suffix_rfl

theorem hasVowel_of_messageDate? (read : messageDate? s = some d) : HasVowel s := by
  simp only [messageDate?, ↓Option.bind_eq_bind, ↓Option.bind_eq_some_iff, Prod.exists] at read
  obtain ⟨_, _, weekday, _, _, day, _, space, _, _, month, -⟩ := read
  have skipped (s : List Char) : skipBlanks s <:+ s := List.dropWhile_suffix isBlank
  have untilMonth := (suffix_of_skipBlanks? space).trans <| (suffix_of_number? day).trans <|
    (skipped _).trans <| (suffix_of_weekday? weekday).trans (skipped s)
  exact (hasVowel_of_monthName? month).of_suffix untilMonth

theorem shows_messageDate? : Shows messageDate? HasVowel :=
  fun _ _ read => (hasVowel_of_messageDate? read).outline

end

/-! ## One notation at most -/

/-- No text is read in both notations. -/
def Apart (f g : List Char → Option DateTime) : Prop :=
  ∀ s, f s = none ∨ g s = none

/-- Notations with outlines of different kinds are apart. -/
theorem Shows.apart {f g : List Char → Option DateTime} {kind kind' : List Char → Prop}
    (first : Shows f kind) (second : Shows g kind') (differ : ∀ o, kind o → ¬kind' o) :
    Apart f g := by
  intro s
  cases read : f s with
  | none => exact .inl rfl
  | some d =>
      refine .inr (Option.eq_none_iff_forall_ne_some.mpr fun e read' => ?_)
      exact differ _ (first s d read) (second s e read')

section

variable {layout : Layout}

theorem timestamp?_apart_layout (isLayout : layout ∈ Layout.dateTimes ++ Layout.dates) :
    Apart timestamp? layout.read? := by
  have others : ∀ layout ∈ Layout.dateTimes ++ Layout.dates,
      layout.outline ∉ timestampOutlines := by decide
  refine shows_timestamp?.apart (shows_layout layout) ?_
  rintro _ isTimestamp rfl
  exact others layout isLayout isTimestamp

theorem messageDate?_apart_layout (isLayout : layout ∈ Layout.dateTimes ++ Layout.dates) :
    Apart messageDate? layout.read? := by
  have noVowel : ∀ layout ∈ Layout.dateTimes ++ Layout.dates,
      ¬HasVowel layout.outline := by decide
  refine shows_messageDate?.apart (shows_layout layout) ?_
  rintro _ hasVowel rfl
  exact noVowel layout isLayout hasVowel

/-- The layouts differ in their mark, in the letter, or in the number of colons. -/
theorem layouts_pairwise_apart :
    ((Layout.dateTimes ++ Layout.dates).map Layout.read?).Pairwise Apart := by
  have different : (Layout.dateTimes ++ Layout.dates).Pairwise
      fun layout layout' => layout.outline ≠ layout'.outline := by decide
  rw [List.pairwise_map]
  refine different.imp fun {layout layout'} differ => ?_
  refine (shows_layout layout).apart (shows_layout layout') ?_
  rintro _ rfl
  exact differ

end

/-- No text is read in two of the ten notations. -/
theorem readings_pairwise_apart : readings.Pairwise Apart := by
  have noVowel : ∀ o ∈ timestampOutlines, ¬HasVowel o := by decide
  simp only [readings, List.pairwise_cons, List.forall_mem_cons, List.forall_mem_map]
  exact ⟨⟨shows_timestamp?.apart shows_messageDate? noVowel, fun _ => timestamp?_apart_layout⟩,
    fun _ => messageDate?_apart_layout, layouts_pairwise_apart⟩

/-- Of notations that are apart at most one makes something of a text. -/
theorem length_filterMap_le_one {notations : List (List Char → Option DateTime)}
    (apart : notations.Pairwise Apart) (s : List Char) :
    (notations.filterMap fun read => read s).length ≤ 1 := by
  induction notations with
  | nil => exact Nat.zero_le 1
  | cons read notations ih =>
      obtain ⟨others, apart⟩ := List.pairwise_cons.mp apart
      cases accepted : read s with
      | none =>
          rw [List.filterMap_cons, accepted]
          exact ih apart
      | some d =>
          have rejected : notations.filterMap (fun read => read s) = [] :=
            List.filterMap_eq_nil_iff.mpr fun other isOther =>
              (others other isOther s).resolve_left (by simp [accepted])
          rw [List.filterMap_cons, accepted, rejected, List.length_singleton]

/-- If at most one of several readers accepts, they may be asked in any order. -/
theorem findSome?_eq_of_perm {α β : Type} {read : α → Option β} {readers order : List α}
    (few : (readers.filterMap read).length ≤ 1) (perm : order.Perm readers) :
    order.findSome? read = readers.findSome? read := by
  have same : order.filterMap read = readers.filterMap read := by
    have results := perm.filterMap read
    rcases Nat.le_one_iff_eq_zero_or_eq_one.mp few with none | one
    · rw [List.eq_nil_of_length_eq_zero none] at results ⊢
      exact List.perm_nil.mp results
    · obtain ⟨d, alone⟩ := List.length_eq_one_iff.mp one
      rw [alone] at results ⊢
      exact List.perm_singleton.mp results
  rw [← List.head?_filterMap, same, List.head?_filterMap]

/-- No notation reads the empty text, so it needs no case of its own. -/
theorem readChars?_eq_findSome? (s : List Char) :
    readChars? s = readings.findSome? fun read => read s := by
  cases s with
  | nil => rfl
  | cons c s => rfl

/-- Dates are written unambiguously.  Of the ten notations at most one accepts a text without the
blanks around it, and so in whatever order they are tried the text is read as the same date, or as
none. -/
theorem readings_unambiguous (text : String) :
    (readings.countP fun read => (read (trimChars text.toList)).isSome) ≤ 1 ∧
      ∀ order : List (List Char → Option DateTime), order.Perm readings →
        (order.findSome? fun read => read (trimChars text.toList)) = read? text := by
  have few := length_filterMap_le_one readings_pairwise_apart (trimChars text.toList)
  constructor
  · rwa [← List.length_filterMap_eq_countP]
  · intro order perm
    rw [read?, readChars?_eq_findSome?]
    exact findSome?_eq_of_perm few perm

/-- A timestamp that starts like a date without an offset, tried in the last notation first. -/
theorem readings_unambiguous_reverse :
    let s := trimChars "\t2015-03-04 00:20:30+02:00 ".toList
    (readings.countP fun read => (read s).isSome) ≤ 1 ∧ readings.reverse.Perm readings ∧
      (readings.reverse.findSome? fun read => read s) =
        some ⟨⟨2015, 3, 3⟩, 22, 20, 30, 0⟩ := by
  obtain ⟨few, anyOrder⟩ := readings_unambiguous "\t2015-03-04 00:20:30+02:00 "
  have perm : readings.reverse.Perm readings := List.reverse_perm _
  have read : read? "\t2015-03-04 00:20:30+02:00 " = some ⟨⟨2015, 3, 3⟩, 22, 20, 30, 0⟩ := by
    decide +kernel
  exact ⟨few, perm, (anyOrder _ perm).trans read⟩

-- Each notation is the first that accepts one of these texts, so none of them is idle.
example : ["2015-03-04T10:20:30Z", "Wed, 04 Mar 2015 10:20:30 +0000", "2015-03-04T10:20:30",
      "2015-03-04 10:20:30.125", "2015-03-04T10:20", "2015-03-04 10:20", "2015/03/04 10:20:30",
      "2015/03/04 10:20", "2015-03-04", "2015/03/04"].map
        (fun text => readings.findIdx? fun read => (read text.toList).isSome) =
    (List.range 10).map some := by
  decide +kernel

end Rulebook.Date
